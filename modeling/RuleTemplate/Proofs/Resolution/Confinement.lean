import Mathlib.Data.Set.Basic
import RuleTemplate.Proofs.Resolution.DepthLimit

/-!
A run depends on the store only through the namespaces that it names. As long as no fallback
probe is called, which is handed the whole store, and every path that is looked up from the
root begins with one of some names, a store that holds the same under these names gives the
same run. The two runs are kept in step for as long as the first one stays within the names.
-/
namespace RuleTemplate

/-- The path does not lead to the root itself, and its first segment is one of the names. -/
def Address.StartsIn (names : Set String) (path : String) : Prop :=
  ∃ name ∈ names, (Address.segments path).head? = some name

/-- If the step meets the store, it does so under one of the names. -/
def Event.StaysIn (names : Set String) : Event → Prop
  | .lookedUp address _ => Address.StartsIn names address
  | .located target _ _ => Address.StartsIn names target
  | .invoked .fallback _ _ => False
  | _ => True

instance (names : Set String) [DecidablePred (· ∈ names)] :
    DecidablePred (Address.StartsIn names) := fun path =>
  decidable_of_iff ((Address.segments path).head?.any fun name => name ∈ names) (by
    simp only [Option.any_eq_true, decide_eq_true_eq, Address.StartsIn]
    exact ⟨fun ⟨name, hhead, hname⟩ => ⟨name, hname, hhead⟩,
      fun ⟨name, hname, hhead⟩ => ⟨name, hhead, hname⟩⟩)

instance (names : Set String) [DecidablePred (· ∈ names)] :
    DecidablePred (Event.StaysIn names)
  | .lookedUp address _ => inferInstanceAs (Decidable (Address.StartsIn names address))
  | .located target _ _ => inferInstanceAs (Decidable (Address.StartsIn names target))
  | .invoked .fallback _ _ => inferInstanceAs (Decidable False)
  | .invoked (.clause _ _) _ _ | .property _ | .refused _ _ | .opened _ | .reached _ |
    .compared _ _ _ | .malformed _ _ | .outranked _ _ _ | .selected _ _ | .supplied _ |
    .failed _ | .finished _ => inferInstanceAs (Decidable True)

def Store.AgreeOn (names : Set String) (a b : Store) : Prop :=
  ∀ name ∈ names, a.namespaces.get? name = b.namespaces.get? name

def Setting.withStore {σ : Type} (setting : Setting σ) (store : Store) : Setting σ :=
  { setting with store := store }

theorem Store.AgreeOn.lookup_eq {names : Set String} {a b : Store} (h : a.AgreeOn names b)
    {path : String} (hpath : Address.StartsIn names path) :
    Address.lookup a.toValue path = Address.lookup b.toValue path := by
  obtain ⟨name, hname, hhead⟩ := hpath
  obtain ⟨rest, hsegments⟩ : ∃ rest, Address.segments path = name :: rest := by
    cases hsegments : Address.segments path with
    | nil => simp [hsegments] at hhead
    | cons first rest =>
      rw [hsegments, List.head?_cons, Option.some.injEq] at hhead
      exact ⟨rest, by rw [hhead]⟩
  have hstep : Address.step a.toValue name = Address.step b.toValue name := h name hname
  rw [Address.lookup, Address.lookup, hsegments, Address.follow_cons, Address.follow_cons, hstep]

namespace Resolution

variable {σ α β : Type} {names : Set String}

/-- What a run from `s` says about another one: if no step of it leaves the names, the other
one is the same. -/
structure Mirrors (names : Set String) (Φ : α → Prop) (s : State σ)
    (run run' : Except DepthExceeded α × State σ) : Prop where
  result : ∀ a, run.1 = .ok a → Φ a
  grows : s.journal <:+ run.2.journal
  same : (∀ event ∈ run.2.journal, event.StaysIn names) → run' = run

def Mirrored (names : Set String) (Φ : α → Prop) (m n : Resolution σ α) : Prop :=
  ∀ s, Mirrors names Φ s (m s) (n s)

theorem Mirrored.bind {Φ : α → Prop} {Ψ : β → Prop} {m n : Resolution σ α}
    {f g : α → Resolution σ β} (hm : Mirrored names Φ m n)
    (hf : ∀ a, Φ a → Mirrored names Ψ (f a) (g a)) :
    Mirrored names Ψ (m >>= f) (n >>= g) := by
  intro s
  have hfirst := hm s
  rcases hrun : m s with ⟨result, t⟩
  rw [hrun] at hfirst
  cases result with
  | error e =>
    rw [bind_of_error hrun]
    exact ⟨fun b hb => by simp at hb, hfirst.grows,
      fun hstays => bind_of_error (hfirst.same hstays) g⟩
  | ok a =>
    rw [bind_of_ok hrun]
    have hsecond := hf a (hfirst.result a rfl) t
    refine ⟨hsecond.result, hfirst.grows.trans hsecond.grows, fun hstays => ?_⟩
    have hrun' : n s = (.ok a, t) :=
      hfirst.same fun event hevent => hstays event (hsecond.grows.subset hevent)
    rw [bind_of_ok hrun']
    exact hsecond.same hstays

theorem mirrored_pure {Φ : α → Prop} {a : α} (ha : Φ a) :
    Mirrored names Φ (pure a : Resolution σ α) (pure a) :=
  fun s => ⟨fun _ hb => Except.ok.inj hb ▸ ha, List.suffix_refl s.journal, fun _ => rfl⟩

/-- A step that adds one event is the same in both runs, unless the event leaves the names. -/
theorem mirrored_step {Φ : α → Prop} {m n : Resolution σ α} (event : State σ → Event)
    (hjournal : ∀ s, (m s).2.journal = event s :: s.journal)
    (hresult : ∀ s a, (m s).1 = .ok a → Φ a)
    (hsame : ∀ s, (event s).StaysIn names → n s = m s) : Mirrored names Φ m n := by
  intro s
  refine ⟨hresult s, ?_, fun hstays => hsame s (hstays _ ?_)⟩
  · rw [hjournal]
    exact List.suffix_cons _ _
  · rw [hjournal]
    exact List.mem_cons_self

theorem mirrored_count (change : Metrics → Metrics) :
    Mirrored names (fun _ => True) (count change : Resolution σ Unit) (count change) :=
  fun s => ⟨fun _ _ => trivial, List.suffix_refl s.journal, fun _ => rfl⟩

theorem mirrored_note (event : Event) :
    Mirrored names (fun _ => True) (note event : Resolution σ Unit) (note event) :=
  mirrored_step (fun _ => event) (fun _ => rfl) (fun _ _ _ => trivial) fun _ _ => rfl

/-- What follows a look-up only has to be the same where the look-up stays within the names. -/
theorem Mirrored.guarded {Φ : α → Prop} {first first' : Resolution σ Unit}
    {m n n' : Resolution σ α} (event : Event)
    (hjournal : ∀ s, (first s).2.journal = event :: s.journal) (hm : Mirrored names Φ m n)
    (hsame : event.StaysIn names → first' = first ∧ n' = n) :
    Mirrored names Φ (first >>= fun _ => m) (first' >>= fun _ => n') := by
  have hfirst : Mirrored names (fun _ => True) first first :=
    mirrored_step (fun _ => event) hjournal (fun _ _ _ => trivial) fun _ _ => rfl
  intro s
  obtain ⟨hresult, hgrows, hrun⟩ := hfirst.bind (fun _ _ => hm) s
  refine ⟨hresult, hgrows, fun hstays => ?_⟩
  have hevent : event ∈ ((first >>= fun _ => m) s).2.journal := by
    have hmem : event ∈ (first s).2.journal := by
      rw [hjournal]
      exact List.mem_cons_self
    rcases hcase : first s with ⟨result, t⟩
    rw [hcase] at hmem
    cases result with
    | error e => rwa [bind_of_error hcase]
    | ok u =>
      rw [bind_of_ok hcase]
      exact (hm t).grows.subset hmem
  obtain ⟨rfl, rfl⟩ := hsame (hstays event hevent)
  exact hrun hstays

theorem mirrored_congruence (names : Set String) :
    Congruence fun _ Φ (m n : Resolution σ _) => Mirrored names Φ m n where
  pure := mirrored_pure
  bind := Mirrored.bind
  note event _ := mirrored_note event
  count change _ := mirrored_count change

section Stores

variable {S : Setting σ} {store' : Store} (hagree : store'.AgreeOn names S.store)
include hagree

theorem mirrored_access {d e : Value → Resolution σ Value}
    (hd : ∀ v, True → Mirrored names (fun _ => True) (d v) (e v)) (address : String) :
    Mirrored names (fun found => ∀ v ∈ found, True) (access S d address)
      (access (S.withStore store') e address) := by
  refine Mirrored.guarded (n := (Address.lookup S.root address).mapM e)
    (.lookedUp address (Address.lookup S.root address).isSome) (fun _ => rfl) ?_
    fun hstays => ?_
  · cases Address.lookup S.root address with
    | none => exact mirrored_pure (by simp)
    | some v =>
      exact (mirrored_congruence names).map (Φ := fun _ => True) (hd v trivial) (by simp)
  · have hfound : Address.lookup (S.withStore store').root address =
        Address.lookup S.root address := hagree.lookup_eq hstays
    rw [hfound]
    exact ⟨rfl, rfl⟩

theorem mirrored_reachCall {d e : Value → Resolution σ Value} {Φ : Record → Prop}
    (target : String) (spec : CallSpec)
    (hbind : Mirrored names Φ (bindArgs S d spec.args [])
      (bindArgs (S.withStore store') e spec.args [])) :
    Mirrored names (fun found => ∀ v ∈ found, True) (reachCall S d target spec)
      (reachCall (S.withStore store') e target spec) := by
  have h := mirrored_congruence (σ := σ) names
  refine h.bind (mirrored_note _) fun _ _ => ?_
  refine Mirrored.guarded
    (n := callLocated (S.withStore store') e target spec (targetProbe S target spec.name))
    (.located target spec.name (targetProbe S target spec.name)) (fun _ => rfl) ?_
    fun hstays => ?_
  · cases targetProbe S target spec.name with
    | none => exact mirrored_pure (by simp)
    | some probe =>
      refine h.bind hbind fun args _ => h.bind (Φ := fun _ => True) ?_ fun returned _ => ?_
      · exact mirrored_step (fun _ => .invoked (.clause target spec) probe args) (fun _ => rfl)
          (fun _ _ _ => trivial) fun _ _ => rfl
      · exact h.bind (mirrored_note _) fun _ _ => mirrored_pure (by simp)
  · have hprobe : targetProbe (S.withStore store') target spec.name =
        targetProbe S target spec.name := by
      have hfound : Address.lookup (S.withStore store').root target =
          Address.lookup S.root target := hagree.lookup_eq hstays
      rw [targetProbe, hfound]
      rfl
    rw [hprobe]
    exact ⟨rfl, rfl⟩

end Stores

/-- A fallback probe leaves the names, so nothing is asked of its call. -/
theorem mirrored_openRule (S : Setting σ) (store' : Store) (fallback : Option Value) :
    Mirrored names (fun seeded => ∀ v ∈ seeded, True) (openRule S fallback)
      (openRule (S.withStore store') fallback) := by
  have h := mirrored_congruence (σ := σ) names
  refine h.bind (mirrored_count _) fun _ _ => h.bind (mirrored_note _) fun _ _ => ?_
  cases fallback with
  | none => exact mirrored_pure (by simp)
  | some v =>
    refine h.map (Φ := fun _ => True) ?_ (by simp)
    cases v with
    | probe p =>
      exact mirrored_step (fun _ => .invoked .fallback p [("contexts", S.root)]) (fun _ => rfl)
        (fun _ _ _ => trivial) fun _ hstays => hstays.elim
    | _ => exact mirrored_pure trivial

theorem mirrored_aligned {S : Setting σ} {store' : Store}
    (hagree : store'.AgreeOn names S.store) :
    Aligned S (S.withStore store') (fun _ => True) (fun _ => True)
      fun _ Φ (m n : Resolution σ _) => Mirrored names Φ m n where
  toCongruence := mirrored_congruence names
  toClosed := closed_trivial
  access := mirrored_access hagree
  openRule fallback _ := mirrored_openRule S store' fallback
  reachCall := mirrored_reachCall hagree
  collapse _ _ := Or.inr rfl

theorem mirrored_lockstep {S : Setting σ} {store' : Store}
    (hagree : store'.AgreeOn names S.store) :
    Lockstep S (S.withStore store') (fun _ => True) (fun _ => True)
      fun _ Φ (m n : Resolution σ _) => Mirrored names Φ m n where
  aligned := mirrored_aligned hagree
  limit := rfl
  refuse := mirrored_step (fun s => .refused S.options.maxDepth s.lastAddress) (fun _ => rfl)
    (fun _ _ _ => trivial) fun _ _ => rfl
  nested m n hm s := by
    obtain ⟨hresult, hgrows, hsame⟩ := hm s.enter
    exact ⟨hresult, hgrows, fun hstays => nested_of_eq (hsame hstays)⟩
  finish := mirrored_step (fun s => .finished s.metrics) (fun _ => rfl) (fun _ _ _ => trivial)
    fun _ _ => rfl

/-- If a run calls no fallback probe and looks nothing up but under some names, every store
that agrees on these names gives the same run: the same result or failure, the same counters
and steps, and with them the same calls of probes. The other namespaces may be anything, in
any order, and the probes machines with any states. -/
theorem resolveTemplate_confined (S : Setting σ) (names : Set String) (store' : Store)
    (template : Record) (probes : σ)
    (hstays : ∀ event ∈ (resolveTemplate S template { probes }).2.journal,
      event.StaysIn names)
    (hagree : store'.AgreeOn names S.store) :
    resolveTemplate (S.withStore store') template { probes } =
      resolveTemplate S template { probes } :=
  ((mirrored_lockstep hagree).resolveTemplate template (fun _ _ => trivial) { probes }).same hstays

def shuffledStore : Store := Store.ofRecord [
  ("@noise", .object [("x", .string "@a.x")]),
  ("@svc", .object [("next", .probe ⟨0⟩)]),
  ("@b", .object [("y", .string "deep")]),
  ("@a", .object [("x", .string "@b.y")])]

def askingTemplate : Record := [
  ("v", .object [("default", .string "none"), ("@svc::next[k:@a.x]:1", .string "@a.x")])]

theorem resolveTemplate_confined_shuffled :
    (∀ event ∈ (resolveTemplate countingSetting askingTemplate { probes := 0 }).2.journal,
      event.StaysIn {name | name ∈ ["@a", "@b", "@svc"]}) ∧
    shuffledStore.AgreeOn {name | name ∈ ["@a", "@b", "@svc"]} chainStore ∧
    resolveTemplate (countingSetting.withStore shuffledStore) askingTemplate { probes := 0 } =
      resolveTemplate countingSetting askingTemplate { probes := 0 } := by
  have hstays : ∀ event ∈
      (resolveTemplate countingSetting askingTemplate { probes := 0 }).2.journal,
      event.StaysIn {name | name ∈ ["@a", "@b", "@svc"]} := by decide +kernel
  have hagree : shuffledStore.AgreeOn {name | name ∈ ["@a", "@b", "@svc"]} chainStore := by
    intro name hname
    simp only [Set.mem_ofPred_eq, List.mem_cons, List.not_mem_nil, or_false] at hname
    rcases hname with rfl | rfl | rfl <;> rfl
  exact ⟨hstays, hagree, resolveTemplate_confined countingSetting _ shuffledStore askingTemplate 0
    hstays hagree⟩

end Resolution
end RuleTemplate
