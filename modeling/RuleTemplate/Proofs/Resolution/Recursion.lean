import Mathlib.Data.Prod.Lex
import RuleTemplate.Proofs.Resolution.Compositional

/-!
Resolution always ends, and fails in one way only. To resolve a value is to ask for other
values: for its parts on the same level, and one level deeper for what addresses and rules
lead to, if a level is left. What is asked for is smaller, in the lexicographic order of the
levels left and the size of the value, so the equation that says this has exactly one
solution. Every level that is entered is left again, and a failure names the limit and the
last address that was looked up.
-/
namespace RuleTemplate

def lastLookedUp : List Event → String
  | [] => ""
  | .lookedUp address _ :: _ => address
  | _ :: earlier => lastLookedUp earlier

def State.Tracks {σ : Type} (s : State σ) : Prop := s.lastAddress = lastLookedUp s.journal

namespace Value

mutual

def size : Value → Nat
  | array items => sizeItems items + 1
  | object members => sizeMembers members + 1
  | _ => 1
termination_by structural v => v

def sizeItems : List Value → Nat
  | [] => 0
  | item :: rest => size item + sizeItems rest
termination_by structural items => items

def sizeMembers : List (String × Value) → Nat
  | [] => 0
  | (_, value) :: rest => size value + sizeMembers rest
termination_by structural members => members

end

theorem size_lt_of_mem_array {items : List Value} {item : Value} (h : item ∈ items) :
    item.size < (array items).size := by
  have hle : item.size ≤ sizeItems items := by
    induction items with
    | nil => simp at h
    | cons first rest ih =>
      simp only [sizeItems]
      rcases List.mem_cons.mp h with rfl | hrest
      · omega
      · have := ih hrest
        omega
  simp only [size]
  omega

theorem size_lt_of_mem_object {members : Record} {member : String × Value}
    (h : member ∈ members) : member.2.size < (object members).size := by
  have hle : member.2.size ≤ sizeMembers members := by
    induction members with
    | nil => simp at h
    | cons first rest ih =>
      simp only [sizeMembers]
      rcases List.mem_cons.mp h with rfl | hrest
      · omega
      · have := ih hrest
        omega
  simp only [size]
  omega

end Value

namespace Resolution

variable {σ α β : Type}

def deeper (S : Setting σ) (ask : Value → Resolution σ Value) (v : Value) :
    Resolution σ Value := fun s =>
  if S.options.maxDepth ≤ s.depth then refuse S.options.maxDepth s else nested (ask v) s

def attendWith (S : Setting σ) (part descend : Value → Resolution σ Value) (v : Value) :
    Resolution σ Value := do
  visit
  match Node.ofValue v with
  | .literal w => return w
  | .address a => return (← access S descend a).getD .null
  | .list items => return .array (← items.mapM part)
  | .object members =>
    return .object (← members.mapM fun member => (member.1, ·) <$> part member.2)
  | .rule r => resolveRule S descend r

def attend (S : Setting σ) (ask : Value → Resolution σ Value) : Value → Resolution σ Value :=
  attendWith S ask (deeper S ask)

def resolveHere (S : Setting σ) (v : Value) : Resolution σ Value := fun s =>
  resolveWithin S (S.options.maxDepth - s.depth) v s

/-- What goes down from a value to those that it asks for: first the levels that are left,
then the size of the value. -/
def rank (S : Setting σ) (v : Value) (s : State σ) : ℕ ×ₗ ℕ :=
  toLex (S.options.maxDepth - s.depth, v.size)

def KeepsDepth (m : Resolution σ α) : Prop := ∀ s, (m s).2.depth = s.depth

theorem walk_eq_attendWith (S : Setting σ) (d : Value → Resolution σ Value) (v : Value) :
    walk S d v = attendWith S (walk S d) d v := by
  rw [walk_eq, attendWith]
  refine congrArg (fun rest => visit >>= rest) (funext fun _ => ?_)
  cases Node.ofValue v with
  | list items => simp only [walkItems_eq_mapM]
  | object members => simp only [walkMembers_eq_mapM]
  | _ => rfl

theorem size_lt_of_ofValue_eq_list {v : Value} {items : List Value}
    (h : Node.ofValue v = .list items) {item : Value} (hitem : item ∈ items) :
    item.size < v.size := by
  cases v with
  | array xs =>
    obtain rfl : xs = items := by simpa [Node.ofValue] using h
    exact Value.size_lt_of_mem_array hitem
  | string s => by_cases hs : hasSigil s = true <;> simp [Node.ofValue, hs] at h
  | object members => by_cases hr : isRule members = true <;> simp [Node.ofValue, hr] at h
  | _ => simp [Node.ofValue] at h

theorem size_lt_of_ofValue_eq_object {v : Value} {members : Record}
    (h : Node.ofValue v = .object members) {member : String × Value} (hmember : member ∈ members) :
    member.2.size < v.size := by
  cases v with
  | object ms =>
    by_cases hr : isRule ms = true
    · simp [Node.ofValue, hr] at h
    · obtain rfl : ms = members := by simpa [Node.ofValue, hr] using h
      exact Value.size_lt_of_mem_object hmember
  | string s => by_cases hs : hasSigil s = true <;> simp [Node.ofValue, hs] at h
  | _ => simp [Node.ofValue] at h

/-- From every state of the depth, the second resolution runs like the first one, which comes
back to this depth. -/
def AgreesAt (depth : Nat) (Φ : α → Prop) (m n : Resolution σ α) : Prop :=
  ∀ s, s.depth = depth → n s = m s ∧ (m s).2.depth = depth ∧ ∀ a, (m s).1 = .ok a → Φ a

theorem AgreesAt.bind {depth : Nat} {Φ : α → Prop} {Ψ : β → Prop} {m n : Resolution σ α}
    {f g : α → Resolution σ β} (hm : AgreesAt depth Φ m n)
    (hf : ∀ a, Φ a → AgreesAt depth Ψ (f a) (g a)) : AgreesAt depth Ψ (m >>= f) (n >>= g) := by
  intro s hs
  obtain ⟨hsame, hdepth, hresult⟩ := hm s hs
  rcases hrun : m s with ⟨result, t⟩
  rw [hrun] at hsame hdepth hresult
  cases result with
  | error e =>
    rw [bind_of_error hrun, bind_of_error hsame]
    exact ⟨rfl, hdepth, fun b hb => by simp at hb⟩
  | ok a =>
    rw [bind_of_ok hrun, bind_of_ok hsame]
    exact hf a (hresult a rfl) t hdepth

/-- A step that leaves the depth alone agrees with itself. -/
theorem agreesAt_step {depth : Nat} {m : Resolution σ α} (hm : KeepsDepth m) :
    AgreesAt depth (fun _ => True) m m :=
  fun s hs => ⟨rfl, (hm s).trans hs, fun _ _ => trivial⟩

theorem agreesAt_congruence (depth : Nat) :
    Congruence fun _ Φ (m n : Resolution σ _) => AgreesAt depth Φ m n where
  pure ha := fun _ hs => ⟨rfl, hs, fun _ hb => Except.ok.inj hb ▸ ha⟩
  bind := AgreesAt.bind
  note _ _ := agreesAt_step fun _ => rfl
  count _ _ := agreesAt_step fun _ => rfl

theorem agreesAt_aligned (S : Setting σ) (depth : Nat) :
    Aligned S S (fun _ => True) (fun _ => True)
      fun _ Φ (m n : Resolution σ _) => AgreesAt depth Φ m n :=
  (agreesAt_congruence depth).aligned closed_trivial rfl trivial rfl (agreesAt_step fun _ => rfl)
    (fun _ _ => agreesAt_step fun _ => rfl) (fun _ _ => agreesAt_step fun _ => rfl)
    (fun _ _ _ _ _ => agreesAt_step fun _ => rfl)

/-- What is asked for a value decides how it is resolved. -/
theorem agreesAt_attendWith {S : Setting σ} {depth : Nat} {v : Value}
    {part part' d d' : Value → Resolution σ Value}
    (hpart : ∀ w, w.size < v.size → AgreesAt depth (fun _ => True) (part w) (part' w))
    (hd : ∀ w, AgreesAt depth (fun _ => True) (d w) (d' w)) :
    AgreesAt depth (fun _ => True) (attendWith S part d v) (attendWith S part' d' v) := by
  have h := (agreesAt_aligned S depth).level fun w _ => hd w
  refine h.bind h.visit fun _ _ => ?_
  cases hnode : Node.ofValue v with
  | literal w => exact h.pure trivial
  | address a => exact h.accessD a
  | list items =>
    refine h.bind (h.mapM fun item hitem => ?_) fun _ _ => h.pure trivial
    exact hpart item (size_lt_of_ofValue_eq_list hnode hitem)
  | object members =>
    refine h.bind (h.mapM fun member hmember => ?_) fun _ _ => h.pure trivial
    refine h.map (hpart member.2 ?_) fun _ _ => trivial
    exact size_lt_of_ofValue_eq_object hnode hmember
  | rule r =>
    simp only [resolveRule_eq]
    refine h.bind (h.openRule r.fallback fun _ _ => trivial) fun fallback _ => ?_
    exact h.bind (h.select _ (fun _ _ => trivial) fun _ _ => trivial)
      fun selection hchosen => h.settle hchosen

/-- If all that is smaller is resolved alike, then so is the value. -/
theorem attend_eq_of_smaller {S : Setting σ} {ask ask' : Value → Resolution σ Value}
    (hask : ∀ w, KeepsDepth (ask w)) {v : Value} {s : State σ}
    (hsmaller : ∀ w t, rank S w t < rank S v s → ask' w t = ask w t) :
    attend S ask' v s = attend S ask v s := by
  have hagrees : AgreesAt s.depth (fun _ => True) (attend S ask v) (attend S ask' v) := by
    refine agreesAt_attendWith (fun w hw t ht => ⟨hsmaller w t ?_, (hask w t).trans ht, ?_⟩)
      fun w t ht => ?_
    · refine Prod.Lex.toLex_lt_toLex.mpr (Or.inr ⟨?_, hw⟩)
      rw [ht]
    · exact fun _ _ => trivial
    · unfold deeper
      by_cases hfull : S.options.maxDepth ≤ t.depth
      · rw [if_pos hfull, if_pos hfull]
        exact ⟨rfl, ht, fun _ _ => trivial⟩
      · have hless : rank S w t.enter < rank S v s := by
          refine Prod.Lex.toLex_lt_toLex.mpr (Or.inl ?_)
          rw [State.enter_depth, ← ht]
          omega
        rw [if_neg hfull, if_neg hfull, nested_apply, nested_apply, hsmaller w t.enter hless]
        refine ⟨rfl, ?_, fun _ _ => trivial⟩
        rw [State.leave_depth, hask w t.enter, State.enter_depth, Nat.add_sub_cancel, ht]
  exact (hagrees s rfl).1

/-- What a run from `s` comes to: the depth is that of `s` again, the last address is still
remembered, and a failure names the limit and that address. -/
structure Orderly (limit : Nat) (Φ : α → Prop) (s : State σ)
    (run : Except DepthExceeded α × State σ) : Prop where
  depth_eq : run.2.depth = s.depth
  tracks : s.Tracks → run.2.Tracks
  failure : ∀ e, run.1 = .error e → e = ⟨limit, run.2.lastAddress⟩
  result : ∀ a, run.1 = .ok a → Φ a

theorem Orderly.failure_eq {limit : Nat} {Φ : α → Prop} {m : Resolution σ α} {s t : State σ}
    {e : DepthExceeded} (h : Orderly limit Φ s (m s)) (hs : s.Tracks) (hrun : m s = (.error e, t)) :
    e = ⟨limit, lastLookedUp t.journal⟩ := by
  have htracks := h.tracks hs
  have hfailure := h.failure e (congrArg Prod.fst hrun)
  rw [hrun] at htracks hfailure
  rw [hfailure, htracks]

theorem orderly_bind {limit : Nat} {Φ : α → Prop} {Ψ : β → Prop} {m : Resolution σ α}
    {f : α → Resolution σ β} (hm : ∀ s, Orderly limit Φ s (m s))
    (hf : ∀ a, Φ a → ∀ s, Orderly limit Ψ s (f a s)) (s : State σ) :
    Orderly limit Ψ s ((m >>= f) s) := by
  have hfirst := hm s
  rcases hrun : m s with ⟨result, t⟩
  rw [hrun] at hfirst
  cases result with
  | error e =>
    rw [bind_of_error hrun]
    refine ⟨hfirst.depth_eq, hfirst.tracks, fun e' he' => ?_, fun b hb => by simp at hb⟩
    exact hfirst.failure e' (by simpa using he')
  | ok a =>
    rw [bind_of_ok hrun]
    have hsecond := hf a (hfirst.result a rfl) t
    exact ⟨hsecond.depth_eq.trans hfirst.depth_eq, fun hs => hsecond.tracks (hfirst.tracks hs),
      hsecond.failure, hsecond.result⟩

/-- A step that succeeds, stays on its level and looks nothing up. -/
theorem orderly_step {limit : Nat} {m : Resolution σ α} (a : State σ → α)
    (hm : ∀ s, (m s).1 = .ok (a s)) (hdepth : KeepsDepth m)
    (htracks : ∀ s : State σ, s.Tracks → (m s).2.Tracks) (s : State σ) :
    Orderly limit (fun _ => True) s (m s) :=
  ⟨hdepth s, htracks s, fun e he => by simp [hm] at he, fun _ _ => trivial⟩

theorem orderly_note {limit : Nat} {event : Event}
    (hevent : ∀ journal, lastLookedUp (event :: journal) = lastLookedUp journal) (s : State σ) :
    Orderly limit (fun _ => True) s (note event s) :=
  orderly_step (m := note event) (fun _ => ()) (fun _ => rfl) (fun _ => rfl)
    (fun s hs => hs.trans (hevent s.journal).symm) s

theorem orderly_count {limit : Nat} (change : Metrics → Metrics) (s : State σ) :
    Orderly limit (fun _ => True) s (count change s) :=
  orderly_step (fun _ => ()) (fun _ => rfl) (fun _ => rfl) (fun _ hs => hs) s

theorem orderly_congruence (limit : Nat) :
    Congruence fun _ Φ (m _ : Resolution σ _) => ∀ s, Orderly limit Φ s (m s) where
  pure ha _ := ⟨rfl, fun hs => hs, fun e he => by simp [pure_apply] at he,
    fun _ hb => Except.ok.inj hb ▸ ha⟩
  bind := orderly_bind
  note event hremark := orderly_note fun _ => by
    cases event <;> simp_all [Event.isRemark, lastLookedUp]
  count change _ := orderly_count change

theorem orderly_invariant (S : Setting σ) :
    Invariant S (fun _ => True) (fun _ => True)
      fun _ Φ m => ∀ s, Orderly S.options.maxDepth Φ s (m s) where
  aligned := (orderly_congruence S.options.maxDepth).aligned closed_trivial rfl trivial rfl
    (orderly_count _)
    (fun event hcue => orderly_note fun _ => by
      cases event <;> simp_all [Event.isCue, lastLookedUp])
    (fun _ _ => orderly_step (fun _ => ()) (fun _ => rfl) (fun _ => rfl) fun _ _ => rfl)
    (fun _ probe args _ _ => orderly_step (fun s => (S.invoke probe args s.probes).1)
      (fun _ => rfl) (fun _ => rfl) fun _ hs => hs)
  refuse s := ⟨rfl, fun hs => hs, fun e he => (Except.error.inj he).symm,
    fun a ha => by simp [refuse] at ha⟩
  nested m hm s := by
    obtain ⟨hdepth, htracks, hfailure, hresult⟩ := hm s.enter
    refine ⟨?_, htracks, hfailure, hresult⟩
    rw [nested_apply, State.leave_depth, hdepth, State.enter_depth, Nat.add_sub_cancel]
  finish := orderly_step (fun _ => ()) (fun _ => rfl) (fun _ => rfl) fun _ hs => hs

theorem keepsDepth_resolveWithin (S : Setting σ) (levels : Nat) (v : Value) :
    KeepsDepth (resolveWithin S levels v) :=
  fun s => ((orderly_invariant S).resolveWithin levels v trivial s).depth_eq

theorem keepsDepth_resolveHere (S : Setting σ) (v : Value) : KeepsDepth (resolveHere S v) :=
  fun s => keepsDepth_resolveWithin S _ v s

/-- Where the number of levels left is what the depth leaves of the limit, going one level
deeper is guarded by the depth. -/
theorem agreesAt_descendWithin (S : Setting σ) (depth : Nat) (w : Value) :
    AgreesAt depth (fun _ => True) (descendWithin S (S.options.maxDepth - depth) w)
      (deeper S (resolveHere S) w) := by
  intro t ht
  unfold deeper
  by_cases hfull : S.options.maxDepth ≤ t.depth
  · have hlevels : S.options.maxDepth - depth = 0 := by omega
    rw [if_pos hfull, hlevels]
    exact ⟨rfl, ht, fun _ _ => trivial⟩
  · have hlevels : S.options.maxDepth - depth = S.options.maxDepth - t.enter.depth + 1 := by
      rw [State.enter_depth]
      omega
    rw [if_neg hfull, hlevels]
    refine ⟨rfl, ?_, fun _ _ => trivial⟩
    have hkeeps := keepsDepth_resolveWithin S (S.options.maxDepth - t.enter.depth) w t.enter
    show (nested (resolveWithin S _ w) t).2.depth = depth
    rw [nested_apply, State.leave_depth, hkeeps, State.enter_depth, Nat.add_sub_cancel, ht]

theorem resolveHere_eq (S : Setting σ) (v : Value) :
    resolveHere S v = attend S (resolveHere S) v := by
  funext s
  have hpart (w : Value) : AgreesAt s.depth (fun _ => True)
      (walk S (descendWithin S (S.options.maxDepth - s.depth)) w) (resolveHere S w) := by
    intro t ht
    rw [← resolveWithin_eq]
    refine ⟨?_, (keepsDepth_resolveWithin S _ w t).trans ht, fun _ _ => trivial⟩
    rw [resolveHere, ht]
  have hagrees : AgreesAt s.depth (fun _ => True)
      (walk S (descendWithin S (S.options.maxDepth - s.depth)) v) (attend S (resolveHere S) v) := by
    rw [walk_eq_attendWith]
    exact agreesAt_attendWith (fun w _ => hpart w) (agreesAt_descendWithin S s.depth)
  rw [(hagrees s rfl).1, resolveHere, resolveWithin_eq]

/-- The equation has one solution. The induction is on what is left to ask for. -/
theorem eq_resolveHere_iff {S : Setting σ} {ask : Value → Resolution σ Value} :
    (∀ v, ask v = attend S ask v) ↔ ask = resolveHere S := by
  constructor
  · intro hask
    have hrun (r : ℕ ×ₗ ℕ) : ∀ v s, rank S v s = r → ask v s = resolveHere S v s := by
      induction r using WellFoundedLT.induction with
      | ind r ih =>
        intro v s hr
        rw [hask v, resolveHere_eq]
        refine attend_eq_of_smaller (keepsDepth_resolveHere S) fun w t hless => ?_
        exact ih (rank S w t) (hr ▸ hless) w t rfl
    funext v s
    exact hrun _ v s rfl
  · rintro rfl
    exact resolveHere_eq S

/-- How the resolution ends, from a state that remembers its last address: it comes back to the
depth where it began, and if it fails, the limit is why, and the failure names it and the last
address that was looked up. The state still remembers its last address, so the same holds of
what is resolved next. -/
def EndsWell (S : Setting σ) (m : Resolution σ α) : Prop :=
  ∀ s result t, s.Tracks → m s = (result, t) →
    t.depth = s.depth ∧ t.Tracks ∧
      ∀ e, result = .error e → e = ⟨S.options.maxDepth, lastLookedUp t.journal⟩

theorem endsWell_of_orderly {S : Setting σ} {Φ : α → Prop} {m : Resolution σ α}
    (hm : ∀ s, Orderly S.options.maxDepth Φ s (m s)) : EndsWell S m := by
  intro s result t hs hrun
  have h := hm s
  refine ⟨?_, ?_, fun e he => h.failure_eq hs (hrun.trans (by rw [he]))⟩
  · rw [← h.depth_eq, hrun]
  · have htracks := h.tracks hs
    rwa [hrun] at htracks

/-- Resolution ends, whatever the store and the probes are. A value is resolved by asking for
others, each smaller than it in the lexicographic order of the levels left and the size; so one
resolution only satisfies the equation that says how, and it is the one that is run. A level
that is left was entered before, so the depth never falls below zero. Values, addresses and
templates resolve, or else the limit was reached: a failure names it, and the address that was
looked up last. -/
theorem resolution_ends (S : Setting σ) :
    (∀ ask ask' : Value → Resolution σ Value, (∀ w, KeepsDepth (ask w)) → ∀ v s,
      (∀ w t, rank S w t < rank S v s → ask' w t = ask w t) →
      attend S ask' v s = attend S ask v s) ∧
    (∀ ask : Value → Resolution σ Value, (∀ v, ask v = attend S ask v) ↔ ask = resolveHere S) ∧
    (∀ v (s : State σ), (resolveHere S v s.enter).2.leave.depth + 1 =
      (resolveHere S v s.enter).2.depth) ∧
    (∀ v (s : State σ), s.depth = 0 → resolveValue S v s = resolveHere S v s) ∧
    (∀ v, EndsWell S (resolveValue S v)) ∧
    (∀ address, EndsWell S (resolveAddress S address)) ∧
    ∀ template, EndsWell S (resolveTemplate S template) := by
  have h := orderly_invariant S
  refine ⟨fun ask ask' hask v s hsmaller => attend_eq_of_smaller hask hsmaller,
    fun ask => eq_resolveHere_iff, fun v s => ?_, fun v s hs => ?_,
    fun v => endsWell_of_orderly (h.resolveValue v trivial),
    fun address => endsWell_of_orderly (h.resolveAddress address),
    fun template => endsWell_of_orderly (h.resolveTemplate template fun _ _ => trivial)⟩
  · have hkeeps := keepsDepth_resolveHere S v s.enter
    rw [State.leave_depth, hkeeps, State.enter_depth, Nat.add_sub_cancel]
  · rw [resolveHere, resolveValue, hs, Nat.sub_zero]

/-- A store in which `@a.x` leads to a rule that asks for it again, in an argument of a call,
and whose fallback is a probe. Every call of a probe returns the same address. -/
def cyclicSetting : Setting Unit where
  store := Store.ofRecord [
    ("@a", .object [("x", .string "@b.y")]),
    ("@b", .object [("y", .object [("default", .probe ⟨0⟩), ("@b::f[k:@a.x]:1", .null)]),
      ("f", .probe ⟨0⟩)])]
  options := { maxDepth := 5 }
  invoke := fun _ _ _ => (.string "@a.x", ())

def askBelow (w : Value) : Resolution Unit Value := fun t =>
  if rank cyclicSetting w t < rank cyclicSetting (.string "@a.x") { probes := () } then
    resolveHere cyclicSetting w t
  else refuse 0 t

theorem resolution_ends_cyclic :
    (∃ e t, resolveTemplate cyclicSetting [("v", .string "@a.x")] { probes := () } =
        (.error e, t) ∧ t.depth = 0 ∧ e = ⟨5, lastLookedUp t.journal⟩ ∧
        lastLookedUp t.journal = "@b.y") ∧
      attend cyclicSetting askBelow (.string "@a.x") { probes := () } =
        resolveHere cyclicSetting (.string "@a.x") { probes := () } := by
  obtain ⟨hsmaller, hunique, -, -, -, -, hends⟩ := resolution_ends cyclicSetting
  constructor
  · have haddress : lastLookedUp (resolveTemplate cyclicSetting [("v", .string "@a.x")]
        { probes := () }).2.journal = "@b.y" := by decide +kernel
    have herror : (resolveTemplate cyclicSetting [("v", .string "@a.x")]
        { probes := () }).1.isOk = false := by decide +kernel
    rcases hrun : resolveTemplate cyclicSetting [("v", .string "@a.x")] { probes := () }
      with ⟨result, t⟩
    rw [hrun] at haddress herror
    obtain ⟨hdepth, -, hfailure⟩ := hends _ { probes := () } result t rfl hrun
    cases result with
    | ok out => simp [Except.isOk, Except.toBool] at herror
    | error e => exact ⟨e, t, rfl, hdepth, hfailure e rfl, haddress⟩
  · rw [(hunique _).mpr rfl (.string "@a.x")]
    exact hsmaller (resolveHere cyclicSetting) askBelow (keepsDepth_resolveHere _) _ _
      fun w t hless => if_pos hless

end Resolution
end RuleTemplate
