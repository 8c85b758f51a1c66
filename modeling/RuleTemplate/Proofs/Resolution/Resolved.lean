import RuleTemplate.Proofs.Resolution.Invariant
import RuleTemplate.Proofs.Value.Probes

/-!
What resolution leaves is resolved: no part of it is an address or a rule. The property is
kept wherever a value enters a result, whether from an address, a fallback, a captured value
or a probe, because whatever is not a literal is resolved once more before it is returned.
A resolved value is copied by every further resolution, in any setting.
-/
namespace RuleTemplate
namespace Value

/-- An address or a rule: a value that stands for another one. -/
def isOpen : Value → Bool
  | string s => hasSigil s
  | object members => isRule members
  | _ => false

def Resolved (v : Value) : Prop := ∀ w, Part w v → w.isOpen = false

theorem resolved_of_isLiteral {v : Value} (h : v.isLiteral = true) : v.Resolved := by
  intro w hw
  cases hw with
  | self => cases v <;> simp_all [isLiteral, isOpen]
  | item => simp [isLiteral] at h
  | member => simp [isLiteral] at h

theorem resolved_array_iff {items : List Value} :
    (array items).Resolved ↔ ∀ item ∈ items, item.Resolved := by
  constructor
  · exact fun h item hitem w hw => h w (.item hitem hw)
  · intro h w hw
    cases hw with
    | self => rfl
    | item hitem hw => exact h _ hitem w hw

theorem resolved_object_iff {members : Record} :
    (object members).Resolved ↔
      isRule members = false ∧ ∀ member ∈ members, member.2.Resolved := by
  constructor
  · exact fun h => ⟨h _ .self, fun member hmember w hw => h w (.member hmember hw)⟩
  · rintro ⟨hrule, h⟩ w hw
    cases hw with
    | self => exact hrule
    | member hmember hw => exact h _ hmember w hw

theorem resolved_of_isBound {v : Value} (h : v.IsBound Resolved) : v.Resolved := by
  rcases h with hv | ⟨text, htext, rfl⟩
  · exact hv
  · exact resolved_of_isLiteral (by simp [isLiteral, htext])

end Value

theorem Resolution.closed_resolved : Closed (fun _ => True) Value.Resolved where
  item _ _ _ := trivial
  member _ _ _ := trivial
  raw_of_done _ := trivial
  null := Value.resolved_of_isLiteral rfl
  literal _ h := Value.resolved_of_isLiteral h
  array h := Value.resolved_array_iff.mpr h
  object hrule h := Value.resolved_object_iff.mpr ⟨hrule, h⟩

theorem Resolution.closed_probesIn (P : Probe → Prop) :
    Closed (Value.ProbesIn P) (Value.ProbesIn P) where
  item := Value.probesIn_array_iff.mp
  member := Value.probesIn_object_iff.mp
  raw_of_done h := h
  null := Value.probesIn_null
  literal h _ := h
  array := Value.probesIn_array_iff.mpr
  object _ := Value.probesIn_object_iff.mpr

def Event.BindsResolved : Event → Prop
  | .invoked (.clause _ _) _ args => ∀ arg ∈ args, arg.2.Resolved
  | _ => True

namespace Resolution

variable {σ τ α β : Type}

/-- From every state the resolution returns only what has the property, and every call clause
that it reaches, in a run that fails too, binds only resolved values. -/
def LeavesResolved (Φ : α → Prop) (m : Resolution σ α) : Prop :=
  ∀ s, (∀ a, (m s).1 = .ok a → Φ a) ∧
    ∀ event ∈ (m s).2.journal, event ∈ s.journal ∨ event.BindsResolved

theorem LeavesResolved.bind {Φ : α → Prop} {Ψ : β → Prop} {m : Resolution σ α}
    {f : α → Resolution σ β} (hm : LeavesResolved Φ m)
    (hf : ∀ a, Φ a → LeavesResolved Ψ (f a)) : LeavesResolved Ψ (m >>= f) := by
  intro s
  obtain ⟨hresult, hjournal⟩ := hm s
  cases hrun : m s with
  | mk result u =>
    rw [hrun] at hresult hjournal
    cases result with
    | error e =>
      rw [bind_of_error hrun]
      exact ⟨fun b hb => by simp at hb, hjournal⟩
    | ok a =>
      rw [bind_of_ok hrun]
      obtain ⟨hresult', hjournal'⟩ := hf a (hresult a rfl) u
      refine ⟨hresult', fun event hevent => ?_⟩
      rcases hjournal' event hevent with hold | hnew
      · exact hjournal event hold
      · exact Or.inr hnew

theorem leavesResolved_pure {Φ : α → Prop} {a : α} (ha : Φ a) :
    LeavesResolved Φ (pure a : Resolution σ α) :=
  fun _ => ⟨fun _ hb => Except.ok.inj hb ▸ ha, fun _ hevent => Or.inl hevent⟩

/-- A step that adds one event to the journal. -/
theorem leavesResolved_step {Φ : α → Prop} {m : Resolution σ α} (event : State σ → Event)
    (hjournal : ∀ s, (m s).2.journal = event s :: s.journal)
    (hevent : ∀ s, (event s).BindsResolved) (hresult : ∀ s a, (m s).1 = .ok a → Φ a) :
    LeavesResolved Φ m := by
  intro s
  refine ⟨hresult s, fun other hother => ?_⟩
  rw [hjournal] at hother
  rcases List.mem_cons.mp hother with rfl | hold
  · exact Or.inr (hevent s)
  · exact Or.inl hold

theorem leavesResolved_note {event : Event} (h : event.BindsResolved) :
    LeavesResolved (fun _ => True) (note event : Resolution σ Unit) :=
  leavesResolved_step (fun _ => event) (fun _ => rfl) (fun _ => h) fun _ _ _ => trivial

theorem leavesResolved_count (change : Metrics → Metrics) :
    LeavesResolved (fun _ => True) (count change : Resolution σ Unit) :=
  fun _ => ⟨fun _ _ => trivial, fun _ hevent => Or.inl hevent⟩

theorem leavesResolved_lookup (address : String) (found : Bool) :
    LeavesResolved (fun _ => True) (noteLookup address found : Resolution σ Unit) :=
  leavesResolved_step (fun _ => .lookedUp address found) (fun _ => rfl) (fun _ => trivial)
    fun _ _ _ => trivial

theorem leavesResolved_refuse {Φ : α → Prop} (limit : Nat) :
    LeavesResolved Φ (refuse limit : Resolution σ α) :=
  leavesResolved_step (fun s => .refused limit s.lastAddress) (fun _ => rfl) (fun _ => trivial)
    fun _ _ ha => by simp [refuse] at ha

theorem leavesResolved_call (S : Setting σ) {cause : Cause} (probe : Probe) {args : Record}
    (hargs : cause = .fallback ∨ ∀ arg ∈ args, arg.2.IsBound Value.Resolved) :
    LeavesResolved (fun _ => True) (call S cause probe args) := by
  refine leavesResolved_step (fun _ => .invoked cause probe args) (fun _ => rfl) (fun _ => ?_)
    fun _ _ _ => trivial
  cases cause with
  | fallback => exact trivial
  | clause target spec =>
    rcases hargs with hfallback | hargs
    · simp at hfallback
    · intro arg harg
      exact Value.resolved_of_isBound (hargs arg harg)

theorem leavesResolved_congruence :
    Congruence fun _ Φ (m _ : Resolution σ _) => LeavesResolved Φ m where
  pure := leavesResolved_pure
  bind := LeavesResolved.bind
  note event hremark := by
    apply leavesResolved_note
    cases event <;> simp_all [Event.BindsResolved, Event.isRemark]
  count change _ := leavesResolved_count change

theorem leavesResolved_invariant (S : Setting σ) :
    Invariant S (fun _ => True) Value.Resolved fun _ Φ m => LeavesResolved Φ m where
  aligned := leavesResolved_congruence.aligned closed_resolved rfl trivial rfl
    (leavesResolved_count _)
    (fun event hcue => leavesResolved_note (by
      cases event <;> simp_all [Event.BindsResolved, Event.isCue]))
    (fun _ _ => leavesResolved_lookup _ _)
    (fun _ probe _ _ hargs => leavesResolved_call S probe hargs)
  refuse := leavesResolved_refuse _
  nested _ hm := fun s => hm s.enter
  finish := leavesResolved_step (fun s => .finished s.metrics) (fun _ => rfl)
    (fun _ => trivial) fun _ _ _ => trivial

/-- The resolution returns the value. Besides, it only counts values and reports. -/
def Copies (m : Resolution σ α) (a : α) : Prop :=
  ∀ s, ∃ t nodes, m s = (.ok a, t) ∧ t.metrics = s.metrics + { nodes := nodes } ∧
    t.depth = s.depth ∧ t.probes = s.probes

theorem copies_pure (a : α) : Copies (pure a : Resolution σ α) a :=
  fun s => ⟨s, 0, rfl, (add_zero s.metrics).symm, rfl, rfl⟩

theorem copies_visit : Copies (visit : Resolution σ Unit) () :=
  fun s => ⟨_, 1, rfl, by simp [State.count, Metrics.add_def], rfl, rfl⟩

theorem copies_note (event : Event) : Copies (note event : Resolution σ Unit) () :=
  fun s => ⟨_, 0, rfl, (add_zero s.metrics).symm, rfl, rfl⟩

theorem Copies.bind {m : Resolution σ α} {a : α} {f : α → Resolution σ β} {b : β}
    (hm : Copies m a) (hf : Copies (f a) b) : Copies (m >>= f) b := by
  intro s
  obtain ⟨t, n, hfirst, hmetrics, hdepth, hprobes⟩ := hm s
  obtain ⟨u, k, hsecond, hmetrics', hdepth', hprobes'⟩ := hf t
  refine ⟨u, n + k, ?_, ?_, hdepth'.trans hdepth, hprobes'.trans hprobes⟩
  · rw [bind_of_ok hfirst, hsecond]
  · rw [hmetrics', hmetrics, add_assoc]
    rfl

section Copies

variable (T : Setting τ) (d : Value → Resolution τ Value)

mutual

/-- A resolved value is walked and copied. It leads nowhere, so `d` is never asked. -/
theorem copies_walk : ∀ v : Value, v.Resolved → Copies (walk T d v) v
  | .string s, h => by
    have hs : hasSigil s = false := h _ .self
    simp only [walk, hs, Bool.false_eq_true, ite_false]
    exact copies_visit.bind (copies_pure _)
  | .array items, h => by
    simp only [walk]
    refine copies_visit.bind ?_
    exact (copies_walkItems items (Value.resolved_array_iff.mp h)).bind (copies_pure _)
  | .object members, h => by
    obtain ⟨hrule, hmembers⟩ := Value.resolved_object_iff.mp h
    simp only [walk, hrule, Bool.false_eq_true, ite_false]
    refine copies_visit.bind ?_
    exact (copies_walkMembers members hmembers).bind (copies_pure _)
  | .null, _ => copies_visit.bind (copies_pure _)
  | .bool _, _ => copies_visit.bind (copies_pure _)
  | .number _, _ => copies_visit.bind (copies_pure _)
  | .probe _, _ => copies_visit.bind (copies_pure _)
termination_by structural v => v

theorem copies_walkItems : ∀ items : List Value, (∀ item ∈ items, item.Resolved) →
    Copies (walkItems T d items) items
  | [], _ => copies_pure _
  | item :: rest, h => by
    refine (copies_walk item (h item List.mem_cons_self)).bind ?_
    refine (copies_walkItems rest fun i hi => h i (List.mem_cons_of_mem _ hi)).bind ?_
    exact copies_pure _
termination_by structural items => items

theorem copies_walkMembers : ∀ members : List (String × Value),
    (∀ member ∈ members, member.2.Resolved) → Copies (walkMembers T d members) members
  | [], _ => copies_pure _
  | (_, value) :: rest, h => by
    refine (copies_walk value (h _ List.mem_cons_self)).bind ?_
    refine (copies_walkMembers rest fun m hm => h m (List.mem_cons_of_mem _ hm)).bind ?_
    exact copies_pure _
termination_by structural members => members

end

end Copies

theorem copies_resolveTemplate (T : Setting τ) {out : Record}
    (h : ∀ property ∈ out, property.2.Resolved) : Copies (resolveTemplate T out) out := by
  have hproperties : Copies (resolveProperties T out) out := by
    induction out with
    | nil => exact copies_pure _
    | cons property rest ih =>
      obtain ⟨key, value⟩ := property
      have hvalue : Copies (resolveValue T value) value := by
        unfold resolveValue
        rw [resolveWithin_eq]
        exact copies_walk T _ value (h _ List.mem_cons_self)
      have hproperty : Copies (resolveProperty T key value) value := by
        unfold resolveProperty
        refine (copies_note _).bind ?_
        split
        · exact copies_pure _
        · exact hvalue
      refine hproperty.bind ?_
      exact (ih fun p hp => h p (List.mem_cons_of_mem _ hp)).bind (copies_pure _)
  refine hproperties.bind (Copies.bind (a := ()) ?_ (copies_pure _))
  exact fun s => copies_note (.finished s.metrics) s

/-- Whatever leaves a resolution is resolved: a resolved value, what an address stands for,
every property of a template, and every value that a call clause binds. Hence the properties
that a template resolves to resolve to themselves, in every setting and whatever its limit,
and of all counters only that of the values visited is then more than zero. -/
theorem resolved_and_stable (S : Setting σ) :
    (∀ template, LeavesResolved (fun out => ∀ property ∈ out, property.2.Resolved)
      (resolveTemplate S template)) ∧
    (∀ v, LeavesResolved Value.Resolved (resolveValue S v)) ∧
    (∀ address, LeavesResolved (fun found => ∀ v ∈ found, v.Resolved)
      (resolveAddress S address)) ∧
    ∀ template s out t, resolveTemplate S template s = (.ok out, t) →
      ∀ {τ : Type} (T : Setting τ) (probes : τ), ∃ again nodes,
        resolveTemplate T out { probes } = (.ok out, again) ∧
        again.metrics = { nodes := nodes } ∧ again.probes = probes := by
  have h := leavesResolved_invariant S
  have htemplate (template : Record) :
      LeavesResolved (fun out => ∀ property ∈ out, property.2.Resolved)
        (resolveTemplate S template) :=
    h.mono (h.resolveTemplate template fun _ _ => trivial) fun _ hout => hout.2
  refine ⟨htemplate, fun v => h.resolveValue v trivial, h.resolveAddress, ?_⟩
  intro template s out t hrun τ T probes
  have hout : ∀ property ∈ out, property.2.Resolved :=
    (htemplate template s).1 out (congrArg Prod.fst hrun)
  obtain ⟨again, nodes, hagain, hmetrics, -, hprobes⟩ :=
    copies_resolveTemplate T hout { probes }
  exact ⟨again, nodes, hagain, hmetrics.trans (zero_add _), hprobes⟩

def openSetting : Setting Unit where
  store := Store.ofRecord [("@a", .object [("x", .string "found")])]
  options := {}
  invoke := fun _ _ _ =>
    (.array [.string "@a.x", .object [("default", .string "@a.x")]], ())

def closedSetting : Setting Unit where
  store := Store.empty
  options := { maxDepth := 0 }
  invoke := fun _ _ _ => (.null, ())

theorem resolved_and_stable_probe : ∃ out t,
    resolveTemplate openSetting [("v", .object [("default", .probe ⟨0⟩)])] { probes := () } =
      (.ok out, t) ∧
    (∀ property ∈ out, property.2.Resolved) ∧
    ∃ again nodes, resolveTemplate closedSetting out { probes := () } = (.ok out, again) ∧
      again.metrics = { nodes := nodes } := by
  obtain ⟨out, hrun⟩ := exists_of_isOk
    (m := resolveTemplate openSetting [("v", .object [("default", .probe ⟨0⟩)])])
    (s := { probes := () }) (by decide +kernel)
  obtain ⟨htemplate, -, -, hstable⟩ := resolved_and_stable openSetting
  obtain ⟨again, nodes, hagain, hmetrics, -⟩ := hstable _ _ _ _ hrun closedSetting ()
  exact ⟨out, _, hrun, (htemplate _ _).1 out (congrArg Prod.fst hrun), again, nodes, hagain,
    hmetrics⟩

end Resolution
end RuleTemplate
