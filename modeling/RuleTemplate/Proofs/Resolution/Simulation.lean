import RuleTemplate.Proofs.Resolution.Alignment

/-!
Runs from related states. If every step at which a resolution meets its state keeps a relation
between states, then whole runs keep it: from related states they return the same, or fail alike,
and they leave related states. What the relation says of the store and the probes is up to it, and
where it lets the states differ in the last address, failures are alike up to what they name.
-/
namespace RuleTemplate.Resolution

variable {σ τ α β : Type}

/-- The runs come to the same, or they fail with related errors, and they leave related states. -/
inductive Alongside (E : State σ → State τ → Prop) (F : DepthExceeded → DepthExceeded → Prop)
    (Φ : α → Prop) : Except DepthExceeded α × State σ → Except DepthExceeded α × State τ → Prop
  | ok {a : α} {s : State σ} {t : State τ} : Φ a → E s t → Alongside E F Φ (.ok a, s) (.ok a, t)
  | error {e f : DepthExceeded} {s : State σ} {t : State τ} : F e f → E s t →
      Alongside E F Φ (.error e, s) (.error f, t)

/-- If one run comes to a value, so does the other, and to the same one. -/
theorem Alongside.toOption_eq {E : State σ → State τ → Prop}
    {F : DepthExceeded → DepthExceeded → Prop} {Φ : α → Prop}
    {run : Except DepthExceeded α × State σ} {run' : Except DepthExceeded α × State τ}
    (h : Alongside E F Φ run run') : run.1.toOption = run'.1.toOption := by
  cases h <;> rfl

def ParallelUpTo (E : State σ → State τ → Prop) (F : DepthExceeded → DepthExceeded → Prop)
    (Φ : α → Prop) (m : Resolution σ α) (n : Resolution τ α) : Prop :=
  ∀ s t, E s t → Alongside E F Φ (m s) (n t)

def Parallel (E : State σ → State τ → Prop) (Φ : α → Prop) (m : Resolution σ α)
    (n : Resolution τ α) : Prop :=
  ∀ s t, E s t → (n t).1 = (m s).1 ∧ E (m s).2 (n t).2 ∧ ∀ a, (m s).1 = .ok a → Φ a

theorem parallel_iff {E : State σ → State τ → Prop} {Φ : α → Prop} {m : Resolution σ α}
    {n : Resolution τ α} : Parallel E Φ m n ↔ ParallelUpTo E Eq Φ m n := by
  refine forall₃_congr fun s t _ => ?_
  rcases m s with ⟨_ | a, s'⟩ <;> rcases n t with ⟨_ | b, t'⟩
  · constructor
    · rintro ⟨hsame, hstates, -⟩
      exact .error (Except.error.inj hsame).symm hstates
    · rintro (_ | ⟨herror, hstates⟩)
      exact ⟨congrArg Except.error herror.symm, hstates, fun a ha => by simp at ha⟩
  · exact ⟨fun h => by simp at h, fun h => by cases h⟩
  · exact ⟨fun h => by simp at h, fun h => by cases h⟩
  · constructor
    · rintro ⟨hsame, hstates, ha⟩
      obtain rfl := Except.ok.inj hsame
      exact .ok (ha _ rfl) hstates
    · rintro (⟨ha, hstates⟩ | _)
      exact ⟨rfl, hstates, fun b hb => Except.ok.inj hb ▸ ha⟩

/-- The steps at which resolutions in the two settings meet their states keep a relation between
these, and refusals from related states name related errors. -/
structure SimulationUpTo (S : Setting σ) (T : Setting τ) (raw : Value → Prop)
    (E : State σ → State τ → Prop) (F : DepthExceeded → DepthExceeded → Prop) : Prop where
  refuse : ∀ {s t} limit, E s t → F ⟨limit, s.lastAddress⟩ ⟨limit, t.lastAddress⟩ ∧
    E (s.note (.refused limit s.lastAddress)) (t.note (.refused limit t.lastAddress))
  enter : ∀ {s t}, E s t → E s.enter t.enter
  leave : ∀ {s t}, E s t → E s.leave t.leave
  note : ∀ {s t} event, E s t → E (s.note event) (t.note event)
  count : ∀ {s t} {change : Metrics → Metrics} {share}, (∀ m, change m = m + share) → E s t →
    E (s.count change) (t.count change)
  lookup : ∀ {s t} address found, E s t →
    E (noteLookup address found s).2 (noteLookup address found t).2
  call : ∀ cause probe args, raw (.probe probe) →
    ParallelUpTo E F raw (call S cause probe args) (call T cause probe args)
  finish : ∀ {s t}, E s t → E (s.note (.finished s.metrics)) (t.note (.finished t.metrics))

structure Simulation (S : Setting σ) (T : Setting τ) (raw : Value → Prop)
    (E : State σ → State τ → Prop) : Prop where
  lastAddress : ∀ {s t}, E s t → t.lastAddress = s.lastAddress
  enter : ∀ {s t}, E s t → E s.enter t.enter
  leave : ∀ {s t}, E s t → E s.leave t.leave
  note : ∀ {s t} event, E s t → E (s.note event) (t.note event)
  count : ∀ {s t} {change : Metrics → Metrics} {share}, (∀ m, change m = m + share) → E s t →
    E (s.count change) (t.count change)
  lookup : ∀ {s t} address found, E s t →
    E (noteLookup address found s).2 (noteLookup address found t).2
  call : ∀ cause probe args, raw (.probe probe) →
    Parallel E raw (call S cause probe args) (call T cause probe args)
  finish : ∀ {s t}, E s t → E (s.note (.finished s.metrics)) (t.note (.finished t.metrics))

theorem ParallelUpTo.bind {E : State σ → State τ → Prop}
    {F : DepthExceeded → DepthExceeded → Prop} {Φ : α → Prop} {Ψ : β → Prop}
    {m : Resolution σ α} {n : Resolution τ α} {f : α → Resolution σ β} {g : α → Resolution τ β}
    (hm : ParallelUpTo E F Φ m n) (hf : ∀ a, Φ a → ParallelUpTo E F Ψ (f a) (g a)) :
    ParallelUpTo E F Ψ (m >>= f) (n >>= g) := by
  intro s t hst
  have hfirst := hm s t hst
  rcases hrun : m s with ⟨result, s'⟩
  rcases hrun' : n t with ⟨result', t'⟩
  rw [hrun, hrun'] at hfirst
  cases hfirst with
  | ok ha hstates =>
    rw [bind_of_ok hrun, bind_of_ok hrun']
    exact hf _ ha s' t' hstates
  | error herror hstates =>
    rw [bind_of_error hrun, bind_of_error hrun']
    exact .error herror hstates

/-- A step that changes the states and always succeeds. -/
theorem parallelUpTo_update {E : State σ → State τ → Prop}
    {F : DepthExceeded → DepthExceeded → Prop} {change : State σ → State σ}
    {change' : State τ → State τ} (h : ∀ {s t}, E s t → E (change s) (change' t)) :
    ParallelUpTo E F (fun _ => True) (update change) (update change') :=
  fun _ _ hst => .ok trivial (h hst)

namespace SimulationUpTo

variable {S : Setting σ} {T : Setting τ} {raw done : Value → Prop}
  {E : State σ → State τ → Prop} {F : DepthExceeded → DepthExceeded → Prop}

theorem congruence (h : SimulationUpTo S T raw E F) :
    Congruence fun _ Φ (m : Resolution σ _) (n : Resolution τ _) => ParallelUpTo E F Φ m n where
  pure ha := fun _ _ hst => .ok ha hst
  bind := ParallelUpTo.bind
  note event _ := parallelUpTo_update (h.note event)
  count _ hchange := by
    obtain ⟨share, -, -, -, -, hshare⟩ := hchange
    exact parallelUpTo_update (h.count hshare)

/-- Settings with one store and one limit run in step, if they collapse the same raw values. -/
theorem lockstep (h : SimulationUpTo S T raw E F) (hclosed : Closed raw done)
    (hstore : S.store = T.store) (hroot : raw S.root)
    (hlimit : T.options.maxDepth = S.options.maxDepth)
    (hcollapse : ∀ v, raw v → v = .null ∨
      (S.options.collapseFalsy && !v.isTruthy) = (T.options.collapseFalsy && !v.isTruthy)) :
    Lockstep S T raw done fun _ Φ (m : Resolution σ _) (n : Resolution τ _) =>
      ParallelUpTo E F Φ m n where
  aligned := h.congruence.aligned_of_collapse hclosed hstore hroot hcollapse
    (parallelUpTo_update (h.count Metrics.rule_counted))
    (fun event _ => parallelUpTo_update (h.note event))
    (fun address found _ _ hst => .ok trivial (h.lookup address found hst))
    (fun cause probe args hraw _ => h.call cause probe args hraw)
  limit := hlimit
  refuse s t hst := .error (h.refuse _ hst).1 (h.refuse _ hst).2
  nested m n hm s t hst := by
    have hinner := hm s.enter t.enter (h.enter hst)
    rw [nested_apply, nested_apply]
    generalize m s.enter = run at hinner
    generalize n t.enter = run' at hinner
    cases hinner with
    | ok ha hstates => exact .ok ha (h.leave hstates)
    | error herror hstates => exact .error herror (h.leave hstates)
  finish := parallelUpTo_update h.finish

end SimulationUpTo

namespace Simulation

variable {S : Setting σ} {T : Setting τ} {raw done : Value → Prop}
  {E : State σ → State τ → Prop}

/-- States with one last address fail with one error. -/
theorem upTo (h : Simulation S T raw E) : SimulationUpTo S T raw E Eq where
  refuse limit hst := by
    rw [h.lastAddress hst]
    exact ⟨rfl, h.note _ hst⟩
  enter := h.enter
  leave := h.leave
  note := h.note
  count := h.count
  lookup := h.lookup
  call cause probe args hraw := parallel_iff.mp (h.call cause probe args hraw)
  finish := h.finish

/-- Settings with one store and one limit run in step, if they collapse the same raw values. -/
theorem lockstep (h : Simulation S T raw E) (hclosed : Closed raw done)
    (hstore : S.store = T.store) (hroot : raw S.root)
    (hlimit : T.options.maxDepth = S.options.maxDepth)
    (hcollapse : ∀ v, raw v → v = .null ∨
      (S.options.collapseFalsy && !v.isTruthy) = (T.options.collapseFalsy && !v.isTruthy)) :
    Lockstep S T raw done fun _ Φ (m : Resolution σ _) (n : Resolution τ _) =>
      Parallel E Φ m n := by
  simp only [parallel_iff]
  exact h.upTo.lockstep hclosed hstore hroot hlimit hcollapse

end Simulation
end RuleTemplate.Resolution
