import RuleTemplate.Proofs.Resolution.Alignment

/-!
The limit on open levels is a guard and nothing else. A run that succeeds reaches a deepest
level; every limit from there on gives the same run, and every limit below fails with that
limit. Two runs with different limits are kept in step for as long as the second one has
levels left; the deepest level that the first one has seen tells whether it does.
-/
namespace RuleTemplate

def Setting.withLimit {σ : Type} (setting : Setting σ) (limit : Nat) : Setting σ :=
  { setting with options := { setting.options with maxDepth := limit } }

namespace Resolution

variable {σ α : Type}

/-- What a success from `s` to `t` says about a run `m'` from `s` that may only open so many
levels: if the deepest level fits, it is the same run, and if only the level reached before
fits, it fails. -/
structure FitsWithin (levels limit : Nat) (m' : Resolution σ α) (s : State σ) (a : α)
    (t : State σ) : Prop where
  depth_eq : t.depth = s.depth
  maxDepth_le : s.metrics.maxDepth ≤ t.metrics.maxDepth
  same : t.metrics.maxDepth ≤ s.depth + levels → m' s = (.ok a, t)
  fails : s.metrics.maxDepth ≤ s.depth + levels → s.depth + levels < t.metrics.maxDepth →
    ∃ address u, m' s = (.error ⟨limit, address⟩, u)

def Restricts (levels limit : Nat) (m m' : Resolution σ α) : Prop :=
  ∀ s a t, m s = (.ok a, t) → FitsWithin levels limit m' s a t

def StaysOnLevel (m : Resolution σ α) : Prop :=
  ∀ s, (m s).2.depth = s.depth ∧ (m s).2.metrics.maxDepth = s.metrics.maxDepth

theorem StaysOnLevel.restricts {m : Resolution σ α} (hm : StaysOnLevel m)
    (levels limit : Nat) : Restricts levels limit m m := by
  intro s a t hrun
  obtain ⟨hdepth, hmax⟩ := hm s
  rw [hrun] at hdepth hmax
  refine ⟨hdepth, Nat.le_of_eq hmax.symm, fun _ => hrun, fun hstart hover => ?_⟩
  rw [hmax] at hover
  omega

theorem Restricts.bind {β : Type} {levels limit : Nat} {m m' : Resolution σ α}
    {f f' : α → Resolution σ β} {Φ : α → Prop} (hm : Restricts levels limit m m')
    (hreturns : Returns Φ m) (hf : ∀ a, Φ a → Restricts levels limit (f a) (f' a)) :
    Restricts levels limit (m >>= f) (m' >>= f') := by
  intro s b t hrun
  obtain ⟨a, u, hfirst, hsecond⟩ := bind_eq_ok hrun
  have h₁ := hm s a u hfirst
  have h₂ := hf a (hreturns s a u hfirst) u b t hsecond
  have hdepth := h₁.depth_eq
  have hmax₁ := h₁.maxDepth_le
  have hmax₂ := h₂.maxDepth_le
  refine ⟨h₂.depth_eq.trans hdepth, Nat.le_trans hmax₁ hmax₂, fun hfit => ?_,
    fun hstart hover => ?_⟩
  · rw [bind_of_ok (h₁.same (by omega)) f']
    exact h₂.same (by omega)
  -- The first part fails already, or it runs alike and the second one fails.
  · by_cases hmid : u.metrics.maxDepth ≤ s.depth + levels
    · rw [bind_of_ok (h₁.same hmid) f']
      exact h₂.fails (by omega) (by omega)
    · obtain ⟨address, v, herror⟩ := h₁.fails hstart (by omega)
      exact ⟨address, v, bind_of_error herror f'⟩

/-- One level deeper there is one level less. -/
theorem Restricts.nested {levels limit : Nat} {m m' : Resolution σ α}
    (hm : Restricts levels limit m m') :
    Restricts (levels + 1) limit (nested m) (nested m') := by
  intro s a t hrun
  obtain ⟨u, hinner, rfl⟩ := nested_eq hrun
  have h := hm s.enter a u hinner
  have hdepth := h.depth_eq
  have hmax := h.maxDepth_le
  simp only [State.enter_depth, State.enter_maxDepth] at hdepth hmax
  refine ⟨?_, ?_, fun hfit => ?_, fun hstart hover => ?_⟩
  · rw [State.leave_depth]
    omega
  · rw [State.leave_metrics]
    omega
  · rw [State.leave_metrics] at hfit
    exact nested_of_eq (h.same (by rw [State.enter_depth]; omega))
  · rw [State.leave_metrics] at hover
    obtain ⟨address, v, herror⟩ := h.fails
      (by rw [State.enter_depth, State.enter_maxDepth]; omega) (by rw [State.enter_depth]; omega)
    exact ⟨address, v.leave, nested_of_eq herror⟩

/-- Whatever goes one level deeper is refused where no level is left. -/
theorem restricts_refuse {levels limit : Nat} {m m' : Resolution σ α}
    (hm : Restricts levels limit m m') : Restricts 0 limit (nested m) (refuse limit) := by
  intro s a t hrun
  have h := hm.nested s a t hrun
  obtain ⟨u, hinner, rfl⟩ := nested_eq hrun
  have hdeep := (hm s.enter a u hinner).maxDepth_le
  rw [State.enter_maxDepth] at hdeep
  refine ⟨h.depth_eq, h.maxDepth_le, fun hfit => ?_, fun _ _ => ⟨s.lastAddress, _, rfl⟩⟩
  rw [State.leave_metrics] at hfit
  omega

theorem restricts_count {change : Metrics → Metrics} (h : Metrics.IsTally change)
    (levels limit : Nat) :
    Restricts levels limit (count change : Resolution σ Unit) (count change) := by
  obtain ⟨share, -, -, -, hlevel, hchange⟩ := h
  refine StaysOnLevel.restricts (fun s => ⟨rfl, ?_⟩) levels limit
  have hsum : change s.metrics = s.metrics + share := hchange s.metrics
  simp [count, update, State.count, hsum, Metrics.add_def, hlevel]

/-- A step that leaves depth and deepest level alone, in both runs. -/
theorem restricts_idle {m : Resolution σ α} (levels limit : Nat)
    (hdepth : ∀ s, (m s).2.depth = s.depth)
    (hmax : ∀ s, (m s).2.metrics.maxDepth = s.metrics.maxDepth) :
    Restricts levels limit m m ∧ Returns (fun _ => True) m := by
  have hm : StaysOnLevel m := fun s => ⟨hdepth s, hmax s⟩
  exact ⟨hm.restricts levels limit, returns_trivial m⟩

theorem restricts_congruence (levels limit : Nat) :
    Congruence fun _ Φ (m m' : Resolution σ _) =>
      Restricts levels limit m m' ∧ Returns Φ m where
  pure ha := ⟨(restricts_idle levels limit (fun _ => rfl) fun _ => rfl).1, returns_pure ha⟩
  bind hm hf := ⟨hm.1.bind hm.2 fun a ha => (hf a ha).1, hm.2.bind fun a ha => (hf a ha).2⟩
  note _ _ := restricts_idle levels limit (fun _ => rfl) fun _ => rfl
  count _ hchange := ⟨restricts_count hchange levels limit, returns_trivial _⟩

variable (S : Setting σ)

theorem restricts_aligned (levels limit : Nat) :
    Aligned S (S.withLimit limit) (fun _ => True) (fun _ => True)
      fun _ Φ (m m' : Resolution σ _) => Restricts levels limit m m' ∧ Returns Φ m :=
  (restricts_congruence levels limit).aligned closed_trivial rfl trivial rfl
    (restricts_idle levels limit (fun _ => rfl) fun _ => rfl)
    (fun _ _ => restricts_idle levels limit (fun _ => rfl) fun _ => rfl)
    (fun _ _ => restricts_idle levels limit (fun _ => rfl) fun _ => rfl)
    (fun _ _ _ _ _ => restricts_idle levels limit (fun _ => rfl) fun _ => rfl)

/-- The induction is on the levels of the run that succeeds; the levels of the other run go
down beside them until it has none left. -/
theorem restricts_descendWithin (limit : Nat) (n : Nat) : ∀ (k : Nat) (v : Value),
    Restricts k limit (descendWithin S n v) (descendWithin (S.withLimit limit) k v) := by
  induction n with
  | zero =>
    intro k v s a t hrun
    simp [descendWithin, refuse] at hrun
  | succ n ih =>
    intro k v
    have hwalk (k : Nat) :
        Restricts k limit (resolveWithin S n v) (resolveWithin (S.withLimit limit) k v) := by
      rw [resolveWithin_eq, resolveWithin_eq]
      have hlevel := (restricts_aligned S k limit).level
        fun w _ => ⟨ih k w, returns_trivial _⟩
      exact (hlevel.walk v trivial).1
    cases k with
    | zero => exact restricts_refuse (hwalk 0)
    | succ k => exact (hwalk k).nested

theorem restricts_resolveTemplate (limit : Nat) (template : Record) :
    Restricts limit limit (resolveTemplate S template)
      (resolveTemplate (S.withLimit limit) template) := by
  have hlevel := (restricts_aligned S limit limit).level
    fun w _ => ⟨restricts_descendWithin S limit S.options.maxDepth limit w, returns_trivial _⟩
  refine ((restricts_congruence limit limit).resolveTemplate closed_trivial (fun v _ => ?_)
    (restricts_idle limit limit (fun _ => rfl) fun _ => rfl) template fun _ _ => trivial).1
  unfold resolveValue
  rw [resolveWithin_eq, resolveWithin_eq]
  exact hlevel.walk v trivial

/-- A success whose deepest level is `m` is the same run, with the same counters and the same
calls, at every limit from `m` on. Every limit below `m` is refused, and the refusal says so.
The probes are machines with any states. -/
theorem resolveTemplate_limit_exact (template : Record) (probes : σ) (out : Record)
    (final : State σ) (hrun : resolveTemplate S template { probes } = (.ok out, final))
    (limit : Nat) :
    (final.metrics.maxDepth ≤ limit →
      resolveTemplate (S.withLimit limit) template { probes } = (.ok out, final)) ∧
    (limit < final.metrics.maxDepth → ∃ address failed,
      resolveTemplate (S.withLimit limit) template { probes } =
        (.error ⟨limit, address⟩, failed)) := by
  have h := restricts_resolveTemplate S limit template _ out final hrun
  constructor
  · intro hfit
    exact h.same (by simpa using hfit)
  · intro hover
    exact h.fails (Nat.zero_le _) (by simpa using hover)

def chainStore : Store := Store.ofRecord [
  ("@a", .object [("x", .string "@b.y")]),
  ("@b", .object [("y", .string "deep")]),
  ("@svc", .object [("next", .probe ⟨0⟩)])]

def countingSetting : Setting Nat where
  store := chainStore
  options := {}
  invoke := fun _ _ calls => (.number (.int (calls + 1)), calls + 1)

def countingTemplate : Record := [
  ("v", .object [("default", .probe ⟨0⟩), ("@svc::next[k:@a.x]:2", .string "@a.x")])]

theorem resolveTemplate_limit_exact_counting : ∃ out final,
    resolveTemplate countingSetting countingTemplate { probes := 0 } = (.ok out, final) ∧
    final.metrics.maxDepth = 3 ∧
    resolveTemplate (countingSetting.withLimit 3) countingTemplate { probes := 0 } =
      (.ok out, final) ∧
    ∃ address failed,
      resolveTemplate (countingSetting.withLimit 2) countingTemplate { probes := 0 } =
        (.error ⟨2, address⟩, failed) := by
  have hdeepest : (resolveTemplate countingSetting countingTemplate
      { probes := 0 }).2.metrics.maxDepth = 3 := by decide +kernel
  obtain ⟨out, hrun⟩ := exists_of_isOk (m := resolveTemplate countingSetting countingTemplate)
    (s := { probes := 0 }) (by decide +kernel)
  have h := resolveTemplate_limit_exact countingSetting countingTemplate 0 out _ hrun
  exact ⟨out, _, hrun, hdeepest, (h 3).1 (Nat.le_of_eq hdeepest), (h 2).2 (by omega)⟩

end Resolution
end RuleTemplate
