import Mathlib.Algebra.Group.Pi.Basic
import RuleTemplate.Proofs.Resolution.Invariant

/-!
Resolution does not depend on what was resolved before. If what a probe returns is a function
of its arguments, every resolution amounts to a result, or to a failure, and to a share of
the counters: the same ones from every state of the same depth. Only the address that a
failure names is left over from before.
-/
namespace RuleTemplate.Resolution

variable {σ α β : Type}

/-- From every state the resolution comes to the same result, or fails; it comes back to the
depth where it began, and adds a share to the counters that this depth determines. -/
structure Amounts (m : Resolution σ α) (result : Option α) (share : Nat → Metrics) : Prop where
  result_eq : ∀ s, (m s).1.toOption = result
  depth_eq : ∀ s, (m s).2.depth = s.depth
  metrics_eq : ∀ s, (m s).2.metrics = s.metrics + share s.depth

namespace Amounts

variable {m : Resolution σ α} {a : α} {result : Option α} {share rest : Nat → Metrics}

theorem run_eq (h : Amounts m (some a) share) (s : State σ) : m s = (.ok a, (m s).2) := by
  have hresult := h.result_eq s
  cases hrun : (m s).1 with
  | ok b =>
    rw [hrun] at hresult
    exact Prod.ext (hrun.trans (congrArg Except.ok (Option.some.inj hresult))) rfl
  | error e => simp [hrun, Except.toOption] at hresult

theorem run_eq_error (h : Amounts m none share) (s : State σ) :
    ∃ e, m s = (.error e, (m s).2) := by
  have hresult := h.result_eq s
  cases hrun : (m s).1 with
  | ok b => simp [hrun, Except.toOption] at hresult
  | error e => exact ⟨e, Prod.ext hrun rfl⟩

theorem pure (a : α) : Amounts (pure a : Resolution σ α) (some a) 0 :=
  ⟨fun _ => rfl, fun _ => rfl, fun s => (add_zero s.metrics).symm⟩

theorem refuse (limit : Nat) : Amounts (refuse limit : Resolution σ α) none 0 :=
  ⟨fun _ => rfl, fun _ => rfl, fun s => (add_zero s.metrics).symm⟩

theorem note (event : Event) : Amounts (note event : Resolution σ Unit) (some ()) 0 :=
  ⟨fun _ => rfl, fun _ => rfl, fun s => (add_zero s.metrics).symm⟩

theorem count {change : Metrics → Metrics} {part : Metrics} (h : ∀ m, change m = m + part) :
    Amounts (count change : Resolution σ Unit) (some ()) fun _ => part :=
  ⟨fun _ => rfl, fun _ => rfl, fun s => h s.metrics⟩

theorem noteLookup (address : String) (found : Bool) :
    Amounts (noteLookup address found : Resolution σ Unit) (some ())
      fun _ => { lookups := 1 } :=
  ⟨fun _ => rfl, fun _ => rfl, fun s => by simp [Resolution.noteLookup, Metrics.add_def]⟩

theorem call {S : Setting σ} {cause : Cause} {probe : Probe} {args : Record} {v : Value}
    (h : ∀ probes, (S.invoke probe args probes).1 = v) :
    Amounts (call S cause probe args) (some v) fun _ => { probeCalls := 1 } :=
  ⟨fun s => congrArg some (h s.probes), fun _ => rfl,
    fun s => by simp [Resolution.call, Metrics.add_def]⟩

theorem bind {f : α → Resolution σ β} {result : Option β} (hm : Amounts m (some a) share)
    (hf : Amounts (f a) result rest) : Amounts (m >>= f) result (share + rest) := by
  have hrun (s : State σ) : (m >>= f) s = f a (m s).2 := bind_of_ok (hm.run_eq s) f
  refine ⟨fun s => ?_, fun s => ?_, fun s => ?_⟩
  · rw [hrun, hf.result_eq]
  · rw [hrun, hf.depth_eq, hm.depth_eq]
  · rw [hrun, hf.metrics_eq, hm.metrics_eq, hm.depth_eq, Pi.add_apply, add_assoc]

theorem bind_none {f : α → Resolution σ β} (hm : Amounts m none share) :
    Amounts (m >>= f) none share := by
  have hrun (s : State σ) : ∃ e, (m >>= f) s = (.error e, (m s).2) := by
    obtain ⟨e, herror⟩ := hm.run_eq_error s
    exact ⟨e, bind_of_error herror f⟩
  refine ⟨fun s => ?_, fun s => ?_, fun s => ?_⟩
  · obtain ⟨e, herror⟩ := hrun s
    rw [herror]
    rfl
  · obtain ⟨e, herror⟩ := hrun s
    rw [herror, hm.depth_eq]
  · obtain ⟨e, herror⟩ := hrun s
    rw [herror, hm.metrics_eq]

/-- One level deeper the share is that of the next depth, and the level itself. -/
theorem nested (hm : Amounts m result share) :
    Amounts (nested m) result fun depth => { maxDepth := depth + 1 } + share (depth + 1) := by
  refine ⟨fun s => hm.result_eq s.enter, fun s => ?_, fun s => ?_⟩
  · rw [nested_apply, State.leave_depth, hm.depth_eq, State.enter_depth]
    omega
  · rw [nested_apply, State.leave_metrics, hm.metrics_eq, State.enter_metrics, add_assoc]
    rfl

end Amounts

def Independent (Φ : α → Prop) (m : Resolution σ α) : Prop :=
  ∃ result share, Amounts m result share ∧ ∀ a ∈ result, Φ a

theorem Independent.bind {Φ : α → Prop} {Ψ : β → Prop} {m : Resolution σ α}
    {f : α → Resolution σ β} (hm : Independent Φ m) (hf : ∀ a, Φ a → Independent Ψ (f a)) :
    Independent Ψ (m >>= f) := by
  obtain ⟨result, share, hamounts, hresult⟩ := hm
  cases result with
  | none => exact ⟨none, share, hamounts.bind_none, by simp⟩
  | some a =>
    obtain ⟨result', rest, hamounts', hresult'⟩ := hf a (hresult a rfl)
    exact ⟨result', share + rest, hamounts.bind hamounts', hresult'⟩

/-- What a resolution amounts to can be read off its run from a state of its own. -/
theorem Independent.amounts {Φ : α → Prop} {m : Resolution σ α} (h : Independent Φ m)
    (probes : σ) (depth : Nat) :
    (∀ s, (m s).1.toOption = (m { depth, probes }).1.toOption) ∧ (∀ s, (m s).2.depth = s.depth) ∧
      ∀ s, s.depth = depth →
        (m s).2.metrics = s.metrics + (m { depth, probes }).2.metrics := by
  obtain ⟨result, share, hamounts, -⟩ := h
  refine ⟨fun s => ?_, hamounts.depth_eq, fun s hs => ?_⟩
  · rw [hamounts.result_eq, hamounts.result_eq]
  · rw [hamounts.metrics_eq, hamounts.metrics_eq, hs]
    exact congrArg (s.metrics + ·) (zero_add _).symm

theorem independent_congruence :
    Congruence fun _ Φ (m _ : Resolution σ _) => Independent Φ m where
  pure ha := ⟨_, _, .pure _, fun _ hb => Option.some.inj hb ▸ ha⟩
  bind := Independent.bind
  note event _ := ⟨_, _, .note event, fun _ _ => trivial⟩
  count _ h := by
    obtain ⟨part, -, -, -, -, hpart⟩ := h
    exact ⟨_, _, .count hpart, fun _ _ => trivial⟩

theorem independent_invariant {S : Setting σ} {answer : Probe → Record → Value}
    (hanswer : ∀ probe args probes, (S.invoke probe args probes).1 = answer probe args) :
    Invariant S (fun _ => True) (fun _ => True) fun _ Φ m => Independent Φ m where
  aligned := independent_congruence.aligned closed_trivial rfl trivial rfl
    ⟨_, _, .count Metrics.rule_counted, fun _ _ => trivial⟩
    (fun event _ => ⟨_, _, .note event, fun _ _ => trivial⟩)
    (fun address found => ⟨_, _, .noteLookup address found, fun _ _ => trivial⟩)
    (fun _ probe args _ _ => ⟨_, _, .call (hanswer probe args), fun _ _ => trivial⟩)
  refuse := ⟨_, _, .refuse _, by simp⟩
  nested _ hm := by
    obtain ⟨result, share, hamounts, hresult⟩ := hm
    exact ⟨result, _, hamounts.nested, hresult⟩
  finish := ⟨some (), 0, ⟨fun _ => rfl, fun _ => rfl, fun s => (add_zero s.metrics).symm⟩,
    fun _ _ => trivial⟩

end RuleTemplate.Resolution
