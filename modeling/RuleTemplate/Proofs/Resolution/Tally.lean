import Mathlib.Algebra.BigOperators.Group.List.Basic
import Mathlib.Algebra.Ring.Nat
import RuleTemplate.Resolution.Rules

/-!
Counters as sums. The counters of two parts of a resolution are taken together by adding
what is counted and keeping the deeper of the deepest levels, so the order of the parts does
not matter. Every step of a resolution that counts adds a share of its own.
-/
namespace RuleTemplate

attribute [ext] Metrics

namespace Metrics

instance : Zero Metrics := ⟨{}⟩

instance : Add Metrics where
  add a b := {
    nodes := a.nodes + b.nodes
    rules := a.rules + b.rules
    criteria := a.criteria + b.criteria
    matched := a.matched + b.matched
    probeCalls := a.probeCalls + b.probeCalls
    lookups := a.lookups + b.lookups
    maxDepth := max a.maxDepth b.maxDepth }

theorem zero_def : (0 : Metrics) = {} := rfl

theorem add_def (a b : Metrics) : a + b = {
    nodes := a.nodes + b.nodes
    rules := a.rules + b.rules
    criteria := a.criteria + b.criteria
    matched := a.matched + b.matched
    probeCalls := a.probeCalls + b.probeCalls
    lookups := a.lookups + b.lookups
    maxDepth := max a.maxDepth b.maxDepth } := rfl

instance : AddCommMonoid Metrics where
  add_assoc a b c := by simp [add_def, Nat.add_assoc, Nat.max_assoc]
  zero_add a := by simp [add_def, zero_def]
  add_zero a := by simp [add_def, zero_def]
  add_comm a b := by simp [add_def, Nat.add_comm, Nat.max_comm]
  nsmul := nsmulRec

def total (parts : List Metrics) : Metrics where
  nodes := (parts.map nodes).sum
  rules := (parts.map rules).sum
  criteria := (parts.map criteria).sum
  matched := (parts.map matched).sum
  probeCalls := (parts.map probeCalls).sum
  lookups := (parts.map lookups).sum
  maxDepth := (parts.map maxDepth).foldr max 0

theorem sum_eq_total (parts : List Metrics) : parts.sum = total parts := by
  induction parts with
  | nil => rfl
  | cons part rest ih =>
    rw [List.sum_cons, ih, add_def]
    simp [total]

/-- A change of the counters that counts something other than rules, look-ups, calls and
levels. -/
def IsTally (change : Metrics → Metrics) : Prop :=
  ∃ share : Metrics, share.rules = 0 ∧ share.lookups = 0 ∧ share.probeCalls = 0 ∧
    share.maxDepth = 0 ∧ ∀ m, change m = m + share

theorem isTally_node : IsTally fun m => { m with nodes := m.nodes + 1 } :=
  ⟨{ nodes := 1 }, rfl, rfl, rfl, rfl, fun m => by simp [add_def]⟩

theorem isTally_criterion : IsTally fun m => { m with criteria := m.criteria + 1 } :=
  ⟨{ criteria := 1 }, rfl, rfl, rfl, rfl, fun m => by simp [add_def]⟩

theorem isTally_verdict (verdict : Verdict) :
    IsTally fun m => Resolution.countVerdict m verdict := by
  cases verdict with
  | matched parts captured =>
    exact ⟨{ matched := 1 }, rfl, rfl, rfl, rfl, fun m => by
      simp [add_def, Resolution.countVerdict]⟩
  | tentative v => exact ⟨0, rfl, rfl, rfl, rfl, fun m => (add_zero m).symm⟩
  | failed => exact ⟨0, rfl, rfl, rfl, rfl, fun m => (add_zero m).symm⟩

theorem rule_counted (m : Metrics) : { m with rules := m.rules + 1 } = m + { rules := 1 } := by
  simp [add_def]

end Metrics

theorem State.enter_metrics {σ : Type} (s : State σ) :
    s.enter.metrics = s.metrics + { maxDepth := s.depth + 1 } := rfl

theorem State.visited_metrics {σ : Type} (s : State σ) :
    (s.count fun m => { m with nodes := m.nodes + 1 }).metrics =
      s.metrics + { nodes := 1 } := by
  simp [State.count, Metrics.add_def]

end RuleTemplate
