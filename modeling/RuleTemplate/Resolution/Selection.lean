import RuleTemplate.Node
import RuleTemplate.Resolution.Journal

/-!
How a rule chooses among its branches. A branch with more clauses beats one with fewer,
a later one beats an earlier one with as many, and a bare address replaces whatever was
chosen before it without raising what has to be beaten.
-/
namespace RuleTemplate

inductive Verdict
  /-- All clauses held; the last one captured the value. -/
  | matched (parts : Nat) (captured : Value)
  /-- A bare address supplied the value. -/
  | tentative (v : Value)
  | failed

def Verdict.value? : Verdict → Option Value
  | .matched _ v | .tentative v => some v
  | .failed => none

structure Selection where
  best : Nat
  chosen : Option Value

def capturedMark : String := "@value"

def Branch.result (branch : Branch) (captured : Value) : Value :=
  if branch.outcome.string? = some capturedMark then captured else branch.outcome

theorem Branch.result_of_mark {branch : Branch} (h : branch.outcome = .string "@value")
    (captured : Value) : branch.result captured = captured := by
  simp [result, h, Value.string?, capturedMark]

theorem Branch.result_of_ne {branch : Branch} (h : branch.outcome ≠ .string "@value")
    (captured : Value) : branch.result captured = branch.outcome := by
  have hmark : branch.outcome.string? ≠ some capturedMark := by
    intro htext
    cases houtcome : branch.outcome <;> simp_all [Value.string?, capturedMark]
  rw [result, if_neg hmark]

namespace Selection

def start (fallback : Option Value) : Selection := ⟨0, fallback⟩

def consider (selection : Selection) (branch : Branch) : Verdict → Selection
  | .matched parts captured =>
    if parts < selection.best then selection else ⟨parts, some (branch.result captured)⟩
  | .tentative v => { selection with chosen := some v }
  | .failed => selection

def event (selection : Selection) (key : String) : Verdict → Event
  | .matched parts _ =>
    if parts < selection.best then .outranked key parts selection.best else .selected key parts
  | .tentative _ => .supplied key
  | .failed => .failed key

/-- What is chosen after a branch was chosen before it, is the outcome of the branch, or is
the value of its verdict. -/
theorem mem_consider {selection : Selection} {branch : Branch} {verdict : Verdict}
    {v : Value} (hv : v ∈ (selection.consider branch verdict).chosen) :
    v ∈ selection.chosen ∨ v = branch.outcome ∨ v ∈ verdict.value? := by
  cases verdict with
  | failed => exact Or.inl hv
  | tentative w => exact Or.inr (Or.inr hv)
  | matched parts captured =>
    simp only [Selection.consider] at hv
    split at hv
    · exact Or.inl hv
    · rw [Option.mem_some_iff, Branch.result] at hv
      split at hv
      · exact Or.inr (Or.inr (Option.mem_some_iff.mpr hv))
      · exact Or.inr (Or.inl hv.symm)

end Selection

end RuleTemplate
