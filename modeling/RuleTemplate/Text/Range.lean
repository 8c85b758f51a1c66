/-!
Character classes given as lists of code point ranges, both ends included. Between the
edges of the ranges the characters are all in the class, or all outside.
-/
namespace RuleTemplate.Text

def inRanges (ranges : List (Nat × Nat)) (c : Char) : Bool :=
  ranges.any fun range => decide (range.1 ≤ c.toNat) && decide (c.toNat ≤ range.2)

theorem inRanges_eq_true {ranges : List (Nat × Nat)} {c : Char} :
    inRanges ranges c = true ↔ ∃ range ∈ ranges, range.1 ≤ c.toNat ∧ c.toNat ≤ range.2 := by
  simp [inRanges, List.any_eq_true]

def edgesOf (ranges : List (Nat × Nat)) : List Nat :=
  ranges.flatMap fun range => [range.1, range.2 + 1]

end RuleTemplate.Text
