import RuleTemplate.Text.Range

/-!
Blanks: the characters with the White_Space property. They separate the clauses of
a criterion and may stand before a number.
-/
namespace RuleTemplate.Text

def blankRanges : List (Nat × Nat) := [
  (0x09, 0x0D), (0x20, 0x20), (0x85, 0x85), (0xA0, 0xA0), (0x1680, 0x1680), (0x2000, 0x200A),
  (0x2028, 0x2029), (0x202F, 0x202F), (0x205F, 0x205F), (0x3000, 0x3000)]

def isBlank (c : Char) : Bool := inRanges blankRanges c

def trimmed (text : List Char) : List Char :=
  ((text.dropWhile isBlank).reverse.dropWhile isBlank).reverse

theorem isBlank_space : isBlank ' ' = true := by decide

theorem isBlank_colon : isBlank ':' = false := by decide

end RuleTemplate.Text
