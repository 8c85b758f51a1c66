import RuleTemplate.Text.Blank
import RuleTemplate.Text.CaseFold
import RuleTemplate.Text.Category
import RuleTemplate.Text.DecimalDigit
import RuleTemplate.Text.WordCharacter

/-!
Sets of characters, as they are written: ranges and classes put together.
-/
namespace RuleTemplate.Text

inductive CharSet
  | range (first last : Nat)
  | digit
  | blank
  | word
  | category (kind : Category)
  | union (a b : CharSet)
  | inter (a b : CharSet)
  | complement (a : CharSet)
  | caseless (a : CharSet)
deriving DecidableEq, Repr

namespace CharSet

def contains : CharSet → Char → Bool
  | range first last, c => decide (first ≤ c.toNat) && decide (c.toNat ≤ last)
  | digit, c => isDecimalDigit c
  | blank, c => isBlank c
  | word, c => isWordChar c
  | category kind, c => Category.of c == kind
  | union a b, c => a.contains c || b.contains c
  | inter a b, c => a.contains c && b.contains c
  | complement a, c => !a.contains c
  | caseless a, c => (caseVariants c).any fun d => a.contains d

def single (c : Char) : CharSet := range c.toNat c.toNat

def empty : CharSet := range 1 0

def ascii : CharSet := range 0 0x7F

def ofRanges (ranges : List (Nat × Nat)) : CharSet :=
  ranges.foldr (fun (first, last) s => union (range first last) s) empty

def diff (a b : CharSet) : CharSet := inter a (complement b)

def symmDiff (a b : CharSet) : CharSet := union (diff a b) (diff b a)

end CharSet
end RuleTemplate.Text
