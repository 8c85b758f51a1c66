import RuleTemplate.Text.Blank

/-!
Decimal integers in texts. `leadingInt` reads the integer a text begins with, after
blanks, and ignores what follows; an integer whose magnitude passes 2^63 - 1 is refused.
`unsigned?` reads a text that is a number as a whole, `hexValue?` a hexadecimal digit.
-/
namespace RuleTemplate.Text

def digitsValue (digits : List Char) : Nat :=
  digits.foldl (fun value digit => 10 * value + (digit.toNat - '0'.toNat)) 0

def maxMagnitude : Nat := Nat.pow 2 63 - 1

def cutSign : List Char → Bool × List Char
  | '-' :: rest => (true, rest)
  | '+' :: rest => (false, rest)
  | text => (false, text)

def signedDigits (negative : Bool) (text : List Char) : Option Int :=
  let digits := text.takeWhile Char.isDigit
  let magnitude := digitsValue digits
  if digits = [] ∨ maxMagnitude < magnitude then none
  else some (if negative then -(magnitude : Int) else magnitude)

def leadingInt (text : List Char) : Option Int :=
  let (negative, rest) := cutSign (text.dropWhile isBlank)
  signedDigits negative rest

def dropPlus : List Char → List Char
  | '+' :: rest => rest
  | text => text

def unsigned? (text : List Char) : Option Nat :=
  let digits := dropPlus text
  if digits ≠ [] ∧ digits.all Char.isDigit then some (digitsValue digits) else none

def hexValue? (c : Char) : Option Nat :=
  if c.isDigit then some (c.toNat - '0'.toNat)
  else if 'a' ≤ c ∧ c ≤ 'f' then some (c.toNat - 'a'.toNat + 10)
  else if 'A' ≤ c ∧ c ≤ 'F' then some (c.toNat - 'A'.toNat + 10)
  else none

theorem signedDigits_eq_some {negative : Bool} {text : List Char} {n : Int} :
    signedDigits negative text = some n ↔
      text.takeWhile Char.isDigit ≠ [] ∧
      digitsValue (text.takeWhile Char.isDigit) ≤ maxMagnitude ∧
      n = if negative then -(digitsValue (text.takeWhile Char.isDigit) : Int)
        else digitsValue (text.takeWhile Char.isDigit) := by
  simp only [signedDigits]
  by_cases hfits : text.takeWhile Char.isDigit = [] ∨
      maxMagnitude < digitsValue (text.takeWhile Char.isDigit)
  · rw [if_pos hfits]
    refine ⟨fun h => by simp at h, fun ⟨hne, hle, _⟩ => ?_⟩
    exact absurd hfits (not_or.mpr ⟨hne, Nat.not_lt.mpr hle⟩)
  · rw [if_neg hfits]
    obtain ⟨hne, hle⟩ := not_or.mp hfits
    simp [hne, Nat.not_lt.mp hle, eq_comm]

end RuleTemplate.Text
