import RuleTemplate.Matcher
import RuleTemplate.Proofs.Text.Opening

/-!
Range matchers compare integers. Both sides are read back from their texts, and the reader takes
a magnitude of at most 2^63 - 1, whatever the sign. Within these bounds a range matcher follows the
order of the integers; with an integer beyond them on either side it accepts nothing, also where
the value is one that a document can hold.
-/
namespace RuleTemplate

namespace Text

structure WrittenInt where
  negative : Bool
  digits : List Char
  digits_ne : digits ≠ []
  isDigit : ∀ c ∈ digits, c.isDigit = true

def IsReadable (n : Int) : Prop := n.natAbs ≤ maxMagnitude

instance (n : Int) : Decidable (IsReadable n) := inferInstanceAs (Decidable (_ ≤ _))

namespace WrittenInt

variable (w : WrittenInt)

def chars : List Char := if w.negative then '-' :: w.digits else w.digits

def text : String := String.ofList w.chars

def value : Int := if w.negative then -(digitsValue w.digits : Int) else digitsValue w.digits

theorem toList_text : w.text.toList = w.chars := String.toList_ofList

theorem natAbs_value : w.value.natAbs = digitsValue w.digits := by
  unfold value
  split <;> simp

def opening : Opening where
  blanks := []
  sign := if w.negative then .minus else .none
  digits := w.digits
  rest := []
  blank := by simp
  digits_ne := w.digits_ne
  digit := w.isDigit
  maximal := by simp

theorem chars_opening : w.opening.chars = w.chars := by
  unfold Opening.chars opening chars
  split <;> simp [Sign.chars]

theorem magnitude_opening : w.opening.magnitude = digitsValue w.digits :=
  (digitsValue_eq_ofDigitChars w.digits).symm

theorem integer_opening : w.opening.integer = w.value := by
  rw [Opening.integer, magnitude_opening, value, opening]
  split <;> rfl

/-- What is written is read back, unless the magnitude is too great. -/
theorem leadingInt_chars :
    leadingInt w.chars = if IsReadable w.value then some w.value else none := by
  rw [← chars_opening, Opening.leadingInt_chars, magnitude_opening, integer_opening,
    ← natAbs_value]
  rfl

def ofInt (n : Int) : WrittenInt :=
  ⟨decide (n < 0), Nat.toDigits 10 n.natAbs, Nat.toDigits_ne_nil, isDigit_toDigits _⟩

theorem value_ofInt (n : Int) : (ofInt n).value = n := by
  simp only [value, ofInt, digitsValue_toDigits, decide_eq_true_eq]
  split <;> omega

theorem toList_toString (n : Int) : (toString n).toList = (ofInt n).chars := by
  have hzero (m : Numeral) (hfraction : m.fraction = []) (hexponent : m.exponent = none) :
      m.chars = m.whole := by
    simp [Numeral.chars, Numeral.fractionText, Numeral.exponentText, hfraction, hexponent]
  have hjson : toString n = (Number.int n).jsonText := rfl
  rw [hjson, Number.jsonText_eq, Double.withSign, String.toList_ofList, hzero _ rfl rfl]
  rfl

end WrittenInt
end Text

namespace Matcher

open Text (WrittenInt IsReadable)

/-- A matcher that begins with a comparison sign has the rest for its bound. -/
theorem parse_atLeast (bound : String) : parse (">=" ++ bound) = .atLeast bound.toList := by
  have hcut : Text.cutPair '>' '=' (">=" ++ bound).toList = some ([], bound.toList) := by
    simp [Text.cutPair]
  rw [parse, hcut]

/-- The other sign is looked for first. -/
theorem parse_atMost {bound : String} (h : ¬['>', '='] <:+: bound.toList) :
    parse ("<=" ++ bound) = .atMost bound.toList := by
  have hnone : Text.cutPair '>' '=' ("<=" ++ bound).toList = none := by
    rw [Text.cutPair_eq_none, String.toList_append]
    exact mt (Text.pair_infix_append_iff (by decide)).mp h
  have hcut : Text.cutPair '<' '=' ("<=" ++ bound).toList = some ([], bound.toList) := by
    simp [Text.cutPair]
  simp only [parse, hnone, hcut]

theorem not_pair_infix_chars (b : WrittenInt) : ¬['>', '='] <:+: b.chars := by
  have hdigits : '>' ∉ b.digits := fun hmem => by simpa [Char.isDigit] using b.isDigit _ hmem
  have hchars : '>' ∉ b.chars := by
    unfold WrittenInt.chars
    split <;> simp [hdigits]
  exact fun hpair => hchars (hpair.subset List.mem_cons_self)

/-- Two integers are compared if the reader takes both, and else nothing holds of them. -/
theorem compareInts_iff (related : Int → Int → Bool) (a : Int) (b : WrittenInt) :
    compareInts related (toString a).toList b.chars = true ↔
      (IsReadable a ∧ IsReadable b.value) ∧ related a b.value = true := by
  rw [compareInts, WrittenInt.toList_toString, WrittenInt.leadingInt_chars,
    WrittenInt.leadingInt_chars, WrittenInt.value_ofInt]
  by_cases ha : IsReadable a
  · by_cases hb : IsReadable b.value
    · simp [ha, hb]
    · simp [ha, hb]
  · simp [ha]

end Matcher

namespace Value

open Text (WrittenInt IsReadable)

theorem passes_atLeast_iff (a : Int) (b : WrittenInt) :
    (number (.int a)).passes (">=" ++ b.text) = true ↔
      (IsReadable a ∧ IsReadable b.value) ∧ b.value ≤ a := by
  have hiff := Matcher.compareInts_iff (fun a b => decide (b ≤ a)) a b
  rw [decide_eq_true_iff] at hiff
  rw [passes, Matcher.parse_atLeast, WrittenInt.toList_text]
  exact hiff

theorem passes_atMost_iff (a : Int) (b : WrittenInt) :
    (number (.int a)).passes ("<=" ++ b.text) = true ↔
      (IsReadable a ∧ IsReadable b.value) ∧ a ≤ b.value := by
  have hiff := Matcher.compareInts_iff (fun a b => decide (a ≤ b)) a b
  rw [decide_eq_true_iff] at hiff
  have hpair := Matcher.not_pair_infix_chars b
  rw [← WrittenInt.toList_text] at hpair
  rw [passes, Matcher.parse_atMost hpair, WrittenInt.toList_text]
  exact hiff

/-- A range matcher follows the order of integers, as far as the reader takes them. So at least one
of the two matchers with a bound accepts an integer if and only if both integers are taken, and
both accept it if and only if it is the bound. -/
theorem passes_range_iff (a : Int) (b : WrittenInt) :
    ((number (.int a)).passes (">=" ++ b.text) = true ↔
      (IsReadable a ∧ IsReadable b.value) ∧ b.value ≤ a) ∧
    ((number (.int a)).passes ("<=" ++ b.text) = true ↔
      (IsReadable a ∧ IsReadable b.value) ∧ a ≤ b.value) ∧
    ((number (.int a)).passes (">=" ++ b.text) = true ∨
        (number (.int a)).passes ("<=" ++ b.text) = true ↔
      IsReadable a ∧ IsReadable b.value) ∧
    ((number (.int a)).passes (">=" ++ b.text) = true ∧
        (number (.int a)).passes ("<=" ++ b.text) = true ↔
      IsReadable a ∧ a = b.value) := by
  have hatLeast := passes_atLeast_iff a b
  have hatMost := passes_atMost_iff a b
  refine ⟨hatLeast, hatMost, ?_, ?_⟩
  · rw [hatLeast, hatMost, ← and_or_left]
    exact and_iff_left (Int.le_total b.value a)
  · rw [hatLeast, hatMost, ← and_and_left]
    constructor
    · rintro ⟨⟨ha, -⟩, hge, hle⟩
      exact ⟨ha, Int.le_antisymm hle hge⟩
    · rintro ⟨ha, rfl⟩
      exact ⟨⟨ha, ha⟩, Int.le_refl _, Int.le_refl _⟩

/-- The least and the greatest integer that a document can hold are neither at least zero nor at
most zero. -/
theorem not_ordered_at_ends :
    ((Number.int Number.minInt).InRange ∧ Number.minInt ≤ 0 ∧
      (number (.int Number.minInt)).passes ">=0" = false ∧
      (number (.int Number.minInt)).passes "<=0" = false) ∧
    (Number.int Number.maxInt).InRange ∧ 0 ≤ Number.maxInt ∧
      (number (.int Number.maxInt)).passes ">=0" = false ∧
      (number (.int Number.maxInt)).passes "<=0" = false := by
  have hends : Number.minInt ≤ Number.maxInt := by decide
  refine ⟨⟨⟨Int.le_refl _, hends⟩, by decide, ?_, ?_⟩, ⟨hends, Int.le_refl _⟩, by decide, ?_, ?_⟩
  all_goals decide +kernel

end Value
end RuleTemplate
