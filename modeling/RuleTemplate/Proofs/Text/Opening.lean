import Mathlib.Data.List.TakeWhile
import RuleTemplate.Proofs.Number

/-!
What a text begins with where it begins with an integer: blanks, at most one sign, and digits up
to the first character that is none. The reader takes exactly these texts, as long as the digits
write no more than the greatest 64-bit integer, whatever the sign.
-/
namespace RuleTemplate.Text

theorem isDigit_iff {c : Char} : c.isDigit = true ↔ 48 ≤ c.toNat ∧ c.toNat ≤ 57 := by
  simp [Char.isDigit, UInt32.le_iff_toNat_le]

theorem isBlank_of_isDigit {c : Char} (h : c.isDigit = true) : isBlank c = false := by
  have hcode := isDigit_iff.mp h
  rw [Bool.eq_false_iff]
  intro hblank
  obtain ⟨range, hrange, hle⟩ := inRanges_eq_true.mp hblank
  simp only [blankRanges, List.mem_cons, List.not_mem_nil, or_false] at hrange
  rcases hrange with rfl | rfl | rfl | rfl | rfl | rfl | rfl | rfl | rfl | rfl <;> omega

/-- A digit is no sign. -/
theorem cutSign_of_isDigit {c : Char} (h : c.isDigit = true) (rest : List Char) :
    cutSign (c :: rest) = (false, c :: rest) := by
  unfold cutSign
  split
  · next heq => simp [(List.cons.inj heq).1, Char.isDigit] at h
  · next heq => simp [(List.cons.inj heq).1, Char.isDigit] at h
  · rfl

inductive Sign
  | none
  | plus
  | minus
deriving DecidableEq, Repr

namespace Sign

def chars : Sign → List Char
  | none => []
  | plus => ['+']
  | minus => ['-']

def apply : Sign → Nat → Int
  | minus, magnitude => -(magnitude : Int)
  | _, magnitude => magnitude

end Sign

/-- Every text has a sign, if possibly none, which is the one that is split off. -/
theorem exists_sign (text : List Char) : ∃ sign : Sign, text = sign.chars ++ (cutSign text).2 := by
  unfold cutSign
  split
  · exact ⟨.minus, rfl⟩
  · exact ⟨.plus, rfl⟩
  · exact ⟨.none, rfl⟩

/-- Blanks, at most one sign, all the digits that follow, and the rest of the text. -/
structure Opening where
  blanks : List Char
  sign : Sign
  digits : List Char
  rest : List Char
  blank : ∀ c ∈ blanks, isBlank c = true
  digits_ne : digits ≠ []
  digit : ∀ c ∈ digits, c.isDigit = true
  maximal : ∀ c ∈ rest.head?, c.isDigit = false

namespace Opening

variable (o : Opening)

def chars : List Char := o.blanks ++ (o.sign.chars ++ (o.digits ++ o.rest))

def magnitude : Nat := Nat.ofDigitChars 10 o.digits 0

def integer : Int := o.sign.apply o.magnitude

theorem dropWhile_chars :
    o.chars.dropWhile isBlank = o.sign.chars ++ (o.digits ++ o.rest) := by
  obtain ⟨first, others, hdigits⟩ := List.exists_cons_of_ne_nil o.digits_ne
  have hfirst : isBlank first = false := isBlank_of_isDigit (o.digit first (by simp [hdigits]))
  have hhead : ∀ c ∈ (o.sign.chars ++ (o.digits ++ o.rest)).head?, isBlank c = false := by
    rw [hdigits]
    cases o.sign with
    | none => simpa [Sign.chars] using hfirst
    | plus => simp [Sign.chars]; decide
    | minus => simp [Sign.chars]; decide
  exact (takeWhile_dropWhile_append o.blank hhead).2

theorem signedDigits_digits (negative : Bool) :
    signedDigits negative (o.digits ++ o.rest) =
      if o.magnitude ≤ maxMagnitude then
        some (if negative then -(o.magnitude : Int) else o.magnitude) else none := by
  have htake := (takeWhile_dropWhile_append o.digit o.maximal).1
  have hvalue : digitsValue o.digits = o.magnitude := digitsValue_eq_ofDigitChars o.digits
  simp only [signedDigits, htake, hvalue, o.digits_ne, false_or]
  by_cases hle : o.magnitude ≤ maxMagnitude
  · rw [if_pos hle, if_neg (Nat.not_lt.mpr hle)]
  · rw [if_neg hle, if_pos (Nat.lt_of_not_le hle)]

/-- The integer is read off the text if its magnitude is not too great. -/
theorem leadingInt_chars :
    leadingInt o.chars = if o.magnitude ≤ maxMagnitude then some o.integer else none := by
  obtain ⟨first, others, hdigits⟩ := List.exists_cons_of_ne_nil o.digits_ne
  have hfirst : first.isDigit = true := o.digit first (by simp [hdigits])
  have hcut : cutSign (o.sign.chars ++ (o.digits ++ o.rest)) =
      (decide (o.sign = .minus), o.digits ++ o.rest) := by
    cases o.sign with
    | none =>
      rw [hdigits]
      exact cutSign_of_isDigit hfirst (others ++ o.rest)
    | plus => rfl
    | minus => rfl
  rw [leadingInt, dropWhile_chars, hcut]
  refine (o.signedDigits_digits _).trans ?_
  rw [integer]
  cases o.sign <;> rfl

end Opening

theorem exists_opening {text : List Char} {n : Int} (h : leadingInt text = some n) :
    ∃ o : Opening, o.chars = text := by
  obtain ⟨sign, hsign⟩ := exists_sign (text.dropWhile isBlank)
  obtain ⟨hne, -⟩ := signedDigits_eq_some.mp h
  let rest := (cutSign (text.dropWhile isBlank)).2
  refine ⟨{
    blanks := text.takeWhile isBlank
    sign := sign
    digits := rest.takeWhile Char.isDigit
    rest := rest.dropWhile Char.isDigit
    blank := fun c hc => List.mem_takeWhile_imp hc
    digits_ne := hne
    digit := fun c hc => List.mem_takeWhile_imp hc
    maximal := fun c hc => ?_ }, ?_⟩
  · have hhead := List.head?_dropWhile_not Char.isDigit rest
    rw [Option.mem_def.mp hc] at hhead
    exact hhead
  · rw [Opening.chars, List.takeWhile_append_dropWhile, ← hsign, List.takeWhile_append_dropWhile]

/-- A text is read as an integer if it is blanks, at most one sign, and digits up to the first
character that is none, which write at most 2^63 - 1, and no other text is. -/
theorem leadingInt_eq_some_iff {text : List Char} {n : Int} :
    leadingInt text = some n ↔
      ∃ o : Opening, o.chars = text ∧ o.magnitude ≤ maxMagnitude ∧ n = o.integer := by
  constructor
  · intro h
    obtain ⟨o, rfl⟩ := exists_opening h
    rw [o.leadingInt_chars] at h
    by_cases hle : o.magnitude ≤ maxMagnitude
    · rw [if_pos hle] at h
      exact ⟨o, rfl, hle, (Option.some.inj h).symm⟩
    · rw [if_neg hle] at h
      contradiction
  · rintro ⟨o, rfl, hle, rfl⟩
    rw [o.leadingInt_chars, if_pos hle]

end RuleTemplate.Text
