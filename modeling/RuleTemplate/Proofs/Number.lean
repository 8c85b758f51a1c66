import RuleTemplate.Json.Reader
import RuleTemplate.Proofs.Double.Interval

/-!
The text of a number tells which number it is. Without its sign it is a numeral, in which the
reader finds the digits before and after the point and the exponent again. A numeral of a whole
number has neither point nor exponent. That of a float has one of the two, and its value is a
decimal that rounds to the float and to no other.
-/
namespace RuleTemplate

namespace Text

/-- Characters with the property end where one without it comes. -/
theorem takeWhile_dropWhile_append {p : Char → Bool} {text rest : List Char}
    (htext : ∀ c ∈ text, p c = true) (hrest : ∀ c ∈ rest.head?, p c = false) :
    (text ++ rest).takeWhile p = text ∧ (text ++ rest).dropWhile p = rest := by
  rw [List.takeWhile_append_of_pos htext, List.dropWhile_append_of_pos htext]
  cases rest with
  | nil => simp
  | cons c rest => simp [hrest c rfl]

theorem digitsValue_eq_ofDigitChars (digits : List Char) :
    digitsValue digits = Nat.ofDigitChars 10 digits 0 := Nat.ofDigitChars_eq_foldl.symm

theorem digitsValue_toDigits (n : Nat) : digitsValue (Nat.toDigits 10 n) = n := by
  rw [digitsValue_eq_ofDigitChars, Nat.ofDigitChars_ten_toDigits]

theorem digitsValue_append_zeros (digits : List Char) (zeros : Nat) :
    digitsValue (digits ++ List.replicate zeros '0') = digitsValue digits * 10 ^ zeros := by
  rw [digitsValue_eq_ofDigitChars, Nat.ofDigitChars_append, Nat.ofDigitChars_replicate_zero,
    ← digitsValue_eq_ofDigitChars, Nat.mul_comm]

theorem digitsValue_zeros_append (zeros : Nat) (digits : List Char) :
    digitsValue (List.replicate zeros '0' ++ digits) = digitsValue digits := by
  rw [digitsValue_eq_ofDigitChars, Nat.ofDigitChars_append, Nat.ofDigitChars_replicate_zero,
    Nat.mul_zero, ← digitsValue_eq_ofDigitChars]

theorem isDigit_toDigits (n : Nat) : ∀ c ∈ Nat.toDigits 10 n, c.isDigit = true :=
  fun _ hc => Nat.isDigit_of_mem_toDigits (by decide) (by decide) hc

end Text

structure Numeral where
  whole : List Char
  fraction : List Char
  exponent : Option Int

namespace Numeral

def fractionText (fraction : List Char) : List Char :=
  if fraction = [] then [] else '.' :: fraction

def exponentText : Option Int → List Char
  | none => []
  | some exponent =>
    ['e', if exponent < 0 then '-' else '+'] ++ Nat.toDigits 10 exponent.natAbs

def chars (n : Numeral) : List Char :=
  n.whole ++ (fractionText n.fraction ++ exponentText n.exponent)

structure WellFormed (n : Numeral) : Prop where
  whole_ne : n.whole ≠ []
  whole : ∀ c ∈ n.whole, c.isDigit = true
  fraction : ∀ c ∈ n.fraction, c.isDigit = true

def value (n : Numeral) : ℚ :=
  Text.digitsValue (n.whole ++ n.fraction) * 10 ^ (n.exponent.getD 0 - n.fraction.length)

def read? (text : List Char) : Option Numeral := do
  let (whole, rest) ← Json.readDigits text
  let (fraction, rest) ← Json.readFraction rest
  let (exponent, rest) ← Json.readExponent rest
  if rest = [] then some ⟨whole, fraction, exponent⟩ else none

theorem readDigits_append {digits : List Char} (hne : digits ≠ [])
    (hdigits : ∀ c ∈ digits, c.isDigit = true) {rest : List Char}
    (hrest : ∀ c ∈ rest.head?, c.isDigit = false) :
    Json.readDigits (digits ++ rest) = some (digits, rest) := by
  obtain ⟨htake, hdrop⟩ := Text.takeWhile_dropWhile_append hdigits hrest
  simp only [Json.readDigits, htake, hdrop, if_neg hne]

theorem head?_exponentText (exponent : Option Int) :
    ∀ c ∈ (exponentText exponent).head?, c = 'e' := by
  cases exponent <;> simp [exponentText]

theorem readFraction_append {fraction : List Char}
    (hfraction : ∀ c ∈ fraction, c.isDigit = true) (exponent : Option Int) :
    Json.readFraction (fractionText fraction ++ exponentText exponent) =
      some (fraction, exponentText exponent) := by
  have hhead := head?_exponentText exponent
  by_cases hne : fraction = []
  · subst hne
    cases exponent <;> rfl
  · rw [fractionText, if_neg hne, List.cons_append, Json.readFraction]
    refine readDigits_append hne hfraction fun c hc => ?_
    rw [hhead c hc]
    rfl

theorem readExponent_exponentText (exponent : Option Int) :
    Json.readExponent (exponentText exponent) = some (exponent, []) := by
  cases exponent with
  | none => rfl
  | some exponent =>
    have hend : ∀ c ∈ ([] : List Char).head?, c.isDigit = false := by simp
    have hread := readDigits_append Nat.toDigits_ne_nil
      (Text.isDigit_toDigits exponent.natAbs) hend
    rw [List.append_nil] at hread
    have hvalue := Text.digitsValue_toDigits exponent.natAbs
    by_cases hneg : exponent < 0
    · have hexponent : -(exponent.natAbs : Int) = exponent := by omega
      simp [exponentText, hneg, Json.readExponent, Text.cutSign, hread, hvalue, hexponent,
        -Nat.cast_natAbs]
    · have hexponent : (exponent.natAbs : Int) = exponent := by omega
      simp [exponentText, hneg, Json.readExponent, Text.cutSign, hread, hvalue, hexponent,
        -Nat.cast_natAbs]

/-- The reader finds the parts of a numeral. -/
theorem read?_chars {n : Numeral} (h : n.WellFormed) : read? n.chars = some n := by
  have hrest : ∀ c ∈ (fractionText n.fraction ++ exponentText n.exponent).head?,
      c.isDigit = false := by
    intro c hc
    by_cases hne : n.fraction = []
    · rw [fractionText, if_pos hne, List.nil_append] at hc
      rw [head?_exponentText n.exponent c hc]
      rfl
    · rw [fractionText, if_neg hne, List.cons_append, List.head?_cons, Option.mem_some_iff] at hc
      rw [← hc]
      rfl
  simp only [read?, chars, readDigits_append h.whole_ne h.whole hrest,
    readFraction_append h.fraction, readExponent_exponentText, Option.bind_eq_bind,
    Option.bind_some, if_pos]

def isNumeralChar (c : Char) : Bool :=
  c.isDigit || c == '.' || c == 'e' || c == '+' || c == '-'

theorem isNumeralChar_of_isDigit {c : Char} (h : c.isDigit = true) : isNumeralChar c = true := by
  simp [isNumeralChar, h]

theorem isNumeralChar_of_mem_chars {n : Numeral} (h : n.WellFormed) :
    ∀ c ∈ n.chars, isNumeralChar c = true := by
  intro c hc
  rcases List.mem_append.mp hc with hwhole | hrest
  · exact isNumeralChar_of_isDigit (h.whole c hwhole)
  · rcases List.mem_append.mp hrest with hfraction | hexponent
    · unfold fractionText at hfraction
      split at hfraction
      · simp at hfraction
      · rcases List.mem_cons.mp hfraction with rfl | hdigit
        · rfl
        · exact isNumeralChar_of_isDigit (h.fraction c hdigit)
    · cases hsome : n.exponent with
      | none => simp [hsome, exponentText] at hexponent
      | some exponent =>
        rw [hsome, exponentText] at hexponent
        rcases List.mem_append.mp hexponent with hmark | hdigit
        · split at hmark <;> simp at hmark <;> rcases hmark with rfl | rfl <;> rfl
        · exact isNumeralChar_of_isDigit (Text.isDigit_toDigits _ c hdigit)

theorem exists_digit_of_chars {n : Numeral} (h : n.WellFormed) :
    ∃ c rest, n.chars = c :: rest ∧ c.isDigit = true := by
  obtain ⟨c, rest, hwhole⟩ := List.exists_cons_of_ne_nil h.whole_ne
  exact ⟨c, _, by rw [chars, hwhole, List.cons_append], h.whole c (by simp [hwhole])⟩

theorem eq_of_chars_eq {m n : Numeral} (hm : m.WellFormed) (hn : n.WellFormed)
    (h : m.chars = n.chars) : m = n := by
  have hread := read?_chars hn
  rw [← h, read?_chars hm] at hread
  exact Option.some.inj hread

end Numeral

namespace Double.Decimal

def numeral (d : Decimal) : Numeral :=
  let digits := Nat.toDigits 10 d.digits
  let exponent := d.exponent + digits.length - 1
  let places := (-d.exponent).toNat
  if jsonStyle.positional exponent then
    if d.exponent < 0 then
      if places < digits.length then
        ⟨digits.take (digits.length - places), digits.drop (digits.length - places), none⟩
      else ⟨['0'], List.replicate (places - digits.length) '0' ++ digits, none⟩
    else ⟨digits ++ List.replicate d.exponent.toNat '0', ['0'], none⟩
  else ⟨digits.take 1, digits.drop 1, some exponent⟩

variable (d : Decimal)

theorem chars_numeral : d.numeral.chars = d.text jsonStyle := by
  have hne := Nat.toDigits_ne_nil (b := 10) (n := d.digits)
  simp only [numeral, text]
  generalize Nat.toDigits 10 d.digits = digits at hne
  split
  · rw [positionalText]
    split
    · rw [withPoint]
      split
      · have hfraction : digits.drop (digits.length - (-d.exponent).toNat) ≠ [] := by
          rw [ne_eq, List.drop_eq_nil_iff]
          omega
        simp [Numeral.chars, Numeral.fractionText, Numeral.exponentText, hfraction]
      · simp [Numeral.chars, Numeral.fractionText, Numeral.exponentText, hne]
    · simp [Numeral.chars, Numeral.fractionText, Numeral.exponentText, jsonStyle]
  · simp [Numeral.chars, Numeral.fractionText, Numeral.exponentText, scientificText]

/-- The point stands among the digits, before them all, after them all, or after the first one. -/
theorem numeral_cases {digits : List Char} (hdigits : Nat.toDigits 10 d.digits = digits) :
    (d.exponent < 0 ∧ (-d.exponent).toNat < digits.length ∧
      d.numeral = ⟨digits.take (digits.length - (-d.exponent).toNat),
        digits.drop (digits.length - (-d.exponent).toNat), none⟩) ∨
    (d.exponent < 0 ∧ digits.length ≤ (-d.exponent).toNat ∧
      d.numeral =
        ⟨['0'], List.replicate ((-d.exponent).toNat - digits.length) '0' ++ digits, none⟩) ∨
    (0 ≤ d.exponent ∧
      d.numeral = ⟨digits ++ List.replicate d.exponent.toNat '0', ['0'], none⟩) ∨
    d.numeral = ⟨digits.take 1, digits.drop 1, some (d.exponent + digits.length - 1)⟩ := by
  simp only [numeral, hdigits]
  split
  · split
    · next hneg =>
      split
      · next hplaces => exact Or.inl ⟨hneg, hplaces, rfl⟩
      · next hplaces => exact Or.inr (Or.inl ⟨hneg, Nat.not_lt.mp hplaces, rfl⟩)
    · next hneg => exact Or.inr (Or.inr (Or.inl ⟨Int.not_lt.mp hneg, rfl⟩))
  · exact Or.inr (Or.inr (Or.inr rfl))

theorem wellFormed_numeral : d.numeral.WellFormed := by
  have hne := Nat.toDigits_ne_nil (b := 10) (n := d.digits)
  have hdigits := Text.isDigit_toDigits d.digits
  have hzero (c : Char) (count : Nat) (hc : c ∈ List.replicate count '0') : c.isDigit = true := by
    rw [List.eq_of_mem_replicate hc]
    rfl
  generalize htext : Nat.toDigits 10 d.digits = digits at hne hdigits
  rcases d.numeral_cases htext with ⟨-, hplaces, h⟩ | ⟨-, -, h⟩ | ⟨-, h⟩ | h <;> rw [h]
  · refine ⟨?_, fun c hc => hdigits c (List.mem_of_mem_take hc),
      fun c hc => hdigits c (List.mem_of_mem_drop hc)⟩
    rw [ne_eq, List.take_eq_nil_iff, not_or]
    exact ⟨by omega, hne⟩
  · refine ⟨by simp, fun c hc => hzero c 1 hc, fun c hc => ?_⟩
    rcases List.mem_append.mp hc with hc | hc
    · exact hzero c _ hc
    · exact hdigits c hc
  · refine ⟨by simp [hne], fun c hc => ?_, fun c hc => hzero c 1 hc⟩
    rcases List.mem_append.mp hc with hc | hc
    · exact hdigits c hc
    · exact hzero c _ hc
  · exact ⟨by simp [hne], fun c hc => hdigits c (List.mem_of_mem_take hc),
      fun c hc => hdigits c (List.mem_of_mem_drop hc)⟩

theorem value_numeral : d.numeral.value = d.value := by
  have hvalue := Text.digitsValue_toDigits d.digits
  have hlength := List.length_pos_of_ne_nil (Nat.toDigits_ne_nil (b := 10) (n := d.digits))
  generalize htext : Nat.toDigits 10 d.digits = digits at hvalue hlength
  rw [value]
  rcases d.numeral_cases htext with ⟨hneg, hplaces, h⟩ | ⟨hneg, hplaces, h⟩ | ⟨hpos, h⟩ | h <;>
    rw [h]
  · simp only [Numeral.value, List.take_append_drop, hvalue, List.length_drop, Option.getD_none]
    congr 2
    omega
  · have hdigits (zeros : Nat) : ['0'] ++ (List.replicate zeros '0' ++ digits) =
        List.replicate (zeros + 1) '0' ++ digits := rfl
    simp only [Numeral.value, hdigits, Text.digitsValue_zeros_append, hvalue, List.length_append,
      List.length_replicate, Option.getD_none]
    congr 2
    omega
  · have hdigits : digits ++ List.replicate d.exponent.toNat '0' ++ ['0'] =
        digits ++ List.replicate (d.exponent.toNat + 1) '0' := by
      rw [List.append_assoc, List.replicate_succ']
    have hpow : (10 : ℚ) ^ d.exponent =
        10 ^ (d.exponent.toNat + 1) * 10 ^ (0 - (1 : Nat) : Int) := by
      rw [← zpow_natCast, ← zpow_add₀ (by norm_num)]
      congr 1
      omega
    simp only [Numeral.value, hdigits, Text.digitsValue_append_zeros, hvalue,
      List.length_singleton, Option.getD_none, Nat.cast_mul, Nat.cast_pow, Nat.cast_ofNat]
    rw [hpow, mul_assoc]
  · simp only [Numeral.value, List.take_append_drop, hvalue, List.length_drop, Option.getD_some]
    congr 2
    omega

/-- The numeral of a decimal is none of a whole number. -/
theorem fraction_or_exponent : d.numeral.fraction ≠ [] ∨ d.numeral.exponent ≠ none := by
  have hne := Nat.toDigits_ne_nil (b := 10) (n := d.digits)
  generalize htext : Nat.toDigits 10 d.digits = digits at hne
  rcases d.numeral_cases htext with ⟨hneg, hplaces, h⟩ | ⟨-, -, h⟩ | ⟨-, h⟩ | h <;> rw [h]
  · left
    rw [ne_eq, List.drop_eq_nil_iff]
    omega
  · exact Or.inl (by simp [hne])
  · exact Or.inl (by simp)
  · exact Or.inr (by simp)

end Double.Decimal

namespace Double

def numeral (x : Double) : Numeral :=
  if x.isZero then ⟨['0'], ['0'], none⟩ else (x.shortest jsonStyle.tie).numeral

theorem jsonText_eq (x : Double) : x.jsonText = withSign x.negative x.numeral.chars := by
  unfold jsonText numeral
  split
  · rfl
  · rw [Decimal.chars_numeral]

theorem wellFormed_numeral (x : Double) : x.numeral.WellFormed := by
  unfold numeral
  split
  · exact ⟨by simp, by simp, by simp⟩
  · exact Decimal.wellFormed_numeral _

theorem fraction_or_exponent (x : Double) :
    x.numeral.fraction ≠ [] ∨ x.numeral.exponent ≠ none := by
  unfold numeral
  split
  · exact Or.inl (by simp)
  · exact Decimal.fraction_or_exponent _

/-- The numeral of a float tells its magnitude. -/
theorem code_eq_of_numeral_eq {x y : Double} (h : x.numeral = y.numeral) : x.code = y.code := by
  have hvalue (z : Double) (hz : z.isZero = false) :
      z.numeral.value = (z.shortest jsonStyle.tie).value := by
    rw [numeral, if_neg (by simp [hz]), Decimal.value_numeral]
  have hzero (z : Double) (hz : z.isZero = true) : z.numeral.value = 0 := by
    simp [numeral, hz, Numeral.value, Text.digitsValue]
  have hsame := congrArg Numeral.value h
  cases hx : x.isZero with
  | true =>
    cases hy : y.isZero with
    | true =>
      simp only [isZero, beq_iff_eq] at hx hy
      rw [hx, hy]
    | false =>
      rw [hzero x hx, hvalue y hy] at hsame
      exact absurd hsame (shortest_value_pos hy _).ne
  | false =>
    cases hy : y.isZero with
    | true =>
      rw [hvalue x hx, hzero y hy] at hsame
      exact absurd hsame (shortest_value_pos hx _).ne'
    | false =>
      rw [hvalue x hx, hvalue y hy] at hsame
      exact code_eq_of_shortest_value_eq hx hy hsame

end Double

namespace Number

open Double (withSign)

def isNegative : Number → Bool
  | int n => decide (n < 0)
  | double x => x.negative

def numeral : Number → Numeral
  | int n => ⟨Nat.toDigits 10 n.natAbs, [], none⟩
  | double x => x.numeral

theorem jsonText_eq (n : Number) : n.jsonText = withSign n.isNegative n.numeral.chars := by
  cases n with
  | double x => exact x.jsonText_eq
  | int n =>
    have hchars : (numeral (int n)).chars = Nat.toDigits 10 n.natAbs := by
      simp [numeral, Numeral.chars, Numeral.fractionText, Numeral.exponentText]
    rw [hchars, jsonText, Int.toString_eq_repr, Int.repr_eq_if, withSign, isNegative]
    by_cases hneg : n < 0
    · have habs : (-n).toNat = n.natAbs := by omega
      rw [if_neg (by omega), if_pos (by simpa using hneg), habs]
      refine String.toList_injective ?_
      simp [Nat.repr]
    · have habs : n.toNat = n.natAbs := by omega
      rw [if_pos (by omega), if_neg (by simpa using hneg), habs, Nat.repr]

theorem wellFormed_numeral (n : Number) : n.numeral.WellFormed := by
  cases n with
  | int n =>
    exact ⟨Nat.toDigits_ne_nil, Text.isDigit_toDigits n.natAbs, by simp [numeral]⟩
  | double x => exact x.wellFormed_numeral

theorem eq_of_numeral_eq {m n : Number} (hsign : m.isNegative = n.isNegative)
    (h : m.numeral = n.numeral) : m = n := by
  cases m with
  | int m =>
    cases n with
    | int n =>
      have hwhole := congrArg (fun numeral => Text.digitsValue numeral.whole) h
      simp only [numeral, Text.digitsValue_toDigits] at hwhole
      simp only [isNegative, decide_eq_decide] at hsign
      rw [int.injEq]
      omega
    | double y =>
      rcases y.fraction_or_exponent with hfraction | hexponent
      · exact absurd (congrArg Numeral.fraction h).symm hfraction
      · exact absurd (congrArg Numeral.exponent h).symm hexponent
  | double x =>
    cases n with
    | int n =>
      rcases x.fraction_or_exponent with hfraction | hexponent
      · exact absurd (congrArg Numeral.fraction h) hfraction
      · exact absurd (congrArg Numeral.exponent h) hexponent
    | double y =>
      have hcode := Double.code_eq_of_numeral_eq h
      obtain ⟨negative, code, hfinite⟩ := x
      obtain ⟨negative', code', hfinite'⟩ := y
      simp only [isNegative] at hsign hcode
      subst hsign hcode
      rfl

/-- Different numbers have different texts. A whole number and a float are different, and so are
the zeros with and without a sign. -/
theorem jsonText_injective {m n : Number} (h : m.jsonText = n.jsonText) : m = n := by
  rw [jsonText_eq, jsonText_eq] at h
  have hsigned := String.ofList_injective h
  have hm := m.wellFormed_numeral
  have hn := n.wellFormed_numeral
  obtain ⟨c, rest, hc, hcdigit⟩ := Numeral.exists_digit_of_chars hm
  obtain ⟨d, rest', hd, hddigit⟩ := Numeral.exists_digit_of_chars hn
  have hminus : '-'.isDigit = false := rfl
  cases hmneg : m.isNegative <;> cases hnneg : n.isNegative <;>
    simp only [hmneg, hnneg, if_true, Bool.false_eq_true, if_false, List.cons.injEq,
      true_and] at hsigned
  · exact eq_of_numeral_eq (hmneg.trans hnneg.symm) (Numeral.eq_of_chars_eq hm hn hsigned)
  · rw [hc, List.cons.injEq] at hsigned
    rw [hsigned.1, hminus] at hcdigit
    simp at hcdigit
  · rw [hd, List.cons.injEq] at hsigned
    rw [← hsigned.1, hminus] at hddigit
    simp at hddigit
  · exact eq_of_numeral_eq (hmneg.trans hnneg.symm) (Numeral.eq_of_chars_eq hm hn hsigned)

/-- The text of a number is none of a list, an object, a string or a word. -/
theorem isNumeralChar_of_mem_jsonText (n : Number) :
    ∀ c ∈ n.jsonText.toList, Numeral.isNumeralChar c = true := by
  intro c hc
  rw [jsonText_eq, withSign, String.toList_ofList] at hc
  split at hc
  · rcases List.mem_cons.mp hc with rfl | hc
    · rfl
    · exact Numeral.isNumeralChar_of_mem_chars n.wellFormed_numeral c hc
  · exact Numeral.isNumeralChar_of_mem_chars n.wellFormed_numeral c hc

theorem jsonText_ne_nil (n : Number) : n.jsonText.toList ≠ [] := by
  obtain ⟨c, rest, hc, -⟩ := Numeral.exists_digit_of_chars n.wellFormed_numeral
  rw [jsonText_eq, withSign, String.toList_ofList, hc]
  split <;> simp

end Number
end RuleTemplate
