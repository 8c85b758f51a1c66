import RuleTemplate.Proofs.Text.Opening
import RuleTemplate.Text.Utf8

/-!
The integer that a text begins with, read off its bytes. The reader looks at the first byte for
a sign, counts the bytes that are digits, and cuts the text after as many. A byte below 128 is
a whole character, so every cut is between characters; the digits are taken without a sign, so
the number that they write has an opposite.
-/
namespace RuleTemplate.Text

inductive Fault
  /-- A text is cut where no character begins or ends. -/
  | cutInside
  /-- The result of an operation does not fit into 64 bits. -/
  | overflow
deriving DecidableEq, Repr

def bytes (text : List Char) : List UInt8 := text.flatMap String.utf8EncodeChar

theorem length_bytes (text : List Char) : (bytes text).length = byteSize text := by
  induction text with
  | nil => rfl
  | cons c rest ih =>
    rw [bytes, List.flatMap_cons, List.length_append, String.length_utf8EncodeChar, byteSize, ← ih,
      bytes]

theorem byteSize_eq_zero {text : List Char} : byteSize text = 0 ↔ text = [] := by
  cases text with
  | nil => simp [byteSize]
  | cons c rest =>
    have hpos := c.utf8Size_pos
    simp only [byteSize, List.cons_ne_nil, iff_false]
    omega

def cutAt : Nat → List Char → Except Fault (List Char × List Char)
  | 0, text => .ok ([], text)
  | _ + 1, [] => .error .cutInside
  | n + 1, c :: rest =>
    if c.utf8Size ≤ n + 1 then
      (cutAt (n + 1 - c.utf8Size) rest).map fun (front, back) => (c :: front, back)
    else .error .cutInside

theorem cutAt_byteSize (front back : List Char) :
    cutAt (byteSize front) (front ++ back) = .ok (front, back) := by
  induction front with
  | nil => rw [byteSize, List.nil_append, cutAt]
  | cons c rest ih =>
    have hpos := c.utf8Size_pos
    obtain ⟨n, hn⟩ : ∃ n, byteSize (c :: rest) = n + 1 := ⟨byteSize (c :: rest) - 1, by
      simp only [byteSize]
      omega⟩
    have hle : c.utf8Size ≤ n + 1 := by
      rw [← hn, byteSize]
      omega
    have hrest : n + 1 - c.utf8Size = byteSize rest := by
      rw [← hn, byteSize]
      omega
    rw [hn, List.cons_append, cutAt, if_pos hle, hrest, ih]
    rfl

/-- A cut can be made where a character ends, and nowhere else. -/
theorem cutAt_eq_ok {n : Nat} {text front back : List Char} :
    cutAt n text = .ok (front, back) ↔ text = front ++ back ∧ (bytes front).length = n := by
  rw [length_bytes]
  constructor
  · intro h
    fun_induction cutAt n text generalizing front with
    | case1 text =>
      simp only [Except.ok.injEq, Prod.mk.injEq] at h
      obtain ⟨rfl, rfl⟩ := h
      exact ⟨rfl, rfl⟩
    | case2 => simp at h
    | case3 n c rest hle ih =>
      cases hcut : cutAt (n + 1 - c.utf8Size) rest with
      | error e => simp [hcut, Except.map] at h
      | ok parts =>
        obtain ⟨first, last⟩ := parts
        simp only [hcut, Except.map, Except.ok.injEq, Prod.mk.injEq] at h
        obtain ⟨rfl, rfl⟩ := h
        obtain ⟨rfl, hsize⟩ := ih hcut
        refine ⟨rfl, ?_⟩
        rw [byteSize]
        omega
    | case4 => simp at h
  · rintro ⟨rfl, rfl⟩
    exact cutAt_byteSize front back

/-- A character is one byte, its code, or begins with a byte that is no code below 128. -/
theorem bytes_cons (c : Char) (rest : List Char) :
    (c.toNat < 128 ∧ bytes (c :: rest) = UInt8.ofNat c.toNat :: bytes rest) ∨
      128 ≤ c.toNat ∧ ∃ b tail, bytes (c :: rest) = b :: tail ∧ 128 ≤ b.toNat := by
  have hbytes : bytes (c :: rest) = String.utf8EncodeChar c ++ bytes rest := by
    rw [bytes, List.flatMap_cons, bytes]
  have hcode : c.val.toNat = c.toNat := rfl
  have hhigh (n : Nat) (hlow : 128 ≤ n) (hlt : n < 256) : 128 ≤ (UInt8.ofNat n).toNat := by
    rw [UInt8.toNat_ofNat']
    omega
  rw [hbytes, String.utf8EncodeChar, hcode]
  by_cases hone : c.toNat ≤ 0x7f
  · rw [if_pos hone]
    exact Or.inl ⟨by omega, rfl⟩
  · rw [if_neg hone]
    refine Or.inr ⟨by omega, ?_⟩
    split
    · exact ⟨_, _, rfl, hhigh _ (by omega) (by omega)⟩
    · split
      · exact ⟨_, _, rfl, hhigh _ (by omega) (by omega)⟩
      · exact ⟨_, _, rfl, hhigh _ (by omega) (by omega)⟩

def isDigitByte (b : UInt8) : Bool := 48 ≤ b && b ≤ 57

theorem isDigitByte_iff {b : UInt8} : isDigitByte b = true ↔ 48 ≤ b.toNat ∧ b.toNat ≤ 57 := by
  simp [isDigitByte, UInt8.le_iff_toNat_le]

theorem utf8Size_of_isDigit {c : Char} (h : c.isDigit = true) : c.utf8Size = 1 := by
  have hcode := isDigit_iff.mp h
  rw [Char.utf8Size_eq_one_iff, UInt32.le_iff_toNat_le]
  exact Nat.le_trans hcode.2 (by decide)

/-- The bytes that are digits are the characters that are digits. -/
theorem length_takeWhile_bytes (text : List Char) :
    ((bytes text).takeWhile isDigitByte).length = byteSize (text.takeWhile Char.isDigit) := by
  induction text with
  | nil => rfl
  | cons c rest ih =>
    rcases bytes_cons c rest with ⟨hlow, hbytes⟩ | ⟨hhigh, b, tail, hbytes, hb⟩
    · have hcode : (UInt8.ofNat c.toNat).toNat = c.toNat :=
        UInt8.toNat_ofNat_of_lt' (Nat.lt_trans hlow (by decide))
      by_cases hdigit : c.isDigit = true
      · have hbyte : isDigitByte (UInt8.ofNat c.toNat) = true := by
          rw [isDigitByte_iff, hcode]
          exact isDigit_iff.mp hdigit
        rw [hbytes, List.takeWhile_cons_of_pos hbyte, List.takeWhile_cons_of_pos hdigit,
          List.length_cons, ih, byteSize, utf8Size_of_isDigit hdigit, Nat.add_comm]
      · have hbyte : ¬isDigitByte (UInt8.ofNat c.toNat) = true := by
          rw [isDigitByte_iff, hcode]
          exact fun h => hdigit (isDigit_iff.mpr h)
        rw [hbytes, List.takeWhile_cons_of_neg hbyte, List.takeWhile_cons_of_neg hdigit]
        rfl
    -- No byte of a character outside of ASCII is the code of a digit.
    · have hbyte : ¬isDigitByte b = true := by
        rw [isDigitByte_iff]
        omega
      have hdigit : ¬c.isDigit = true := by
        rw [isDigit_iff]
        omega
      rw [hbytes, List.takeWhile_cons_of_neg hbyte, List.takeWhile_cons_of_neg hdigit]
      rfl

def cutSignByte (text : List Char) : Except Fault (Bool × List Char) :=
  match (bytes text).head? with
  | some 45 => (cutAt 1 text).map fun parts => (true, parts.2)
  | some 43 => (cutAt 1 text).map fun parts => (false, parts.2)
  | _ => .ok (false, text)

/-- A first byte that is the code of a character below 128 is that character. -/
theorem eq_cons_of_head?_bytes {text : List Char} {c : Char} (hc : c.toNat < 128)
    (h : (bytes text).head? = some (UInt8.ofNat c.toNat)) : ∃ rest, text = c :: rest := by
  cases text with
  | nil => simp [bytes] at h
  | cons d rest =>
    have hcode (n : Nat) (hn : n < 128) : (UInt8.ofNat n).toNat = n :=
      UInt8.toNat_ofNat_of_lt' (Nat.lt_trans hn (by decide))
    refine ⟨rest, ?_⟩
    rcases bytes_cons d rest with ⟨hd, hbytes⟩ | ⟨-, b, tail, hbytes, hb⟩
    · rw [hbytes, List.head?_cons, Option.some.injEq] at h
      have hsame : d.toNat = c.toNat := by
        rw [← hcode _ hd, h, hcode _ hc]
      rw [Char.toNat_inj.mp hsame]
    · rw [hbytes, List.head?_cons, Option.some.injEq] at h
      rw [h, hcode _ hc] at hb
      omega

/-- A byte that is a sign is a character that is one, so it can be cut off. -/
theorem cutSignByte_eq (text : List Char) : cutSignByte text = .ok (cutSign text) := by
  unfold cutSignByte
  split
  · next hminus =>
    obtain ⟨rest, rfl⟩ := eq_cons_of_head?_bytes (c := '-') (by decide) hminus
    have hcut : cutAt 1 ('-' :: rest) = .ok (['-'], rest) := cutAt_byteSize ['-'] rest
    rw [hcut]
    rfl
  · next hplus =>
    obtain ⟨rest, rfl⟩ := eq_cons_of_head?_bytes (c := '+') (by decide) hplus
    have hcut : cutAt 1 ('+' :: rest) = .ok (['+'], rest) := cutAt_byteSize ['+'] rest
    rw [hcut]
    rfl
  · next hminus hplus =>
    unfold cutSign
    split
    · exact absurd rfl hminus
    · exact absurd rfl hplus
    · rfl

def word? (n : Int) : Option Int64 :=
  if h : Int64.minValue.toInt ≤ n ∧ n ≤ Int64.maxValue.toInt then
    some (Int64.ofIntLE n h.1 h.2)
  else none

theorem word?_toInt (w : Int64) : word? w.toInt = some w := by
  rw [word?, dif_pos ⟨w.minValue_le_toInt, w.toInt_le⟩]
  exact congrArg some (Int64.toInt.inj Int64.toInt_ofIntLE)

/-- A number fits as soon as its magnitude is one that is read, whatever its sign. -/
theorem exists_word {n : Int} (h : n.natAbs ≤ maxMagnitude) :
    ∃ w, word? n = some w ∧ w.toInt = n := by
  have hmin : Int64.minValue.toInt = -(maxMagnitude : Int) - 1 := by decide
  have hmax : Int64.maxValue.toInt = maxMagnitude := by decide
  have hfits : Int64.minValue.toInt ≤ n ∧ n ≤ Int64.maxValue.toInt := by omega
  exact ⟨_, dif_pos hfits, Int64.toInt_ofIntLE⟩

theorem word?_of_lt {n : Nat} (h : maxMagnitude < n) : word? n = none := by
  have hmax : Int64.maxValue.toInt = maxMagnitude := by decide
  exact dif_neg (by omega)

def pushDigit (negative : Bool) (w : Int64) (c : Char) : Option Int64 :=
  if c.isDigit then
    let digit : Int := c.toNat - '0'.toNat
    (word? (10 * w.toInt)).bind fun shifted =>
      word? (if negative then shifted.toInt - digit else shifted.toInt + digit)
  else none

def parseWord? (text : List Char) : Option Int64 :=
  let (negative, digits) := cutSign text
  if digits = [] then none else digits.foldlM (pushDigit negative) 0

theorem le_ofDigitChars (digits : List Char) (n : Nat) : n ≤ Nat.ofDigitChars 10 digits n := by
  have hpow : 0 < 10 ^ digits.length := Nat.pow_pos (by decide)
  calc n ≤ 10 ^ digits.length * n := Nat.le_mul_of_pos_left n hpow
    _ ≤ 10 ^ digits.length * n + Nat.ofDigitChars 10 digits 0 := Nat.le_add_right _ _
    _ = Nat.ofDigitChars 10 digits n := Nat.ofDigitChars_eq_ofDigitChars_zero.symm

theorem pushDigit_of_isDigit {c : Char} (hc : c.isDigit = true) {w : Int64} {n : Nat}
    (hw : w.toInt = n) :
    pushDigit false w c = word? ((10 * n + (c.toNat - '0'.toNat) : Nat) : Int) := by
  have hzero : '0'.toNat = 48 := rfl
  have hcode := isDigit_iff.mp hc
  have hten : 10 * w.toInt = ((10 * n : Nat) : Int) := by rw [hw, Nat.cast_mul]; rfl
  rw [pushDigit, if_pos hc, hten]
  by_cases hshift : 10 * n ≤ maxMagnitude
  · obtain ⟨shifted, hshifted, hvalue⟩ := exists_word (n := ((10 * n : Nat) : Int)) hshift
    rw [hshifted, Option.bind_some, if_neg Bool.false_ne_true, hvalue]
    congr 1
    omega
  · rw [word?_of_lt (by omega), word?_of_lt (by omega), Option.bind_none]

/-- Digits pushed one after the other make the number that they write after the first one. If that
is too great, then one of the steps has failed. -/
theorem foldlM_pushDigit {digits : List Char} (hdigits : ∀ c ∈ digits, c.isDigit = true)
    {w : Int64} {n : Nat} (hw : w.toInt = n) :
    digits.foldlM (pushDigit false) w = word? (Nat.ofDigitChars 10 digits n) := by
  induction digits generalizing w n with
  | nil =>
    rw [List.foldlM_nil, Nat.ofDigitChars_nil, ← hw, word?_toInt]
    rfl
  | cons c rest ih =>
    have hrest := fun d hd => hdigits d (List.mem_cons_of_mem _ hd)
    have hle := le_ofDigitChars rest (10 * n + (c.toNat - '0'.toNat))
    rw [List.foldlM_cons, Nat.ofDigitChars_cons,
      pushDigit_of_isDigit (hdigits c List.mem_cons_self) hw]
    by_cases hfits : 10 * n + (c.toNat - '0'.toNat) ≤ maxMagnitude
    · obtain ⟨next, hnext, hvalue⟩ := exists_word (n := Nat.cast _) hfits
      rw [hnext, ← ih hrest hvalue]
      rfl
    · rw [word?_of_lt (by omega), word?_of_lt (by omega)]
      rfl

theorem parseWord?_of_isDigit {digits : List Char} (hne : digits ≠ [])
    (hdigits : ∀ c ∈ digits, c.isDigit = true) :
    parseWord? digits = word? (digitsValue digits) := by
  obtain ⟨c, rest, rfl⟩ := List.exists_cons_of_ne_nil hne
  have hzero : (0 : Int64).toInt = ((0 : Nat) : Int) := by decide
  rw [parseWord?, cutSign_of_isDigit (hdigits c List.mem_cons_self), digitsValue_eq_ofDigitChars,
    ← foldlM_pushDigit hdigits hzero]
  exact if_neg hne

def opposite (w : Int64) : Except Fault Int64 :=
  match word? (-w.toInt) with
  | some n => .ok n
  | none => .error .overflow

theorem exists_opposite {w : Int64} (h : w.toInt.natAbs ≤ maxMagnitude) :
    ∃ n, opposite w = .ok n ∧ n.toInt = -w.toInt := by
  have hneg : (-w.toInt).natAbs ≤ maxMagnitude := by rwa [Int.natAbs_neg]
  obtain ⟨n, hn, hvalue⟩ := exists_word hneg
  exact ⟨n, by rw [opposite, hn], hvalue⟩

def applySign (negative : Bool) : Option Int64 → Except Fault (Option Int64)
  | none => .ok none
  | some w => if negative then (opposite w).map some else .ok (some w)

/-- The opposite of a magnitude that fits does, too. -/
theorem applySign_word? (negative : Bool) (n : Nat) :
    ∃ result, applySign negative (word? n) = .ok result ∧
      result.map Int64.toInt =
        if n ≤ maxMagnitude then some (if negative then -(n : Int) else n) else none := by
  by_cases hle : n ≤ maxMagnitude
  · obtain ⟨w, hw, hvalue⟩ := exists_word (n := (n : Int)) hle
    rw [hw, if_pos hle, applySign]
    cases negative with
    | false => exact ⟨some w, rfl, congrArg some hvalue⟩
    | true =>
      obtain ⟨m, hm, hopposite⟩ := exists_opposite (w := w) (by rwa [hvalue])
      rw [hvalue] at hopposite
      exact ⟨some m, by rw [hm]; rfl, congrArg some hopposite⟩
  · rw [word?_of_lt (Nat.lt_of_not_le hle), if_neg hle, applySign]
    exact ⟨none, rfl, rfl⟩

def readDigits (negative : Bool) (text : List Char) : Except Fault (Option Int64) :=
  let count := ((bytes text).takeWhile isDigitByte).length
  if count = 0 then .ok none
  else (cutAt count text).bind fun parts => applySign negative (parseWord? parts.1)

def readWord (text : List Char) : Except Fault (Option Int64) :=
  (cutSignByte (text.dropWhile isBlank)).bind fun parts => readDigits parts.1 parts.2

theorem readDigits_eq (negative : Bool) (text : List Char) :
    ∃ result, readDigits negative text = .ok result ∧
      result.map Int64.toInt = signedDigits negative text := by
  have hdigits : ∀ c ∈ text.takeWhile Char.isDigit, c.isDigit = true :=
    fun c hc => List.mem_takeWhile_imp hc
  have hcut : cutAt (byteSize (text.takeWhile Char.isDigit)) text =
      .ok (text.takeWhile Char.isDigit, text.dropWhile Char.isDigit) :=
    cutAt_eq_ok.mpr ⟨List.takeWhile_append_dropWhile.symm, length_bytes _⟩
  simp only [readDigits, signedDigits, length_takeWhile_bytes, hcut]
  by_cases hnone : text.takeWhile Char.isDigit = []
  · exact ⟨none, by simp [hnone, byteSize], by simp [hnone]⟩
  · have hcount : byteSize (text.takeWhile Char.isDigit) ≠ 0 := mt byteSize_eq_zero.mp hnone
    obtain ⟨result, hresult, hvalue⟩ :=
      applySign_word? negative (digitsValue (text.takeWhile Char.isDigit))
    refine ⟨result, ?_, hvalue.trans ?_⟩
    · rw [if_neg hcount, ← hresult, ← parseWord?_of_isDigit hnone hdigits]
      rfl
    · simp only [hnone, false_or, ← Nat.not_le, ite_not]

/-- Reading meets no fault, and gives the leading integer. -/
theorem readWord_eq_leadingInt (text : List Char) :
    ∃ result, readWord text = .ok result ∧ result.map Int64.toInt = leadingInt text := by
  have hread : readWord text = readDigits (cutSign (text.dropWhile isBlank)).1
      (cutSign (text.dropWhile isBlank)).2 := by
    rw [readWord, cutSignByte_eq]
    rfl
  rw [hread]
  exact readDigits_eq _ _

end RuleTemplate.Text
