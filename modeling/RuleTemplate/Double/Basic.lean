/-!
Finite binary floating-point numbers of 64 bits, kept exactly: a sign and the other 63
bits as one number. Every question about a value is answered in whole-number arithmetic.
-/
namespace RuleTemplate

/-- A finite 64-bit float: the sign, and the exponent field over the 52 fraction bits. -/
structure Double where
  negative : Bool
  code : Nat
  finite : code < 0x7FF * Nat.pow 2 52
deriving DecidableEq, Repr

namespace Double

def zero (negative : Bool) : Double := ⟨negative, 0, by decide⟩

def ofCode (negative : Bool) (code : Nat) : Option Double :=
  if h : code < 0x7FF * Nat.pow 2 52 then some ⟨negative, code, h⟩ else none

def ofBits (bits : Nat) : Option Double :=
  ofCode (bits / Nat.pow 2 63 % 2 == 1) (bits % Nat.pow 2 63)

/-- The magnitude is `significand * 2 ^ exponent`. -/
def significand (x : Double) : Nat :=
  if x.code < Nat.pow 2 52 then x.code else Nat.pow 2 52 + x.code % Nat.pow 2 52

def exponent (x : Double) : Int := (max 1 (x.code / Nat.pow 2 52) : Nat) - 1075

def isZero (x : Double) : Bool := x.code == 0

def equal (x y : Double) : Bool :=
  x.code == y.code && (x.negative == y.negative || x.code == 0)

def truncated (x : Double) : Nat :=
  if 0 ≤ x.exponent then x.significand * Nat.pow 2 x.exponent.toNat
  else x.significand / Nat.pow 2 (-x.exponent).toNat

def isInteger (x : Double) : Bool :=
  decide (0 ≤ x.exponent) || x.significand % Nat.pow 2 (-x.exponent).toNat == 0

theorem equal_refl (x : Double) : x.equal x = true := by simp [equal]

theorem equal_symm {x y : Double} (h : x.equal y = true) : y.equal x = true := by
  simp only [equal, Bool.and_eq_true, Bool.or_eq_true, beq_iff_eq] at h ⊢
  obtain ⟨hcode, hsign | hzero⟩ := h
  · exact ⟨hcode.symm, Or.inl hsign.symm⟩
  · exact ⟨hcode.symm, Or.inr (hcode ▸ hzero)⟩

theorem equal_trans {x y z : Double} (hxy : x.equal y = true) (hyz : y.equal z = true) :
    x.equal z = true := by
  simp only [equal, Bool.and_eq_true, Bool.or_eq_true, beq_iff_eq] at hxy hyz ⊢
  obtain ⟨hcode, hsign⟩ := hxy
  obtain ⟨hcode', hsign'⟩ := hyz
  refine ⟨hcode.trans hcode', ?_⟩
  rcases hsign with hsign | hzero
  · rcases hsign' with hsign' | hzero
    · exact Or.inl (hsign.trans hsign')
    · exact Or.inr (hcode ▸ hzero)
  · exact Or.inr hzero

theorem isZero_eq_of_equal {x y : Double} (h : x.equal y = true) : x.isZero = y.isZero := by
  simp only [equal, Bool.and_eq_true, beq_iff_eq] at h
  simp [isZero, h.1]

end Double
end RuleTemplate
