import RuleTemplate.Double.Numeral
import RuleTemplate.Double.Rounding

/-!
Numbers: whole numbers, kept exactly, and finite 64-bit floats. The two kinds are never
equal to each other, so `1` and `1.0` differ.
-/
namespace RuleTemplate

inductive Number
  | int (n : Int)
  | double (x : Double)
deriving DecidableEq, Repr

namespace Number

def minInt : Int := -(Nat.pow 2 63)

def maxInt : Int := Nat.pow 2 64 - 1

def InRange : Number → Prop
  | int n => minInt ≤ n ∧ n ≤ maxInt
  | double _ => True

def equal : Number → Number → Bool
  | int m, int n => m == n
  | double x, double y => x.equal y
  | _, _ => false

def isZero : Number → Bool
  | int n => n == 0
  | double x => x.isZero

def jsonText : Number → String
  | int n => toString n
  | double x => x.jsonText

def display : Number → String
  | int n => toString n
  | double x => x.displayText

theorem equal_refl (n : Number) : n.equal n = true := by
  cases n with
  | int n => simp [equal]
  | double x => exact x.equal_refl

theorem equal_symm {m n : Number} (h : m.equal n = true) : n.equal m = true := by
  cases m <;> cases n <;> simp only [equal, beq_iff_eq, Bool.false_eq_true] at h ⊢
  · exact h.symm
  · exact Double.equal_symm h

theorem equal_trans {m n k : Number} (hmn : m.equal n = true) (hnk : n.equal k = true) :
    m.equal k = true := by
  cases m <;> cases n <;> cases k <;>
    simp only [equal, beq_iff_eq, Bool.false_eq_true] at hmn hnk ⊢
  · exact hmn.trans hnk
  · exact Double.equal_trans hmn hnk

theorem isZero_eq_of_equal {m n : Number} (h : m.equal n = true) : m.isZero = n.isZero := by
  cases m <;> cases n <;> simp only [equal, beq_iff_eq, Bool.false_eq_true] at h
  · rw [h]
  · exact Double.isZero_eq_of_equal h

end Number
end RuleTemplate
