import RuleTemplate.Double.Basic

/-!
Rounding a positive ratio to the nearest 64-bit float. Half-way cases go to the even
significand; what rounds past the largest float has no result.
-/
namespace RuleTemplate.Double

def roundHalfEven (num den : Nat) : Nat :=
  let floor := num / den
  let twice := 2 * (num % den)
  if den < twice ∨ (twice = den ∧ floor % 2 = 1) then floor + 1 else floor

def scaledQuotient (num den : Nat) (q : Int) : Nat :=
  if 0 ≤ q then roundHalfEven num (den * Nat.pow 2 q.toNat)
  else roundHalfEven (num * Nat.pow 2 (-q).toNat) den

def reachesPower (num den : Nat) (k : Int) : Bool :=
  if 0 ≤ k then decide (den * Nat.pow 2 k.toNat ≤ num)
  else decide (den ≤ num * Nat.pow 2 (-k).toNat)

def lastBit (num den : Nat) : Int :=
  let k : Int := (num.log2 : Int) - den.log2
  max (-1074) (if reachesPower num den k then k - 52 else k - 53)

def ofRatio (negative : Bool) (num den : Nat) : Option Double :=
  let q := lastBit num den
  ofCode negative ((q + 1074).toNat * Nat.pow 2 52 + scaledQuotient num den q)

end RuleTemplate.Double
