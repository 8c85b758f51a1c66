import RuleTemplate.Double.Rounding

/-!
Decimal scaling: multiplying a 64-bit float by a power of ten. The power is a float too,
so the power and the result are each rounded; a product past the largest float has no
result, and a quotient may become zero.
-/
namespace RuleTemplate.Double

def ratio (x : Double) : Nat × Nat :=
  if 0 ≤ x.exponent then (x.significand * Nat.pow 2 x.exponent.toNat, 1)
  else (x.significand, Nat.pow 2 (-x.exponent).toNat)

def ofQuotient (negative : Bool) (num den : Nat) : Option Double :=
  if num = 0 then some (zero negative) else ofRatio negative num den

def ofNat (n : Nat) : Option Double := ofQuotient false n 1

def times (x y : Double) : Option Double :=
  ofQuotient (x.negative != y.negative) (x.ratio.1 * y.ratio.1) (x.ratio.2 * y.ratio.2)

def dividedBy (x y : Double) : Option Double :=
  ofQuotient (x.negative != y.negative) (x.ratio.1 * y.ratio.2) (x.ratio.2 * y.ratio.1)

def greatestPower : Nat := 308

def tenPower (n : Nat) : Option Double := ofNat (Nat.pow 10 n)

/-- The float divided by 10 to a power; a power past the greatest one is taken in steps. -/
def downBy (x : Double) (n : Nat) : Option Double :=
  if x.isZero then some x
  else if n ≤ greatestPower then do x.dividedBy (← tenPower n)
  else do (← x.dividedBy (← tenPower greatestPower)).downBy (n - greatestPower)
termination_by n
decreasing_by
  rename_i h
  have hpos : 0 < greatestPower := by decide
  omega

def upBy (x : Double) (n : Nat) : Option Double :=
  if x.isZero then some x
  else if n ≤ greatestPower then do x.times (← tenPower n)
  else none

def scaledBy (x : Double) : Int → Option Double
  | .ofNat n => x.upBy n
  | .negSucc n => x.downBy (n + 1)

end RuleTemplate.Double
