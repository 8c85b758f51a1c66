import RuleTemplate.Double.Basic

/-!
The shortest decimal that rounds back to a 64-bit float. The reals that round to a float
form an interval; the decimal is a point of the coarsest grid of multiples of a power of
ten that has a point there, the nearest one, and the tie rule decides between two.
-/
namespace RuleTemplate.Double

inductive Tie
  | even
  | up
deriving DecidableEq, Repr

structure Decimal where
  digits : Nat
  exponent : Int
deriving DecidableEq, Repr

/-- The interval that rounds to a float, in quarters of its last bit, of weight
`2 ^ exponent`. The ends belong to it where `closed`. -/
structure Interval where
  low : Nat
  middle : Nat
  high : Nat
  exponent : Int
  closed : Bool
deriving DecidableEq, Repr

/-- The neighbour below a power of two is only half as far as the one above. -/
def interval (x : Double) : Interval where
  low := 4 * x.significand - if x.significand = Nat.pow 2 52 ∧ Nat.pow 2 53 ≤ x.code then 1 else 2
  middle := 4 * x.significand
  high := 4 * x.significand + 2
  exponent := x.exponent - 2
  closed := x.significand % 2 == 0

/-- `scale g e` is a pair that stands in the ratio of `10 ^ g` to `2 ^ e`. -/
def scale (g e : Int) : Nat × Nat :=
  (Nat.pow 10 g.toNat * Nat.pow 2 (-e).toNat, Nat.pow 10 (-g).toNat * Nat.pow 2 e.toNat)

def Interval.contains (i : Interval) (unit point : Nat) : Bool :=
  if i.closed then decide (i.low * unit ≤ point) && decide (point ≤ i.high * unit)
  else decide (i.low * unit < point) && decide (point < i.high * unit)

def Interval.gridPoint (i : Interval) (tie : Tie) (g : Int) : Option Nat :=
  let (step, unit) := scale g i.exponent
  let below := i.middle * unit / step
  match i.contains unit (below * step), i.contains unit ((below + 1) * step) with
  | false, false => none
  | true, false => some below
  | false, true => some (below + 1)
  | true, true =>
    let twice := 2 * (i.middle * unit)
    let between := (2 * below + 1) * step
    if twice < between then some below
    else if between < twice then some (below + 1)
    else match tie with
      | .up => some (below + 1)
      | .even => some (below + below % 2)

/-- The grid point of the coarsest of the grids from `10 ^ g` down that has one; the
finest of `steps + 1` grids is taken to hold the middle itself. -/
def Interval.coarsest (i : Interval) (tie : Tie) : Nat → Int → Decimal
  | 0, g =>
    let (step, unit) := scale g i.exponent
    ⟨i.middle * unit / step, g⟩
  | steps + 1, g =>
    match i.gridPoint tie g with
    | some digits => ⟨digits, g⟩
    | none => i.coarsest tie steps (g - 1)

def topGrid (x : Double) : Int := (x.exponent + x.significand.log2 + 2) * 30103 / 100000 + 1

/-- The shortest decimal for a float other than zero. The grid of `10 ^ exponent` holds
every float with a negative exponent, and that of the units every other. -/
def shortest (tie : Tie) (x : Double) : Decimal :=
  x.interval.coarsest tie (topGrid x - min 0 x.exponent).toNat (topGrid x)

end RuleTemplate.Double
