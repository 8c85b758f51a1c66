import RuleTemplate.Double.Shortest

/-!
Texts of floats. `jsonText` is the form JSON documents hold; `displayText` is the form that
criteria compare, which never has an exponent part.
-/
namespace RuleTemplate.Double

/-- How a decimal is written. A scientific exponent from `first` up to, but not including,
`last` gives positional digits. -/
structure NumeralStyle where
  tie : Tie
  positional : Int → Bool
  pointZero : Bool

/-- Shortest digits, ties to the even one; positional from 0.00001 up to below 10^16, then
always with a fraction. -/
def jsonStyle : NumeralStyle where
  tie := .even
  positional exponent := decide (-5 ≤ exponent) && decide (exponent < 16)
  pointZero := true

/-- Shortest digits, ties upwards; always positional, and without a fraction of zero. -/
def displayStyle : NumeralStyle where
  tie := .up
  positional _ := true
  pointZero := false

def withPoint (digits : List Char) (places : Nat) : List Char :=
  if places < digits.length then
    digits.take (digits.length - places) ++ '.' :: digits.drop (digits.length - places)
  else '0' :: '.' :: (List.replicate (places - digits.length) '0' ++ digits)

def positionalText (pointZero : Bool) (digits : List Char) (exponent : Int) : List Char :=
  if exponent < 0 then withPoint digits (-exponent).toNat
  else digits ++ List.replicate exponent.toNat '0' ++ if pointZero then ['.', '0'] else []

def scientificText (digits : List Char) (exponent : Int) : List Char :=
  let fraction := digits.drop 1
  digits.take 1 ++ (if fraction = [] then [] else '.' :: fraction) ++
    ['e', if exponent < 0 then '-' else '+'] ++ Nat.toDigits 10 exponent.natAbs

def Decimal.text (style : NumeralStyle) (d : Decimal) : List Char :=
  let digits := Nat.toDigits 10 d.digits
  let exponent := d.exponent + digits.length - 1
  if style.positional exponent then positionalText style.pointZero digits d.exponent
  else scientificText digits exponent

def withSign (negative : Bool) (text : List Char) : String :=
  String.ofList (if negative then '-' :: text else text)

def jsonText (x : Double) : String :=
  withSign x.negative
    (if x.isZero then ['0', '.', '0'] else (x.shortest jsonStyle.tie).text jsonStyle)

def wholeLimit : Nat := Nat.pow 10 21

/-- The float as criteria compare it: all digits of a whole number below `wholeLimit`,
the shortest digits of any other. -/
def displayText (x : Double) : String :=
  withSign x.negative
    (if x.isInteger && decide (x.truncated < wholeLimit) then Nat.toDigits 10 x.truncated
    else (x.shortest displayStyle.tie).text displayStyle)

end RuleTemplate.Double
