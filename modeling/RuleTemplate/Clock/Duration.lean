/-!
The text of a duration: a decimal number in the largest unit of which it holds at least
one, without zeros at the end of its fraction.
-/
namespace RuleTemplate.Clock

def fractionDigits (places fraction : Nat) : List Char :=
  let digits := Nat.toDigits 10 fraction
  let padded := List.replicate (places - digits.length) '0' ++ digits
  (padded.reverse.dropWhile (· == '0')).reverse

def inUnit (places : Nat) (unit : String) (nanoseconds : Nat) : String :=
  let fraction := fractionDigits places (nanoseconds % Nat.pow 10 places)
  let point := if fraction = [] then "" else "."
  toString (nanoseconds / Nat.pow 10 places) ++ point ++ String.ofList fraction ++ unit

def durationText (nanoseconds : Nat) : String :=
  if Nat.pow 10 9 ≤ nanoseconds then inUnit 9 "s" nanoseconds
  else if Nat.pow 10 6 ≤ nanoseconds then inUnit 6 "ms" nanoseconds
  else if Nat.pow 10 3 ≤ nanoseconds then inUnit 3 "µs" nanoseconds
  else inUnit 0 "ns" nanoseconds

end RuleTemplate.Clock
