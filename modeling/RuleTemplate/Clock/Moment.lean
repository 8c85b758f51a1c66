import RuleTemplate.Text.Integer

/-!
Moments: a day of the calendar and a time of day. The calendar is the Gregorian one,
extended to all years. A second of 60 may stand at the end of any minute.
-/
namespace RuleTemplate

def isLeapYear (year : Int) : Bool := year % 4 == 0 && (year % 100 != 0 || year % 400 == 0)

def daysInMonth (year : Int) (month : Nat) : Nat :=
  if month = 2 then if isLeapYear year then 29 else 28
  else if month = 4 ∨ month = 6 ∨ month = 9 ∨ month = 11 then 30
  else 31

inductive Weekday
  | monday | tuesday | wednesday | thursday | friday | saturday | sunday
deriving DecidableEq, Repr

namespace Weekday

def name : Weekday → String
  | monday => "monday"
  | tuesday => "tuesday"
  | wednesday => "wednesday"
  | thursday => "thursday"
  | friday => "friday"
  | saturday => "saturday"
  | sunday => "sunday"

def isWeekend : Weekday → Bool
  | saturday | sunday => true
  | _ => false

def ofOffset (days : Nat) : Weekday :=
  match days % 7 with
  | 0 => monday
  | 1 => tuesday
  | 2 => wednesday
  | 3 => thursday
  | 4 => friday
  | 5 => saturday
  | _ => sunday

end Weekday

structure Moment where
  year : Int
  month : Nat
  day : Nat
  hour : Nat
  minute : Nat
  second : Nat
deriving DecidableEq, Repr

namespace Moment

def firstYear : Int := -262143

def lastYear : Int := 262142

def isValid (m : Moment) : Bool :=
  decide (firstYear ≤ m.year) && decide (m.year ≤ lastYear) &&
    decide (1 ≤ m.month) && decide (m.month ≤ 12) &&
    decide (1 ≤ m.day) && decide (m.day ≤ daysInMonth m.year m.month) &&
    decide (m.hour ≤ 23) && decide (m.minute ≤ 59) && decide (m.second ≤ 60)

/-- Days since the first of March of the year 0, a Wednesday. Years are taken to begin in
March, so that a leap day is the last of its year. -/
def dayNumber (m : Moment) : Int :=
  let year := if m.month ≤ 2 then m.year - 1 else m.year
  let month := (m.month + 9) % 12
  365 * year + year / 4 - year / 100 + year / 400 + ((153 * month + 2) / 5 : Nat) + m.day - 1

def weekday (m : Moment) : Weekday := .ofOffset ((m.dayNumber + 2) % 7).toNat

def readNumber (width : Nat) (text : List Char) : Option (Nat × List Char) :=
  let start := text.dropWhile Text.isBlank
  let digits := (start.take width).takeWhile Char.isDigit
  if digits = [] then none
  else some (Text.digitsValue digits, start.drop digits.length)

def readYear (text : List Char) : Option (Int × List Char) :=
  match text.dropWhile Text.isBlank with
  | '-' :: rest => (unlimited rest).map fun (n, after) => (-(n : Int), after)
  | '+' :: rest => (unlimited rest).map fun (n, after) => ((n : Int), after)
  | start => (readNumber 4 start).map fun (n, after) => ((n : Int), after)
where
  /-- Digits right after a sign. -/
  unlimited (text : List Char) : Option (Nat × List Char) :=
    let digits := text.takeWhile Char.isDigit
    if digits = [] then none
    else some (Text.digitsValue digits, text.drop digits.length)

def readPart (separator : Char) : List Char → Option (Nat × List Char)
  | c :: rest => if c = separator then readNumber 2 rest else none
  | [] => none

def parse? (text : String) : Option Moment := do
  let (year, rest) ← readYear text.toList
  let (month, rest) ← readPart '-' rest
  let (day, rest) ← readPart '-' rest
  let (hour, rest) ← readPart 'T' rest
  let (minute, rest) ← readPart ':' rest
  let (second, rest) ← readPart ':' rest
  let moment : Moment := ⟨year, month, day, hour, minute, second⟩
  if rest = [] ∧ moment.isValid then some moment else none

end Moment
end RuleTemplate
