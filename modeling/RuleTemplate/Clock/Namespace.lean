import RuleTemplate.Clock.Moment
import RuleTemplate.Value.Basic

/-!
The namespace of a moment: its time fields, and a probe that gives them as a record to
which the call's arguments are added.
-/
namespace RuleTemplate.Clock

def namespaceName : String := "@date"

def probeName : String := "getTime"

def partOfDay (hour : Nat) : String :=
  if hour < 5 then "night"
  else if hour < 12 then "morning"
  else if hour < 17 then "afternoon"
  else if hour < 22 then "evening"
  else "night"

def whole (n : Nat) : Value := .number (.int n)

def timeFields (m : Moment) : Record := [
  ("hours", whole m.hour),
  ("minutes", whole m.minute),
  ("meridiem", .string (if m.hour < 12 then "am" else "pm")),
  ("weekday", .string m.weekday.name),
  ("weekend", .bool m.weekday.isWeekend),
  ("part", .string (partOfDay m.hour))]

def getTime (m : Moment) (args : Record) : Value :=
  .object (Entries.insertAll (timeFields m) args)

def dateNamespace (m : Moment) (probe : Probe) : Record :=
  Entries.insert probeName (.probe probe) (timeFields m)

end RuleTemplate.Clock
