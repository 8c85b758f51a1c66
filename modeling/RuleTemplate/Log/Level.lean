import RuleTemplate.Entries
import RuleTemplate.Text.Integer

/-!
Log levels, and levels of detail: how many log levels, the most important first, are
shown.
-/
namespace RuleTemplate.Log

inductive Level
  | error
  | warn
  | info
  | debug
  | trace
deriving DecidableEq, Repr

namespace Level

def name : Level → String
  | error => "ERROR"
  | warn => "WARN"
  | info => "INFO"
  | debug => "DEBUG"
  | trace => "TRACE"

def detail : Level → Nat
  | error => 1
  | warn => 2
  | info => 3
  | debug => 4
  | trace => 5

end Level

def fullDetail : Nat := Level.trace.detail

def detailNames : Entries Nat :=
  [("off", 0), ("error", 1), ("warn", 2), ("info", 3), ("debug", 4), ("trace", 5)]

def detail? (text : List Char) : Option Nat :=
  match Text.unsigned? text with
  | some n => if n ≤ fullDetail then some n else none
  | none => detailNames.get? (String.ofList (text.map Char.toLower))

end RuleTemplate.Log
