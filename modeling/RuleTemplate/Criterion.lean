import RuleTemplate.Text.Blank
import RuleTemplate.Text.Cut
import RuleTemplate.Text.WordCharacter

/-!
Criteria: the keys of a rule other than its fallbacks. A criterion is a group of clauses
with blanks between them. Every text has a criterion: a call that does not follow the
grammar `name[key:value,...]property:matcher` is kept as a malformed clause.
-/
namespace RuleTemplate

structure CallSpec where
  name : String
  args : List (String × String)
  property : String
  matcher : String
deriving DecidableEq, Repr

inductive Clause
  /-- An address alone supplies its value. -/
  | bare (address : String)
  /-- The value at the address is one of the alternatives. -/
  | oneOf (address : String) (alternatives : List String)
  /-- A probe under the target is called. -/
  | call (target : String) (spec : CallSpec)
  /-- A call that does not follow the grammar. -/
  | malformed (target signature : String)
deriving DecidableEq, Repr

abbrev Criterion := List Clause

namespace CallSpec

def parseArg (text : List Char) : String × String :=
  match Text.cut ':' text with
  | some (key, value) => (String.ofList key, String.ofList value)
  | none => (String.ofList text, "")

def parseArgs (text : List Char) : List (String × String) :=
  ((text.splitOn ',').filter (· ≠ [])).map parseArg

/-- The name runs over word characters up to a bracket, the arguments up to the first
closing bracket, the property up to the next colon. -/
def parse? (signature : List Char) : Option CallSpec :=
  let name := signature.takeWhile Text.isWordChar
  match signature.dropWhile Text.isWordChar with
  | '[' :: rest => do
    if name = [] then none
    let (args, rest) ← Text.cut ']' rest
    let (property, matcher) ← Text.cut ':' rest
    return ⟨String.ofList name, parseArgs args, String.ofList property, String.ofList matcher⟩
  | _ => none

def displayArgs (args : List (String × String)) : String :=
  ",".intercalate (args.map fun arg => arg.1 ++ ":" ++ arg.2)

def display (spec : CallSpec) : String :=
  spec.name ++ "[" ++ displayArgs spec.args ++ "]" ++ spec.property ++ ":" ++ spec.matcher

end CallSpec

namespace Clause

def isBare : Clause → Bool
  | bare _ => true
  | _ => false

def parse (text : List Char) : Clause :=
  match Text.cutPair ':' ':' text with
  | some (target, signature) =>
    match CallSpec.parse? signature with
    | some spec => call (String.ofList target) spec
    | none => malformed (String.ofList target) (String.ofList signature)
  | none =>
    match Text.cut ':' text with
    | some (address, values) =>
      oneOf (String.ofList address) ((Text.splitPair '|' '|' values).map String.ofList)
    | none => bare (String.ofList text)

def display : Clause → String
  | bare address => address
  | oneOf address alternatives => address ++ ":" ++ "||".intercalate alternatives
  | call target spec => target ++ "::" ++ spec.display
  | malformed target signature => target ++ "::" ++ signature

end Clause

namespace Criterion

def words (text : List Char) : List (List Char) :=
  (text.splitOnP Text.isBlank).filter (· ≠ [])

def parse (key : String) : Criterion := (words key.toList).map Clause.parse

def display (criterion : Criterion) : String :=
  " ".intercalate (criterion.map Clause.display)

end Criterion
end RuleTemplate
