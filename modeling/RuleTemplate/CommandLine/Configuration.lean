import RuleTemplate.Clock.Moment
import RuleTemplate.Resolution.Journal
import RuleTemplate.Text.Copies

/-!
The words of a command line and what they ask for. An option with a value takes the next
word, or has the value behind an equals sign. The words are read from left to right, and
the first one that is in error decides.
-/
namespace RuleTemplate.CommandLine

inductive ValueOption
  | template
  | context
  | reference
  | maxDepth
deriving DecidableEq, Repr

inductive Switch
  | verbose
  | color
  | noColor
  | collapseFalsy
deriving DecidableEq, Repr

inductive Word
  | help
  | version
  | switch (s : Switch)
  /-- The value is the next word. -/
  | option (o : ValueOption)
  | assignment (o : ValueOption) (value : String)
  | separator
  | unknown
  | positional
deriving DecidableEq, Repr

inductive ArgumentError
  | missingValue (o : ValueOption)
  | badReference (text : String)
  | badDepth (text : String)
  | secondTemplate
  | unknownOption (word : String)
deriving DecidableEq, Repr

structure Configuration where
  /-- The file that holds the template; without one it is the standard input. -/
  template : Option String := none
  context : Option String := none
  /-- The moment of the built-in namespace; without one it is now. -/
  reference : Option Moment := none
  options : Options := {}
  verbose : Bool := false
  /-- Is the report coloured? Without an answer it is on a terminal. -/
  color : Option Bool := none
deriving DecidableEq, Repr

inductive Request
  | help
  | version
  | resolve (configuration : Configuration)
deriving DecidableEq, Repr

namespace ValueOption

def all : List ValueOption := [template, context, reference, maxDepth]

def name : ValueOption → String
  | template => "--template"
  | context => "--context"
  | reference => "--reference"
  | maxDepth => "--max-depth"

def expected : ValueOption → String
  | template | context => "a file"
  | reference | maxDepth => "a value"

def lead (o : ValueOption) : List Char := o.name.toList ++ ['=']

/-- The value in a word that holds one. The option may stand in front repeatedly. -/
def assigned? (o : ValueOption) (text : List Char) : Option String :=
  if o.lead.isPrefixOf text then some (String.ofList (Text.dropCopies o.lead text)) else none

end ValueOption

namespace Word

def table : Entries Word := [
  ("-h", help), ("--help", help), ("-V", version), ("--version", version),
  ("-v", switch .verbose), ("--verbose", switch .verbose),
  ("--color", switch .color), ("--no-color", switch .noColor),
  ("--collapse-falsy", switch .collapseFalsy),
  ("-t", option .template), ("--template", option .template),
  ("-c", option .context), ("--context", option .context),
  ("--reference", option .reference), ("--max-depth", option .maxDepth),
  ("--", separator)]

def assignment? (text : List Char) : Option Word :=
  ValueOption.all.findSome? fun o => (o.assigned? text).map (assignment o)

def ofText (text : String) : Word :=
  match Entries.get? table text with
  | some word => word
  | none =>
    match assignment? text.toList with
    | some word => word
    | none => if text.toList.head? = some '-' then unknown else positional

end Word

def greatestDepth : Nat := Nat.pow 2 64 - 1

def parseDepth? (text : String) : Option Nat :=
  (Text.unsigned? text.toList).filter fun depth =>
    decide (0 < depth) && decide (depth ≤ greatestDepth)

namespace ArgumentError

def message : ArgumentError → String
  | missingValue o => o.name ++ " expects " ++ o.expected
  | badReference text =>
    "invalid --reference '" ++ text ++ "' (expected YYYY-MM-DDTHH:MM:SS)"
  | badDepth text => "invalid --max-depth '" ++ text ++ "' (expected a positive integer)"
  | secondTemplate => "template provided multiple times"
  | unknownOption word => "unknown option '" ++ word ++ "'"

end ArgumentError

namespace Configuration

def apply (c : Configuration) : Switch → Configuration
  | .verbose => { c with verbose := true }
  | .color => { c with color := some true }
  | .noColor => { c with color := some false }
  | .collapseFalsy => { c with options := { c.options with collapseFalsy := true } }

def set (c : Configuration) (o : ValueOption) (value : String) :
    Except ArgumentError Configuration :=
  match o with
  | .template => .ok { c with template := some value }
  | .context => .ok { c with context := some value }
  | .reference =>
    match Moment.parse? value with
    | some moment => .ok { c with reference := some moment }
    | none => .error (.badReference value)
  | .maxDepth =>
    match parseDepth? value with
    | some depth => .ok { c with options := { c.options with maxDepth := depth } }
    | none => .error (.badDepth value)

def take (c : Configuration) (file : String) : Except ArgumentError Configuration :=
  match c.template with
  | some _ => .error .secondTemplate
  | none => .ok { c with template := some file }

end Configuration

/-- Reads the rest of a command line. After the separator only one word counts. -/
def parseFrom (c : Configuration) : List String → Except ArgumentError Request
  | [] => .ok (.resolve c)
  | text :: rest =>
    match Word.ofText text with
    | .help => .ok .help
    | .version => .ok .version
    | .switch s => parseFrom (c.apply s) rest
    | .option o =>
      match rest with
      | [] => .error (.missingValue o)
      | value :: rest =>
        match c.set o value with
        | .ok c => parseFrom c rest
        | .error e => .error e
    | .assignment o value =>
      match c.set o value with
      | .ok c => parseFrom c rest
      | .error e => .error e
    | .separator =>
      match rest with
      | [] => .ok (.resolve c)
      | file :: _ => (c.take file).map .resolve
    | .unknown => .error (.unknownOption text)
    | .positional =>
      match c.take text with
      | .ok c => parseFrom c rest
      | .error e => .error e

def parse (words : List String) : Except ArgumentError Request := parseFrom {} words

end RuleTemplate.CommandLine
