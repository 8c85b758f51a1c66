import RuleTemplate.Log.Level
import RuleTemplate.Text.Alphanumeric
import RuleTemplate.Text.Pattern.Reader
import RuleTemplate.Text.Utf8

/-!
Log directives: `target[span{field=value}]=level`, where every part may be missing. A
directive about a span or a field is about the lines inside such a span; any other one is
about the lines with its target.
-/
namespace RuleTemplate.Log

structure Span where
  name : String
  target : String
  level : Level
  fields : Entries String

/-- What a directive asks of the value of a field. A truth value or a number is not the
value of any field that holds a text. -/
inductive ValueTest
  | plain
  | matching (source : List Char) (pattern : Text.Pattern)
deriving DecidableEq, Repr

namespace ValueTest

def isNumeral (text : List Char) : Bool :=
  let magnitude := (Text.cutSign text).2
  let word := String.ofList (magnitude.map Char.toLower)
  let whole := magnitude.takeWhile Char.isDigit
  let (fraction, rest) := match magnitude.dropWhile Char.isDigit with
    | '.' :: rest => (rest.takeWhile Char.isDigit, rest.dropWhile Char.isDigit)
    | rest => ([], rest)
  let exponent := match rest with
    | [] => true
    | c :: rest =>
      let digits := (Text.cutSign rest).2
      (c == 'e' || c == 'E') && !digits.isEmpty && digits.all Char.isDigit
  ["inf", "infinity", "nan"].contains word || !(whole ++ fraction).isEmpty && exponent

def parse? (text : List Char) : Option ValueTest :=
  if ["true", "false"].contains (String.ofList text) || isNumeral text then some plain
  else (Text.Pattern.read? text).map (matching text)

def accepts : ValueTest → String → Bool
  | plain, _ => false
  | matching _ pattern, value => pattern.accepts value

end ValueTest

structure FieldTest where
  name : String
  value : Option ValueTest
deriving DecidableEq, Repr

namespace FieldTest

def parse? (text : List Char) : Option FieldTest :=
  match text.splitOn '=' with
  | [] | [[]] => none
  | [name] => some ⟨String.ofList name, none⟩
  | name :: value :: _ => do return ⟨String.ofList name, some (← ValueTest.parse? value)⟩

end FieldTest

/-- Lets lines through up to a level of detail. An empty target is that of every line. -/
structure Directive where
  target : String := ""
  span : Option String := none
  field : Option FieldTest := none
  detail : Nat := fullDetail
deriving DecidableEq, Repr

namespace Directive

def isInitial (c : Char) : Bool :=
  Text.isAlphanumeric c || c == '-' || c == ':' || c == '_' || c == '['

def part (text : List Char) (start size : Nat) : List Char :=
  Text.takeBytes size (Text.dropBytes start text)

def sizeTo (stops : List Char) (text : List Char) : Nat :=
  Text.byteSize (text.takeWhile fun c => !stops.contains c)

def withLevel? (d : Directive) (text : List Char) (start : Nat) : Option Directive :=
  let level := Text.dropBytes start text
  if level = [] then some d else (detail? level).map fun detail => { d with detail }

def afterBracket? (d : Directive) (text body : List Char) (position : Nat) :
    Option Directive :=
  match Text.dropBytes (position + 1) body with
  | [] => some d
  | c :: _ => if c = '=' then d.withLevel? text (position + 2) else none

def afterBrace? (d : Directive) (text body : List Char) (position : Nat) :
    Option Directive :=
  let start := position + 1
  let size := sizeTo ['\x7d'] (Text.dropBytes start body)
  if (Text.dropBytes (start + size) body).take 2 = ['\x7d', ']'] then
    match FieldTest.parse? (part text start size) with
    | some field => afterBracket? { d with field := some field } text body (start + size + 1)
    | none => none
  else none

def afterOpening? (d : Directive) (text body : List Char) (position : Nat) :
    Option Directive :=
  let start := position + 1
  let size := sizeTo [']', '\x7b'] (Text.dropBytes start body)
  let name := part text start size
  let named : Directive := { d with span := some (String.ofList name) }
  match Text.dropBytes (start + size) body with
  | [] => none
  | c :: _ =>
    if c = ']' then named.afterBracket? text body (start + size)
    else if name = [] then d.afterBrace? text body (start + size)
    else named.afterBrace? text body (start + size)

/-- Reads a level alone, or a target with what may follow it. Positions are counted in
bytes of the text without the blanks around it, but the parts are cut out of the whole
text: blanks at the front shift them. -/
def parse? (text : List Char) : Option Directive :=
  let body := Text.trimmed text
  let size := sizeTo ['=', '['] body
  let targeted : Directive := { target := String.ofList (part text 0 size) }
  if !body.head?.any isInitial then none
  else
    match Text.dropBytes size body with
    | [] =>
      match detail? text with
      | some detail => some { detail }
      | none => some { target := String.ofList text }
    | c :: _ =>
      if c = '=' then targeted.withLevel? text (size + 1)
      else targeted.afterOpening? text body size

def isAboutSpans (d : Directive) : Bool := d.span.isSome || d.field.isSome

def asksForValue (d : Directive) : Bool := d.field.any (·.value.isSome)

def isAboutLines (d : Directive) : Bool := d.span.isNone && !d.asksForValue

/-- Are the two about the same lines? The later one then counts. -/
def sameScope (a b : Directive) : Bool :=
  a.target == b.target && a.span == b.span && a.field == b.field

def coversTarget (d : Directive) (target : String) : Bool :=
  d.target.toList.isPrefixOf target.toList

def coversLine (d : Directive) (target : String) (fields : List String) : Bool :=
  d.coversTarget target && d.field.all fun field => ("message" :: fields).contains field.name

def coversSpan (d : Directive) (s : Span) : Bool :=
  d.coversTarget s.target && d.span.all (· == s.name) &&
    d.field.all fun field => s.fields.keys.contains field.name

def acceptsValues (d : Directive) (s : Span) : Bool :=
  d.field.all fun field => field.value.all fun value =>
    (s.fields.get? field.name).any value.accepts

def fieldName (d : Directive) : String := (d.field.map (·.name)).getD ""

/-- Is the first one less specific than the second? A longer target is more specific,
then one with a field, then the later name. -/
def below (a b : Directive) : Bool :=
  decide (a.target.length < b.target.length) ||
    (a.target.length == b.target.length && decide (a.fieldName < b.fieldName))

end Directive
end RuleTemplate.Log
