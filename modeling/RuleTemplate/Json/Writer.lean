import RuleTemplate.Json.Basic

/-!
Writing JSON documents: on one line without blanks, or on many lines with an indent of
two spaces. An empty list or object is written without blanks in both forms.
-/
namespace RuleTemplate.Json

def writtenChar (c : Char) : List Char :=
  if c = '"' then ['\\', '"']
  else if c = '\\' then ['\\', '\\']
  else if c = '\x08' then ['\\', 'b']
  else if c = '\x0c' then ['\\', 'f']
  else if c = '\n' then ['\\', 'n']
  else if c = '\r' then ['\\', 'r']
  else if c = '\t' then ['\\', 't']
  else if c.toNat < 0x20 then
    ['\\', 'u', '0', '0', Nat.digitChar (c.toNat / 16), Nat.digitChar (c.toNat % 16)]
  else [c]

def writtenString (s : String) : String :=
  String.ofList ('"' :: s.toList.flatMap writtenChar ++ ['"'])

def boolText (b : Bool) : String := if b then "true" else "false"

mutual

def compact : Json → String
  | null => "null"
  | bool b => boolText b
  | number n => n.jsonText
  | string s => writtenString s
  | array items => "[" ++ ",".intercalate (compactItems items) ++ "]"
  | object members => "\x7b" ++ ",".intercalate (compactMembers members) ++ "\x7d"
termination_by structural j => j

def compactItems : List Json → List String
  | [] => []
  | item :: rest => compact item :: compactItems rest
termination_by structural items => items

def compactMembers : List (String × Json) → List String
  | [] => []
  | (key, value) :: rest => (writtenString key ++ ":" ++ compact value) :: compactMembers rest
termination_by structural members => members

end

def newline (level : Nat) : String := String.ofList ('\n' :: List.replicate (2 * level) ' ')

def block (opening closing : String) (level : Nat) (parts : List String) : String :=
  if parts = [] then opening ++ closing
  else opening ++ newline (level + 1) ++ ("," ++ newline (level + 1)).intercalate parts ++
    newline level ++ closing

mutual

def prettyAt : Json → Nat → String
  | null, _ => "null"
  | bool b, _ => boolText b
  | number n, _ => n.jsonText
  | string s, _ => writtenString s
  | array items, level => block "[" "]" level (prettyItems items (level + 1))
  | object members, level => block "\x7b" "\x7d" level (prettyMembers members (level + 1))
termination_by structural j => j

def prettyItems : List Json → Nat → List String
  | [], _ => []
  | item :: rest, level => prettyAt item level :: prettyItems rest level
termination_by structural items => items

def prettyMembers : List (String × Json) → Nat → List String
  | [], _ => []
  | (key, value) :: rest, level =>
    (writtenString key ++ ": " ++ prettyAt value level) :: prettyMembers rest level
termination_by structural members => members

end

def pretty (j : Json) : String := prettyAt j 0

end RuleTemplate.Json
