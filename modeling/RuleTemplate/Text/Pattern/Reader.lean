import RuleTemplate.Text.Pattern.Bracket

/-!
Reading patterns. The text is cut into tokens, in the mode of the group that they stand
in; the tokens are put together with a stack of the groups that are open. A text that is
no pattern is refused, and so are counted repetitions, edges of words in wide mode and
what is nested too deep.
-/
namespace RuleTemplate.Text.Pattern

def repetitionOf? (c : Char) : Option Repetition :=
  if c = '?' then some .optional
  else if c = '*' then some .any
  else if c = '+' then some .atLeastOnce
  else none

inductive Token
  | item (p : Pattern) (depth : Nat)
  | flags (mode : Mode)
  | opening (mode : Mode) (captures : Bool) (name : Option (List Char))
  | closing
  | bar
  | repeated (times : Repetition) (eager : Bool)
deriving DecidableEq, Repr

namespace Token

def beginsName (c : Char) : Bool := c == '_' || isAlphabetic c

def continuesName (c : Char) : Bool := ['_', '.', '[', ']'].contains c || isAlphanumeric c

def readName? (text : List Char) : Option (List Char × List Char) :=
  let name := text.takeWhile (· ≠ '>')
  match name, text.dropWhile (· ≠ '>') with
  | c :: others, '>' :: rest =>
    if beginsName c && others.all continuesName then some (name, rest) else none
  | _, _ => none

def readOpening? (mode : Mode) : List Char → Option (Token × List Char)
  | '?' :: 'P' :: '<' :: rest =>
    (readName? rest).map fun (name, rest) => (opening mode true (some name), rest)
  | '?' :: '<' :: rest =>
    (readName? rest).map fun (name, rest) => (opening mode true (some name), rest)
  | '?' :: ')' :: _ => none
  | '?' :: rest => do
    match ← mode.readFlags? [] rest with
    | (mode, ')' :: rest) => return (flags mode, rest)
    | (mode, rest) => return (opening mode false none, rest.drop 1)
  | rest => some (opening mode true none, rest)

def read? (mode : Mode) : List Char → Option (Token × List Char)
  | [] => none
  | '(' :: rest => readOpening? mode (mode.skip rest)
  | ')' :: rest => some (closing, rest)
  | '|' :: rest => some (bar, rest)
  | '.' :: rest => mode.dot?.map fun s => (item (ofSet s mode.wide) 0, rest)
  | '^' :: rest => some (item (anchor mode.lineStart) 0, rest)
  | '$' :: rest => some (item (anchor mode.lineEnd) 0, rest)
  | '[' :: rest =>
    (Bracket.read? mode rest).map fun (s, rest) =>
      (item (ofSet s.value mode.wide) s.depth, rest)
  | '\\' :: rest =>
    (Atom.readEscape? mode rest).map fun (atom, rest) => (item (atom.pattern mode) 0, rest)
  | c :: rest =>
    match repetitionOf? c, rest with
    | some times, '?' :: rest => some (repeated times mode.swapsEagerness, rest)
    | some times, rest => some (repeated times !mode.swapsEagerness, rest)
    | none, rest =>
      if c = '\x7b' then none else some (item (ofSet (mode.literal c) mode.wide) 0, rest)

end Token

/-- A group so far: the alternatives before the last bar and the items after it, the last
ones first. An item without a pattern is a change of the mode. -/
structure Group where
  mode : Mode
  captures : Bool := false
  earlier : List (Nested Pattern) := []
  items : List (Nested (Option Pattern)) := []
deriving DecidableEq, Repr

namespace Group

def add (g : Group) (p : Pattern) (depth : Nat) : Group :=
  { g with items := ⟨some p, depth⟩ :: g.items }

def alternatives (g : Group) : List (Nested Pattern) :=
  ⟨joined (g.items.reverse.filterMap (·.value)), Nested.depthOf g.items⟩ :: g.earlier

def pattern (g : Group) : Nested Pattern :=
  let p := firstOf (g.alternatives.reverse.map (·.value))
  ⟨if g.captures then group p else p, Nested.depthOf g.alternatives⟩

end Group

/-- A pattern so far: the names in use, the groups that are open around the last one, and
the last one. -/
structure Draft where
  names : List (List Char)
  outer : List Group
  group : Group
deriving DecidableEq, Repr

namespace Draft

def depthLimit : Nat := 250

def add? (d : Draft) : Token → Option Draft
  | .item p depth => some { d with group := d.group.add p depth }
  | .flags mode =>
    some { d with group := { d.group with mode, items := ⟨none, 0⟩ :: d.group.items } }
  | .opening mode captures name =>
    let names := name.toList
    if names.any d.names.contains then none
    else some ⟨names ++ d.names, d.group :: d.outer, { mode, captures }⟩
  | .closing =>
    let ⟨p, depth⟩ := d.group.pattern
    match d.outer with
    | [] => none
    | g :: outer => some { d with outer, group := g.add p (depth + 1) }
  | .bar => some { d with group := { d.group with earlier := d.group.alternatives, items := [] } }
  | .repeated times eager =>
    match d.group.items with
    | ⟨some p, depth⟩ :: items =>
      let item := ⟨some (repeating times eager p), depth + 1⟩
      some { d with group := { d.group with items := item :: items } }
    | _ => none

def finish? (d : Draft) : Option Pattern :=
  let ⟨p, depth⟩ := d.group.pattern
  if d.outer = [] ∧ depth ≤ depthLimit then some p else none

def read? : Nat → Draft → List Char → Option Pattern
  | 0, _, _ => none
  | bound + 1, d, text =>
    match d.group.mode.skip text with
    | [] => d.finish?
    | text => do
      let (token, rest) ← Token.read? d.group.mode text
      read? bound (← d.add? token) rest

end Draft

def read? (text : List Char) : Option Pattern :=
  Draft.read? (text.length + 1) ⟨[], [], ⟨{}, false, [], []⟩⟩ text

end RuleTemplate.Text.Pattern
