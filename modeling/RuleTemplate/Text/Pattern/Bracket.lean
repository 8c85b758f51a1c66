import RuleTemplate.Text.Pattern.Escape

/-!
Reading sets of characters in brackets. Sets may stand inside sets, and operators between
the members of a set; they are taken from left to right.
-/
namespace RuleTemplate.Text.Pattern

/-- What has been read, with how many things inside each other it is made of. -/
structure Nested (α : Type) where
  value : α
  depth : Nat
deriving DecidableEq, Repr

namespace Nested

/-- How deep things beside each other are; more than one of them make a thing. -/
def depthOf {α : Type} (parts : List (Nested α)) : Nat :=
  (parts.map depth).foldl max 0 + if 1 < parts.length then 1 else 0

end Nested

def namedRanges : String → Option (List (Nat × Nat))
  | "alnum" => some [(0x30, 0x39), (0x41, 0x5A), (0x61, 0x7A)]
  | "alpha" => some [(0x41, 0x5A), (0x61, 0x7A)]
  | "ascii" => some [(0x00, 0x7F)]
  | "blank" => some [(0x09, 0x09), (0x20, 0x20)]
  | "cntrl" => some [(0x00, 0x1F), (0x7F, 0x7F)]
  | "digit" => some [(0x30, 0x39)]
  | "graph" => some [(0x21, 0x7E)]
  | "lower" => some [(0x61, 0x7A)]
  | "print" => some [(0x20, 0x7E)]
  | "punct" => some [(0x21, 0x2F), (0x3A, 0x40), (0x5B, 0x60), (0x7B, 0x7E)]
  | "space" => some [(0x09, 0x0D), (0x20, 0x20)]
  | "upper" => some [(0x41, 0x5A)]
  | "word" => some [(0x30, 0x39), (0x41, 0x5A), (0x5F, 0x5F), (0x61, 0x7A)]
  | "xdigit" => some [(0x30, 0x39), (0x41, 0x46), (0x61, 0x66)]
  | _ => none

inductive SetOperator
  | both
  | difference
  | either
deriving DecidableEq, Repr

namespace SetOperator

def apply : SetOperator → CharSet → CharSet → CharSet
  | both => .inter
  | difference => .diff
  | either => .symmDiff

def read? : List Char → Option (SetOperator × List Char)
  | '&' :: '&' :: rest => some (both, rest)
  | '-' :: '-' :: rest => some (difference, rest)
  | '~' :: '~' :: rest => some (either, rest)
  | _ => none

end SetOperator

/-- A set so far: what stands before the last operator, and the members after it, the last
one first. -/
structure Bracket where
  negated : Bool
  left : Option (SetOperator × Nested CharSet) := none
  members : List (Nested CharSet) := []
deriving DecidableEq, Repr

namespace Bracket

def add (b : Bracket) (s : CharSet) (depth : Nat) : Bracket :=
  { b with members := ⟨s, depth⟩ :: b.members }

def value (mode : Mode) (b : Bracket) : Nested CharSet :=
  let right := (b.members.map (·.value)).foldl (fun s member => .union member s) .empty
  let depth := Nested.depthOf b.members
  match b.left with
  | none => ⟨right, depth⟩
  | some (op, left) =>
    ⟨op.apply (mode.folded left.value) (mode.folded right), max left.depth depth + 1⟩

def operator (mode : Mode) (b : Bracket) (op : SetOperator) : Bracket :=
  ⟨b.negated, some (op, b.value mode), []⟩

def closed? (mode : Mode) (b : Bracket) : Option (Nested CharSet) := do
  let ⟨s, depth⟩ := b.value mode
  let s := mode.folded s
  return ⟨← if b.negated then mode.complement? s else some s, depth + 1⟩

def readDashes (mode : Mode) (b : Bracket) : Nat → List Char → Bracket × List Char
  | bound + 1, '-' :: rest => readDashes mode (b.add (.single '-') 0) bound (mode.skip rest)
  | _, text => (b, text)

/-- Reads the front of a set after its opening bracket. Dashes there stand for themselves,
and so does a closing bracket at the very front. -/
def opened (mode : Mode) (text : List Char) : Bracket × List Char :=
  let text := mode.skip text
  let (negated, text) := match text with
    | '^' :: rest => (true, mode.skip rest)
    | text => (false, text)
  match readDashes mode ⟨negated, none, []⟩ text.length text with
  | (b, ']' :: rest) =>
    if b.members = [] then (b.add (.single ']') 0, mode.skip rest) else (b, ']' :: rest)
  | (b, text) => (b, text)

def readNamed? (text : List Char) : Option (Bool × CharSet × List Char) :=
  match text with
  | ':' :: text =>
    let (negated, text) := match text with
      | '^' :: rest => (true, rest)
      | text => (false, text)
    match text.dropWhile (· ≠ ':') with
    | ':' :: ']' :: rest =>
      (namedRanges (String.ofList (text.takeWhile (· ≠ ':')))).map fun ranges =>
        (negated, .ofRanges ranges, rest)
    | _ => none
  | _ => none

def readAtom? (mode : Mode) : List Char → Option (Atom × List Char)
  | [] => none
  | '\\' :: rest => Atom.readEscape? mode rest
  | c :: rest => some (.char c, rest)

def memberOf? (mode : Mode) : Atom → Option CharSet
  | .char c => if mode.wide ∨ c.toNat < 0x80 then some (.single c) else none
  | .set s => some s
  | .anchor _ => none

def rangeOf? (mode : Mode) : Atom → Atom → Option CharSet
  | .char first, .char last =>
    if first ≤ last ∧ (mode.wide ∨ last.toNat < 0x80) then
      some (.range first.toNat last.toNat)
    else none
  | _, _ => none

/-- Reads a member: a range, or an atom by itself. A dash before another one or before the
closing bracket makes no range. -/
def readMember? (mode : Mode) (text : List Char) : Option (CharSet × List Char) := do
  let (first, rest) ← readAtom? mode text
  let alone := (memberOf? mode first).map fun s => (s, mode.skip rest)
  match mode.skip rest with
  | '-' :: after =>
    match mode.skip after with
    | [] => none
    | '-' :: _ => alone
    | ']' :: _ => alone
    | after =>
      let (last, rest) ← readAtom? mode after
      return (← rangeOf? mode first last, rest)
  | _ => alone

def readFrom? (mode : Mode) :
    Nat → List Bracket → Bracket → List Char → Option (Nested CharSet × List Char)
  | 0, _, _, _ => none
  | bound + 1, outer, b, text =>
    match mode.skip text with
    | [] => none
    | ']' :: rest =>
      match b.closed? mode, outer with
      | some s, [] => some (s, rest)
      | some s, o :: outer => readFrom? mode bound outer (o.add s.value s.depth) rest
      | none, _ => none
    | '[' :: rest =>
      match readNamed? rest with
      | some (negated, s, rest) =>
        match if negated then mode.complement? (mode.folded s) else some s with
        | some s => readFrom? mode bound outer (b.add s 0) rest
        | none => none
      | none =>
        let (inner, rest) := opened mode rest
        readFrom? mode bound (b :: outer) inner rest
    | text =>
      match SetOperator.read? text with
      | some (op, rest) => readFrom? mode bound outer (b.operator mode op) rest
      | none =>
        match readMember? mode text with
        | some (s, rest) => readFrom? mode bound outer (b.add s 0) rest
        | none => none

def read? (mode : Mode) (text : List Char) : Option (Nested CharSet × List Char) :=
  let (b, rest) := opened mode text
  readFrom? mode (text.length + 1) [] b rest

end Bracket
end RuleTemplate.Text.Pattern
