import RuleTemplate.Text.Integer
import RuleTemplate.Text.Pattern.Mode

/-!
What a backslash and the characters after it stand for in a pattern: a character, a set of
characters, or a place.
-/
namespace RuleTemplate.Text.Pattern

inductive Atom
  | char (c : Char)
  | set (s : CharSet)
  | anchor (a : Anchor)
deriving DecidableEq, Repr

namespace Atom

def escaped? (c : Char) : Option Char :=
  if c = 'a' then some '\x07'
  else if c = 'f' then some '\x0c'
  else if c = 'n' then some '\n'
  else if c = 'r' then some '\r'
  else if c = 't' then some '\t'
  else if c = 'v' then some '\x0b'
  else if c.toNat < 0x80 ∧ !c.isAlphanum ∧ c ≠ '<' ∧ c ≠ '>' then some c
  else none

def classOf? (mode : Mode) (c : Char) : Option CharSet :=
  if c = 'd' then some mode.digit
  else if c = 's' then some mode.blank
  else if c = 'w' then some mode.word
  else if c = 'D' then mode.complement? mode.digit
  else if c = 'S' then mode.complement? mode.blank
  else if c = 'W' then mode.complement? mode.word
  else none

def anchorOf? (mode : Mode) (c : Char) : Option Anchor :=
  if c = 'A' then some .textStart
  else if c = 'z' then some .textEnd
  else if mode.wide then none
  else if c = 'b' then some .wordEdge
  else if c = 'B' then some .noWordEdge
  else if c = '<' then some .wordStart
  else if c = '>' then some .wordEnd
  else none

def readHex? (mode : Mode) : Nat → Nat → List Char → Option (Nat × List Char)
  | 0, value, text => some (value, text)
  | _ + 1, _, [] => none
  | count + 1, value, c :: rest =>
    match hexValue? c with
    | some digit => readHex? mode count (16 * value + digit) (mode.skip rest)
    | none => none

def readCode? (mode : Mode) (count : Nat) (text : List Char) : Option (Char × List Char) := do
  let (n, rest) ← readHex? mode count 0 (mode.skip text)
  if n.isValidChar then return (Char.ofNat n, rest) else none

def readEscape? (mode : Mode) : List Char → Option (Atom × List Char)
  | [] => none
  | 'x' :: rest => do
    let (c, rest) ← readCode? mode 2 rest
    if mode.wide ∨ c.toNat < 0x80 then return (char c, rest) else none
  | 'u' :: rest => (readCode? mode 4 rest).map fun (c, rest) => (char c, rest)
  | 'U' :: rest => (readCode? mode 8 rest).map fun (c, rest) => (char c, rest)
  | 'p' :: rest => do
    let (kind, rest) ← readKind? (mode.skip rest)
    return (set (mode.folded kind), rest)
  | 'P' :: rest => do
    let (kind, rest) ← readKind? (mode.skip rest)
    return (set (.complement (mode.folded kind)), rest)
  | c :: rest =>
    match escaped? c, classOf? mode c, anchorOf? mode c with
    | some c, _, _ => some (char c, rest)
    | none, some s, _ => some (set s, rest)
    | none, none, some a => some (anchor a, rest)
    | none, none, none => none
where
  /-- The set of a kind of characters, in wide mode only. -/
  readKind? : List Char → Option (CharSet × List Char)
    | [] => none
    | c :: rest => do
      let kind ← Category.ofLetter? c
      if mode.wide then return (.category kind, mode.skip rest) else none

def pattern (mode : Mode) : Atom → Pattern
  | char c => ofSet (mode.literal c) mode.wide
  | set s => ofSet s mode.wide
  | anchor a => .anchor a

end Atom
end RuleTemplate.Text.Pattern
