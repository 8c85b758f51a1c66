import RuleTemplate.Text.Pattern.Assembly

/-!
How the parts of a pattern are read. A flag turns a part of the mode on or, after a dash,
off. In narrow mode sets hold ASCII characters only, and in wide mode there are no edges of
words.
-/
namespace RuleTemplate.Text.Pattern

structure Mode where
  ignoresCase : Bool := false
  byLine : Bool := false
  dotTakesLineEnd : Bool := false
  swapsEagerness : Bool := false
  wide : Bool := true
  returns : Bool := false
  spaced : Bool := false
deriving DecidableEq, Repr

def skipComments (inComment : Bool) : List Char → List Char
  | [] => []
  | c :: rest =>
    if inComment then skipComments (c != '\n') rest
    else if isBlank c then skipComments false rest
    else if c == '#' then skipComments true rest
    else c :: rest

namespace Mode

def skip (mode : Mode) (text : List Char) : List Char :=
  if mode.spaced then skipComments false text else text

def setFlag? (mode : Mode) (on : Bool) (flag : Char) : Option Mode :=
  match flag with
  | 'i' => some { mode with ignoresCase := on }
  | 'm' => some { mode with byLine := on }
  | 's' => some { mode with dotTakesLineEnd := on }
  | 'U' => some { mode with swapsEagerness := on }
  | 'u' => some { mode with wide := on }
  | 'R' => some { mode with returns := on }
  | 'x' => some { mode with spaced := on }
  | _ => none

/-- Reads flags up to a colon or a closing parenthesis, and what stands from there on. No
flag and no dash may come twice, and a dash may not come last. -/
def readFlags? (mode : Mode) (seen : List Char) : List Char → Option (Mode × List Char)
  | [] => none
  | c :: rest =>
    if c = ':' ∨ c = ')' then
      if seen.head? = some '-' then none else some (mode, c :: rest)
    else if seen.contains c then none
    else if c = '-' then readFlags? mode (c :: seen) rest
    else
      match mode.setFlag? (!seen.contains '-') c with
      | some mode => readFlags? mode (c :: seen) rest
      | none => none

def folded (mode : Mode) (s : CharSet) : CharSet :=
  if !mode.ignoresCase then s
  else if mode.wide then .caseless s
  else .inter .ascii (.caseless s)

def literal (mode : Mode) (c : Char) : CharSet :=
  if casedCodes.contains c.toNat && (mode.wide || decide (c.toNat ≤ 0x7F)) then
    mode.folded (.single c)
  else .single c

/-- The characters that are not in the set; in narrow mode they would be too many. -/
def complement? (mode : Mode) (s : CharSet) : Option CharSet :=
  if mode.wide then some (.complement s) else none

def digit (mode : Mode) : CharSet := if mode.wide then .digit else .range 0x30 0x39

def blank (mode : Mode) : CharSet :=
  if mode.wide then .blank else .ofRanges [(0x09, 0x0D), (0x20, 0x20)]

def word (mode : Mode) : CharSet :=
  if mode.wide then .word
  else .ofRanges [(0x30, 0x39), (0x41, 0x5A), (0x5F, 0x5F), (0x61, 0x7A)]

def dot? (mode : Mode) : Option CharSet :=
  mode.complement? <|
    if mode.dotTakesLineEnd then .empty
    else if mode.returns then .union (.single '\n') (.single '\r')
    else .single '\n'

def lineStart (mode : Mode) : Anchor :=
  if mode.byLine then .lineStart mode.returns else .textStart

def lineEnd (mode : Mode) : Anchor := if mode.byLine then .lineEnd mode.returns else .textEnd

end Mode
end RuleTemplate.Text.Pattern
