import RuleTemplate.Double.Scaling
import RuleTemplate.Json.Basic
import RuleTemplate.Text.Integer

/-!
Reading JSON documents. A document nested deeper than a limit is refused, and so are an
unpaired surrogate and a number beyond the floats. A repeated key of an object keeps its
first place and its last value.
-/
namespace RuleTemplate.Json

def depthLimit : Nat := 127

def isBlank (c : Char) : Bool := c = ' ' || c = '\n' || c = '\t' || c = '\r'

def skipBlanks (text : List Char) : List Char := text.dropWhile isBlank

inductive Piece
  | char (c : Char)
  | code (n : Nat)
deriving DecidableEq, Repr

def hexCode? (a b c d : Char) : Option Nat := do
  return 4096 * (← Text.hexValue? a) + 256 * (← Text.hexValue? b) +
    16 * (← Text.hexValue? c) + (← Text.hexValue? d)

def escaped? (c : Char) : Option Char :=
  if c = '"' ∨ c = '\\' ∨ c = '/' then some c
  else if c = 'b' then some '\x08'
  else if c = 'f' then some '\x0c'
  else if c = 'n' then some '\n'
  else if c = 'r' then some '\r'
  else if c = 't' then some '\t'
  else none

def readPieces : List Char → Option (List Piece × List Char)
  | [] => none
  | '"' :: rest => some ([], rest)
  | '\\' :: 'u' :: a :: b :: c :: d :: rest => do
    let n ← hexCode? a b c d
    let (pieces, after) ← readPieces rest
    return (.code n :: pieces, after)
  | '\\' :: c :: rest => do
    let e ← escaped? c
    let (pieces, after) ← readPieces rest
    return (.char e :: pieces, after)
  | c :: rest =>
    if c.toNat < 0x20 ∨ c = '\\' then none
    else do
      let (pieces, after) ← readPieces rest
      return (.char c :: pieces, after)

def isHighSurrogate (n : Nat) : Bool := decide (0xD800 ≤ n) && decide (n < 0xDC00)

def isLowSurrogate (n : Nat) : Bool := decide (0xDC00 ≤ n) && decide (n < 0xE000)

/-- The characters of the pieces; a high surrogate needs a low one right after it. -/
def joinPieces : List Piece → Option (List Char)
  | [] => some []
  | .char c :: rest => (joinPieces rest).map (c :: ·)
  | .code high :: .code low :: rest =>
    if isHighSurrogate high then
      if isLowSurrogate low then
        let n := 0x10000 + 0x400 * (high - 0xD800) + (low - 0xDC00)
        (joinPieces rest).map (Char.ofNat n :: ·)
      else none
    else if isLowSurrogate high then none
    else (joinPieces (.code low :: rest)).map (Char.ofNat high :: ·)
  | .code n :: rest =>
    if isHighSurrogate n || isLowSurrogate n then none
    else (joinPieces rest).map (Char.ofNat n :: ·)

def readString (text : List Char) : Option (String × List Char) := do
  let (pieces, rest) ← readPieces text
  return (String.ofList (← joinPieces pieces), rest)

def readDigits (text : List Char) : Option (List Char × List Char) :=
  let digits := text.takeWhile Char.isDigit
  if digits = [] then none else some (digits, text.dropWhile Char.isDigit)

def readFraction : List Char → Option (List Char × List Char)
  | '.' :: rest => readDigits rest
  | text => some ([], text)

def readExponent : List Char → Option (Option Int × List Char)
  | c :: rest =>
    if c = 'e' ∨ c = 'E' then do
      let (negative, unsigned) := Text.cutSign rest
      let (digits, after) ← readDigits unsigned
      let magnitude := Text.digitsValue digits
      return (some (if negative then -(magnitude : Int) else magnitude), after)
    else some (none, c :: rest)
  | [] => some (none, [])

def wholeNumber? (negative : Bool) (magnitude : Nat) : Option Int :=
  if negative then
    if magnitude = 0 ∨ -(magnitude : Int) < Number.minInt then none else some (-magnitude)
  else if Number.maxInt < magnitude then none
  else some magnitude

def greatestSignificand : Nat := Nat.pow 2 64 - 1

/-- Appends digits to a significand while it fits, and counts those left out. -/
def appendDigits (significand : Nat) : List Char → Nat × Nat
  | [] => (significand, 0)
  | digit :: rest =>
    let longer := 10 * significand + Text.digitsValue [digit]
    if longer ≤ greatestSignificand then appendDigits longer rest
    else (significand, rest.length + 1)

/-- The float that the parts write. The digits that fit are rounded to a float, which is
then scaled by a power of ten. -/
def floatOf (negative : Bool) (whole fraction : List Char) (exponent : Int) :
    Option Double := do
  let (significand, left) := appendDigits 0 whole
  let (significand, unused) := appendDigits significand fraction
  let scale := exponent + left - (fraction.length - unused : Nat)
  let magnitude ← (← Double.ofNat significand).scaledBy scale
  return { magnitude with negative := negative }

def numberOf (negative : Bool) (whole fraction : List Char) (exponent : Option Int) :
    Option Number :=
  match if fraction = [] ∧ exponent = none then
      wholeNumber? negative (Text.digitsValue whole) else none with
  | some n => some (.int n)
  | none => (floatOf negative whole fraction (exponent.getD 0)).map .double

def readUnsigned (negative : Bool) (text : List Char) : Option (Number × List Char) := do
  let (whole, rest) ← readDigits text
  if whole.head? = some '0' ∧ whole ≠ ['0'] then none
  let (fraction, rest) ← readFraction rest
  let (exponent, rest) ← readExponent rest
  return (← numberOf negative whole fraction exponent, rest)

def dropWord (word : List Char) (text : List Char) : Option (List Char) :=
  if word.isPrefixOf text then some (text.drop word.length) else none

def readElements {α : Type} (element : List Char → Option (α × List Char)) (close : Char) :
    Nat → List Char → Option (List α × List Char)
  | 0, _ => none
  | bound + 1, text => do
    let (x, rest) ← element text
    match skipBlanks rest with
    | [] => none
    | c :: after =>
      if c = close then some ([x], after)
      else if c = ',' then do
        let (xs, after) ← readElements element close bound after
        return (x :: xs, after)
      else none

def readList {α : Type} (element : List Char → Option (α × List Char)) (close : Char)
    (text : List Char) : Option (List α × List Char) :=
  match skipBlanks text with
  | [] => none
  | c :: rest =>
    if c = close then some ([], rest) else readElements element close text.length (c :: rest)

def readMember (value : List Char → Option (Json × List Char)) (text : List Char) :
    Option ((String × Json) × List Char) :=
  match skipBlanks text with
  | '"' :: rest => do
    let (key, rest) ← readString rest
    match skipBlanks rest with
    | ':' :: rest => do
      let (v, rest) ← value rest
      return ((key, v), rest)
    | _ => none
  | _ => none

/-- A value whose parts, if it may have any, are read by `inner`. -/
def readWith (inner : Option (List Char → Option (Json × List Char))) (text : List Char) :
    Option (Json × List Char) :=
  match skipBlanks text with
  | '"' :: rest => do
    let (s, rest) ← readString rest
    return (.string s, rest)
  | '[' :: rest => do
    let (items, rest) ← readList (← inner) ']' rest
    return (.array items, rest)
  | '\x7b' :: rest => do
    let (members, rest) ← readList (readMember (← inner)) '\x7d' rest
    return (.object (Entries.ofList members), rest)
  | '-' :: rest => do
    let (n, rest) ← readUnsigned true rest
    return (.number n, rest)
  | 'n' :: rest => (dropWord ['u', 'l', 'l'] rest).map (null, ·)
  | 't' :: rest => (dropWord ['r', 'u', 'e'] rest).map (bool true, ·)
  | 'f' :: rest => (dropWord ['a', 'l', 's', 'e'] rest).map (bool false, ·)
  | rest => do
    let (n, rest) ← readUnsigned false rest
    return (.number n, rest)

def readValue : Nat → List Char → Option (Json × List Char)
  | 0 => readWith none
  | depth + 1 => readWith (some (readValue depth))

def readWithin (depth : Nat) (text : String) : Option Json :=
  match readValue depth text.toList with
  | some (value, rest) => if skipBlanks rest = [] then some value else none
  | none => none

def read (text : String) : Option Json := readWithin depthLimit text

end RuleTemplate.Json
