import RuleTemplate.Text.Alphanumeric
import RuleTemplate.Text.Category.Ranges

/-!
Kinds of characters. Every character is of exactly one kind; what is none of the six with
ranges of their own is of the last.
-/
namespace RuleTemplate.Text

inductive Category
  | letter
  | mark
  | number
  | punctuation
  | symbol
  | separator
  | other
deriving DecidableEq, Repr

namespace Category

def ofLetter? (c : Char) : Option Category :=
  match c.toUpper with
  | 'L' => some letter
  | 'M' => some mark
  | 'N' => some number
  | 'P' => some punctuation
  | 'S' => some symbol
  | 'Z' => some separator
  | 'C' => some other
  | _ => none

def isLetter (c : Char) : Bool :=
  inRanges letterLowRanges c || inRanges letterHighRanges c || inRanges letterAstralRanges c

def isMark (c : Char) : Bool := inRanges markLowRanges c || inRanges markHighRanges c

def isNumber (c : Char) : Bool := inRanges numberLowRanges c || inRanges numberHighRanges c

def isPunctuation (c : Char) : Bool :=
  inRanges punctuationLowRanges c || inRanges punctuationHighRanges c

def isSymbol (c : Char) : Bool := inRanges symbolLowRanges c || inRanges symbolHighRanges c

def of (c : Char) : Category :=
  if isLetter c then letter
  else if isMark c then mark
  else if isNumber c then number
  else if isPunctuation c then punctuation
  else if isSymbol c then symbol
  else if inRanges separatorRanges c then separator
  else other

/-- The code points from which on characters may be of another kind than before. -/
def edges : List Nat :=
  edgesOf letterLowRanges ++ edgesOf letterHighRanges ++ edgesOf letterAstralRanges ++
    edgesOf markLowRanges ++ edgesOf markHighRanges ++ edgesOf numberLowRanges ++
    edgesOf numberHighRanges ++ edgesOf punctuationLowRanges ++ edgesOf punctuationHighRanges ++
    edgesOf symbolLowRanges ++ edgesOf symbolHighRanges ++ edgesOf separatorRanges

end Category

def letterNumberRanges : List (Nat × Nat) := [
  (0x16EE, 0x16F0), (0x2160, 0x2182), (0x2185, 0x2188), (0x3007, 0x3007), (0x3021, 0x3029),
  (0x3038, 0x303A), (0xA6E6, 0xA6EF), (0x10140, 0x10174), (0x10341, 0x10341), (0x1034A, 0x1034A),
  (0x103D1, 0x103D5), (0x12400, 0x1246E)]

def isAlphabetic (c : Char) : Bool :=
  isAlphanumeric c && (!Category.isNumber c || inRanges letterNumberRanges c)

end RuleTemplate.Text
