import RuleTemplate.Text.CharSet

/-!
The edges of a set of characters: between two of them it holds all characters or none. So
the characters at the edges tell sets from each other.
-/
namespace RuleTemplate.Text

namespace CharSet

def edges : CharSet → List Nat
  | range first last => [first, last + 1]
  | digit => edgesOf decimalRanges
  | blank => edgesOf blankRanges
  | word => wordEdges
  | category _ => Category.edges
  | union a b => a.edges ++ b.edges
  | inter a b => a.edges ++ b.edges
  | complement a => a.edges
  | caseless a => a.edges ++ casedCodes.flatMap fun n => [n, n + 1]

def firstFrom? (n : Nat) : Option Char :=
  if n.isValidChar then some (Char.ofNat n) else if n < 0xE000 then some '\uE000' else none

def samples (s : CharSet) : List Char := (0 :: s.edges).filterMap firstFrom?

def same (a b : CharSet) : Bool :=
  a == b || (a.samples ++ b.samples).all fun c => a.contains c == b.contains c

def isEmpty (s : CharSet) : Bool := s.samples.all fun c => !s.contains c

def only? (s : CharSet) : Option Char := do
  let c ← s.samples.find? s.contains
  if s.same (single c) then some c else none

end CharSet
end RuleTemplate.Text
