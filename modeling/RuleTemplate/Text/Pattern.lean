import RuleTemplate.Text.CharSet

/-!
Text patterns: regular expressions whose alternatives have an order. A pattern is looked
for from the front of the text on; of the places where it matches the first one counts, and
of the ways in which it matches there the first one. The pattern accepts the text when
that match ends where the text ends.
-/
namespace RuleTemplate.Text

/-- A place between two characters; at the ends of the text one of them is missing. -/
structure Place where
  before : Option Char
  after : Option Char
deriving DecidableEq, Repr

namespace Place

def isPlainWordChar (c : Char) : Bool := c.isAlphanum || c == '_'

def followsWord (p : Place) : Bool := p.before.any isPlainWordChar

def precedesWord (p : Place) : Bool := p.after.any isPlainWordChar

end Place

/-- A condition on a place. Where returns count, a carriage return ends a line too, and it
makes one line end together with the line feed after it. -/
inductive Anchor
  | textStart
  | textEnd
  | lineStart (returns : Bool)
  | lineEnd (returns : Bool)
  | wordEdge
  | noWordEdge
  | wordStart
  | wordEnd
deriving DecidableEq, Repr

namespace Anchor

def holdsAt (p : Place) : Anchor → Bool
  | textStart => p.before.isNone
  | textEnd => p.after.isNone
  | lineStart returns => p.before.isNone || p.before == some '\n' ||
      returns && p.before == some '\r' && p.after != some '\n'
  | lineEnd false => p.after.isNone || p.after == some '\n'
  | lineEnd true => p.after.isNone || p.after == some '\r' ||
      p.after == some '\n' && p.before != some '\r'
  | wordEdge => p.followsWord != p.precedesWord
  | noWordEdge => p.followsWord == p.precedesWord
  | wordStart => !p.followsWord && p.precedesWord
  | wordEnd => p.followsWord && !p.precedesWord

end Anchor

/-- How often a repeated pattern comes: at most once, any number of times, or at least once.
What comes `further` comes any number of times, and its first round is like those after it. -/
inductive Repetition
  | optional
  | any
  | atLeastOnce
  | further
deriving DecidableEq, Repr

/-- What a text has to look like. Of a choice the first way is tried first. An eager
repetition first tries to go on. Sets are kept apart by the mode that they are written in,
and a capturing group from every other one. -/
inductive Pattern
  | empty
  | one (set : CharSet) (wide : Bool)
  | anchor (a : Anchor)
  | seq (first second : Pattern)
  | choice (first second : Pattern)
  | repeated (times : Repetition) (eager : Bool) (body : Pattern)
  | group (body : Pattern)
deriving DecidableEq, Repr

namespace Pattern

abbrev Thread := List Pattern

/-- Goes through threads at a place up to where they stop. What has been entered there is
not entered again: a walk is given what has been entered, and tells where it stops, in
order, and what has been entered then. -/
abbrev Walk := List Thread → List Thread × List Thread

namespace Walk

def nowhere : Walk := fun entered => ([], entered)

def stop (thread : Thread) : Walk := fun entered => ([thread], entered)

def andThen (first second : Walk) : Walk := fun entered =>
  let (stops, entered) := first entered
  let (others, entered) := second entered
  (stops ++ others, entered)

def entering (thread : Thread) (walk : Walk) : Walk := fun entered =>
  if thread ∈ entered then ([], entered) else walk (thread :: entered)

def round (eager : Bool) (again onward : Walk) : Walk :=
  if eager then again.andThen onward else onward.andThen again

end Walk

/-- The walk through a pattern, and on through what is left after it. It stops at
characters, and passes the conditions that hold. -/
def walk (p : Place) : Pattern → Thread → Walk → Walk
  | empty, _, onward => onward
  | one set wide, left, _ => .stop (one set wide :: left)
  | anchor a, _, onward => if a.holdsAt p then onward else .nowhere
  | seq first second, left, onward =>
    first.walk p (second :: left) (second.walk p left onward)
  | choice first second, left, onward =>
    .entering (choice first second :: left)
      ((first.walk p left onward).andThen (second.walk p left onward))
  | repeated times eager body, left, onward =>
    let here := repeated times eager body :: left
    let further := repeated .further eager body :: left
    let rounds := Walk.entering further (.round eager (body.walk p further .nowhere) onward)
    match times with
    | .optional => .entering here (.round eager (body.walk p left onward) onward)
    | .any => .entering here (.round eager (body.walk p further rounds) onward)
    | .atLeastOnce => body.walk p further rounds
    | .further => rounds
  | group body, left, onward => body.walk p left onward

def walkThread (p : Place) : Thread → Walk
  | [] => .stop []
  | pattern :: left => pattern.walk p left (walkThread p left)

def stopsAt (p : Place) (threads : List Thread) : List Thread :=
  (threads.foldr (fun thread walk => (walkThread p thread).andThen walk) Walk.nowhere []).1

def taking? (c : Char) : Thread → Option Thread
  | one set _ :: left => if set.contains c then some left else none
  | _ => none

/-- Does the pattern match nothing inside a character of several bytes? Such a place is
between no two characters of a word and begins and ends nothing. -/
def matchesInside (pattern : Pattern) (c : Char) : Bool :=
  decide (1 < c.utf8Size) && (stopsAt ⟨some c, some c⟩ [[pattern]]).contains []

/-- Goes on with the threads, in their order, and, while no match has been found, with a
match that begins here. What comes after a thread that is done is given up. -/
def acceptsFrom (pattern : Pattern) (searching : Bool) (before : Option Char)
    (threads : List Thread) : List Char → Bool
  | [] =>
    let begun := if searching then [[pattern]] else []
    (stopsAt ⟨before, none⟩ (threads ++ begun)).contains []
  | c :: text =>
    let begun := if searching then [[pattern]] else []
    let all := stopsAt ⟨before, some c⟩ (threads ++ begun)
    let live := (all.takeWhile (· ≠ [])).filterMap (taking? c)
    acceptsFrom pattern (searching && !all.contains [] && !pattern.matchesInside c)
      (some c) live.eraseDups text

/-- Does the match that is found first end at the end of the text? -/
def accepts (pattern : Pattern) (text : String) : Bool :=
  acceptsFrom pattern true none [] text.toList

def char (c : Char) : Pattern := one (.single c) true

def inOrder : List Pattern → Pattern
  | [] => empty
  | [p] => p
  | p :: q :: rest => seq p (inOrder (q :: rest))

end Pattern
end RuleTemplate.Text
