import RuleTemplate.Text.CharSet.Edges
import RuleTemplate.Text.Pattern

/-!
Putting patterns together. A sequence holds no sequences and a choice no choices, a choice
between characters or between sets is a set, and a choice between sequences that begin
alike comes after what they share. Which match is found first may depend on all this.
-/
namespace RuleTemplate.Text.Pattern

def ofSet (s : CharSet) (wide : Bool) : Pattern :=
  if s.isEmpty then one .empty false
  else
    match s.only? with
    | some c => char c
    | none => one s wide

def isLiteral : Pattern → Bool
  | one (.range first last) _ => first == last
  | _ => false

def isSet : Pattern → Bool
  | one set wide => !isLiteral (one set wide)
  | _ => false

/-- Is this the same pattern, up to the way in which its sets are written? A capturing group
is the same as no other one. -/
def same : Pattern → Pattern → Bool
  | empty, empty => true
  | one set wide, one set' wide' => wide == wide' && set.same set'
  | anchor a, anchor a' => a == a'
  | seq first second, seq first' second' => first.same first' && second.same second'
  | choice first second, choice first' second' => first.same first' && second.same second'
  | repeated times eager body, repeated times' eager' body' =>
    times == times' && eager == eager' && body.same body'
  | _, _ => false

def items : Pattern → List Pattern
  | empty => []
  | seq first second => first.items ++ second.items
  | p => [p]

def alternatives : Pattern → List Pattern
  | choice first second => first.alternatives ++ second.alternatives
  | p => [p]

def joined (ps : List Pattern) : Pattern := inOrder (ps.flatMap items)

def parts (p : Pattern) : List Pattern :=
  (p.items.splitBy fun first second => first.isLiteral && second.isLiteral).map inOrder

def sharedFront : List Pattern → List Pattern → Nat
  | p :: ps, q :: qs => if p.same q then sharedFront ps qs + 1 else 0
  | _, _ => 0

def united (ps : List Pattern) : Pattern :=
  let sets := ps.filterMap fun
    | one set _ => some set
    | _ => none
  ofSet (sets.foldl .union .empty) true

def inTurn : List Pattern → Pattern
  | [] => empty
  | [p] => p
  | p :: q :: rest => choice p (inTurn (q :: rest))

def size : Pattern → Nat
  | seq first second => first.size + second.size + 1
  | choice first second => first.size + second.size + 1
  | repeated _ _ body => body.size + 1
  | group body => body.size + 1
  | _ => 1

/-- The first of the patterns that matches, with what they share at the front taken out at
most so many times. -/
def factored : Nat → List Pattern → Pattern
  | 0, ps => inTurn ps
  | bound + 1, ps =>
    let ps := ps.flatMap alternatives
    let sequences := ps.map parts
    match sequences with
    | [] => empty
    | [_] => inTurn ps
    | first :: others =>
      if ps.all isLiteral || ps.all isSet then united ps
      else
        let shared := (others.map (sharedFront first)).foldl min first.length
        if shared = 0 || sequences.any (·.length < 2) then inTurn ps
        else
          let rests := sequences.map fun sequence => joined (sequence.drop shared)
          joined (first.take shared ++ [factored bound rests])

def firstOf (ps : List Pattern) : Pattern := factored ((ps.map size).foldr (· + ·) 1) ps

def isVoid : Pattern → Bool
  | empty => true
  | one _ _ => false
  | anchor _ => true
  | seq first second => first.isVoid && second.isVoid
  | choice first second => first.isVoid && second.isVoid
  | repeated .optional _ body => body.isVoid
  | repeated _ _ _ => false
  | group body => body.isVoid

/-- Does the pattern always take in a character? It is not known of one that is made with
an empty set. -/
def takesIn? : Pattern → Option Bool
  | empty => some false
  | one set _ => if set.isEmpty then none else some true
  | anchor _ => some false
  | seq first second => return (← first.takesIn?) || (← second.takesIn?)
  | choice first second => return (← first.takesIn?) && (← second.takesIn?)
  | repeated .atLeastOnce _ body => body.takesIn?
  | repeated _ _ body => body.takesIn?.map fun _ => false
  | group body => body.takesIn?

/-- The pattern again and again. What can only match nothing need not come twice. If a round
may take in nothing, the first round is told from those after it. -/
def repeating (times : Repetition) (eager : Bool) (p : Pattern) : Pattern :=
  match times with
  | .atLeastOnce => if p.isVoid then p else repeated .atLeastOnce eager p
  | .any =>
    if p.isVoid then repeated .optional eager p
    else if p.takesIn? = some true then repeated .further eager p
    else repeated .any eager p
  | times => repeated times eager p

end RuleTemplate.Text.Pattern
