import RuleTemplate.Text.Cut
import RuleTemplate.Text.Integer
import RuleTemplate.Value.Display

/-!
Comparisons of values with texts. An alternative is compared with the whole text of a
value. A matcher is what a call clause compares its result with: one with `>=` in it, or
else with `<=`, compares the integers that the two texts begin with, and fails when one of
them begins with none; any other matcher is the text itself.
-/
namespace RuleTemplate

inductive Matcher
  | atLeast (bound : List Char)
  | atMost (bound : List Char)
  | equals (text : String)
deriving DecidableEq, Repr

namespace Matcher

def parse (text : String) : Matcher :=
  match Text.cutPair '>' '=' text.toList with
  | some (_, bound) => atLeast bound
  | none =>
    match Text.cutPair '<' '=' text.toList with
    | some (_, bound) => atMost bound
    | none => equals text

def compareInts (related : Int → Int → Bool) (actual bound : List Char) : Bool :=
  match Text.leadingInt actual, Text.leadingInt bound with
  | some a, some b => related a b
  | _, _ => false

def accepts (m : Matcher) (v : Value) : Bool :=
  match m with
  | atLeast bound => compareInts (fun a b => decide (b ≤ a)) v.display.toList bound
  | atMost bound => compareInts (fun a b => decide (a ≤ b)) v.display.toList bound
  | equals text => v.display == text

end Matcher

def Value.passes (v : Value) (text : String) : Bool := (Matcher.parse text).accepts v

def Value.isOneOf (v : Value) (alternatives : List String) : Bool :=
  match v with
  | .array items => items.any fun item => alternatives.contains item.display
  | v => alternatives.contains v.display

end RuleTemplate
