/-!
Styles of text on a terminal.
-/
namespace RuleTemplate.Report

inductive Style
  | bold
  | dim
  | green
  | yellow
  | blue
  | cyan
  | gray
deriving DecidableEq, Repr

namespace Style

def code : Style → Nat
  | bold => 1
  | dim => 2
  | green => 32
  | yellow => 33
  | blue => 34
  | cyan => 36
  | gray => 90

def paint (style : Style) (styled : Bool) (text : String) : String :=
  if styled then "\x1b[" ++ toString style.code ++ "m" ++ text ++ "\x1b[0m" else text

end Style
end RuleTemplate.Report
