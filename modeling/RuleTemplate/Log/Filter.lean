import RuleTemplate.Log.Directive

/-!
Log filters: lists of directives that say which log lines are shown. The most specific
directive that is about a line decides on it, and the last one among equals. Directives
about spans let more lines through inside a span that they are about.
-/
namespace RuleTemplate.Log

abbrev Filter := List Directive

namespace Filter

def upTo (level : Level) : Filter := [{ detail := level.detail }]

def parse? (text : String) : Option Filter :=
  ((text.toList.splitOn ',').filter (· ≠ [])).mapM Directive.parse?

def ofSetting (setting : Option String) : Filter :=
  (setting.bind parse?).getD (upTo .warn)

def latest : Filter → Filter
  | [] => []
  | d :: rest => if rest.any (·.sameScope d) then latest rest else d :: latest rest

def deciding? (candidates : List Directive) : Option Directive :=
  candidates.foldl (fun best d =>
    match best with
    | some b => if d.below b then some b else some d
    | none => some d) none

def bound (filter : Filter) : Nat :=
  if filter.any Directive.asksForValue then fullDetail
  else (filter.map (·.detail)).foldl max 0

def about (filter : Filter) (s : Span) : List Directive :=
  filter.latest.filter fun d => d.isAboutSpans && d.coversSpan s

def lets (candidates : List Directive) (level : Level) : Bool :=
  (deciding? candidates).any fun d => decide (level.detail ≤ d.detail)

def opens (filter : Filter) (s : Span) : Bool :=
  decide (s.level.detail ≤ filter.bound) &&
    (!(filter.about s).isEmpty ||
      lets (filter.filter fun d => d.isAboutLines && d.coversTarget s.target) s.level)

def detailInside (filter : Filter) (s : Span) : Nat :=
  (((filter.about s).filter (·.acceptsValues s)).map (·.detail)).foldl max 0

def shows (filter : Filter) (inside : Option Span) (target : String) (level : Level)
    (fields : List String) : Bool :=
  decide (level.detail ≤ filter.bound) &&
    (lets (filter.filter fun d => d.isAboutLines && d.coversLine target fields) level ||
      inside.any fun s => decide (level.detail ≤ filter.detailInside s))

end Filter
end RuleTemplate.Log
