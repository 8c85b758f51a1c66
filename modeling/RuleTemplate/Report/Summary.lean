import RuleTemplate.Json.Writer
import RuleTemplate.Report.Style
import RuleTemplate.Resolution.Journal
import RuleTemplate.Text.Quoted
import RuleTemplate.Value.Document

/-!
The summary of a resolved template: each property with what it was and what it became,
and the counters.
-/
namespace RuleTemplate.Report

structure Summary where
  template : Record
  resolved : Record
  metrics : Metrics

def previewLength : Nat := 80

def preview (v : Value) : String :=
  let text := match v with
    | .string s => Text.quoted s
    | .probe _ => "<probe>"
    | v => v.toJson.compact
  String.ofList (text.toList.take previewLength)

namespace Summary

def isLost (raw resolved : Value) : Bool := resolved.isNull && !raw.isNull

def property (styled : Bool) (key : String) (raw resolved : Value) : String :=
  "  " ++ Style.blue.paint styled key ++ " " ++ Style.dim.paint styled "→" ++ " " ++
    Style.bold.paint styled (Style.green.paint styled (preview resolved)) ++ "\n" ++
    "      " ++ Style.dim.paint styled "from:" ++ " " ++ Style.dim.paint styled (preview raw) ++
    "\n" ++
    if isLost raw resolved then
      "      " ++ Style.yellow.paint styled "no branch matched and no default was given" ++ "\n"
    else ""

def properties (styled : Bool) (summary : Summary) : String :=
  if summary.template = [] then Style.dim.paint styled "  Template has no properties" ++ "\n"
  else String.join (summary.template.map fun (key, raw) =>
    property styled key raw ((Entries.get? summary.resolved key).getD .null))

def counters (styled : Bool) (m : Metrics) (elapsed : String) : String :=
  let shown (style : Style) (n : Nat) : String := style.paint styled (toString n)
  "  Rules: " ++ shown .cyan m.rules ++ "  │  Criteria: " ++ shown .cyan m.criteria ++ " (" ++
    shown .green m.matched ++ " matched)  │  Lookups: " ++ shown .cyan m.lookups ++
    "  │  Probe calls: " ++ shown .yellow m.probeCalls ++ "\n" ++
    "  Nodes: " ++ shown .cyan m.nodes ++ "  │  Max depth: " ++ shown .yellow m.maxDepth ++
    "  │  Total: " ++ Style.green.paint styled elapsed ++ "\n"

def title (styled : Bool) (summary : Summary) : String :=
  Style.bold.paint styled (Style.cyan.paint styled
    ("⚙  Hoisting " ++ toString summary.template.length ++ " properties"))

def text (summary : Summary) (styled : Bool) (elapsed : String) : String :=
  "\n" ++ title styled summary ++ "\n\n" ++
    Style.gray.paint styled "━━━ Properties ━━━" ++ "\n" ++ properties styled summary ++ "\n" ++
    Style.gray.paint styled "━━━ Resolution ━━━" ++ "\n" ++
    counters styled summary.metrics elapsed ++ "\n"

end Summary
end RuleTemplate.Report
