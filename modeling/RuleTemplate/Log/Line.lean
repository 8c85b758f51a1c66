import RuleTemplate.Log.Filter
import RuleTemplate.Resolution.Journal
import RuleTemplate.Text.Quoted
import RuleTemplate.Value.Display

/-!
Log lines: what the log says about the steps of a resolution. A line names its level, the
part of the program that it comes from and, where the filter is detailed enough, the
template property that is being resolved.
-/
namespace RuleTemplate.Log

structure Line where
  level : Level
  target : String
  message : String
  fields : List (String × String)
deriving DecidableEq, Repr

def resolverTarget : String := "hoist::engine::resolver"

def callTarget : String := "hoist::engine::call"

def passTarget : String := "hoist::api"

def propertySpan (key : String) : Span where
  name := "hoist"
  target := "hoist::engine::hoister"
  level := .debug
  fields := [("key", key)]

namespace Line

def resolver (level : Level) (message : String) (fields : List (String × String)) : Line :=
  ⟨level, resolverTarget, message, fields⟩

def ofEvent? : Event → Option Line
  | .lookedUp address false =>
    some (resolver .trace "address is undefined" [("address", Text.quoted address)])
  | .refused limit lastAddress =>
    some (resolver .debug "depth limit reached"
      [("limit", toString limit), ("address", lastAddress)])
  | .reached clause =>
    some (resolver .trace "evaluating clause" [("clause", clause.display)])
  | .malformed target signature =>
    some (resolver .warn
      "malformed call clause, expected name[key:value,...]property:match"
      [("target_address", target), ("signature", signature)])
  | .outranked key parts best =>
    some (resolver .trace "less specific match ignored"
      [("key", Text.quoted key), ("parts", toString parts), ("best", toString best)])
  | .selected key parts =>
    some (resolver .debug "branch selected"
      [("key", Text.quoted key), ("specificity", toString parts)])
  | .supplied key =>
    some (resolver .debug "bare address supplied value" [("key", Text.quoted key)])
  | .failed key =>
    some (resolver .trace "criterion failed" [("key", Text.quoted key)])
  | .located target name none =>
    some ⟨.trace, callTarget, "call target is not a probe",
      [("address", Text.quoted target), ("function", name)]⟩
  | .compared target spec none =>
    some ⟨.trace, callTarget, "call result did not match",
      [("address", Text.quoted target), ("call", spec.display)]⟩
  | .compared target spec (some v) =>
    some ⟨.trace, callTarget, "call matched",
      [("address", Text.quoted target), ("call", spec.display), ("value", v.display)]⟩
  | .finished m =>
    some ⟨.debug, passTarget, "hoist pass finished",
      [("nodes", toString m.nodes), ("rules", toString m.rules),
        ("probe_calls", toString m.probeCalls), ("max_depth", toString m.maxDepth)]⟩
  | .lookedUp _ true | .property _ | .opened _ | .located _ _ (some _) | .invoked _ _ _ => none

def fieldNames (line : Line) : List String := line.fields.map Prod.fst

def fieldText (field : String × String) : String := field.1 ++ "=" ++ field.2

def text (line : Line) (inside : Option Span) : String :=
  let span := match inside with
    | some s => " " ++ s.name ++ "\x7b" ++ " ".intercalate (s.fields.map fieldText) ++ "\x7d:"
    | none => ""
  let fields := String.join (line.fields.map fun field => " " ++ fieldText field)
  line.level.name ++ span ++ " " ++ line.target ++ ": " ++ line.message ++ fields ++ "\n"

end Line

def propertyAfter (property : Option String) : Event → Option String
  | .property key => some key
  | .finished _ => none
  | _ => property

def textOf (filter : Filter) (property : Option String) : List Event → String
  | [] => ""
  | event :: rest =>
    let property := propertyAfter property event
    let inside := (property.map propertySpan).filter filter.opens
    let line := match Line.ofEvent? event with
      | some line =>
        if filter.shows inside line.target line.level line.fieldNames then line.text inside
        else ""
      | none => ""
    line ++ textOf filter property rest

end RuleTemplate.Log
