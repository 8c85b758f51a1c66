import RuleTemplate.Criterion
import RuleTemplate.Value.Basic

/-!
What a resolution leaves behind besides its result: counters, and a journal of the steps
it took. Reports show the counters, log lines are read off the journal.
-/
namespace RuleTemplate

structure Metrics where
  /-- Values visited. -/
  nodes : Nat := 0
  rules : Nat := 0
  criteria : Nat := 0
  /-- Criteria all of whose clauses held. -/
  matched : Nat := 0
  probeCalls : Nat := 0
  lookups : Nat := 0
  maxDepth : Nat := 0
deriving DecidableEq, Repr

inductive Cause
  | fallback
  | clause (target : String) (spec : CallSpec)
deriving DecidableEq, Repr

inductive Event
  | property (key : String)
  | lookedUp (address : String) (found : Bool)
  /-- A level is not entered, because it would pass the limit. -/
  | refused (limit : Nat) (lastAddress : String)
  | opened (fallback : Option Value)
  | reached (clause : Clause)
  /-- The target of a call is looked up. -/
  | located (target name : String) (probe : Option Probe)
  | invoked (cause : Cause) (probe : Probe) (args : Record)
  /-- The result of a call is compared; a match captures a value. -/
  | compared (target : String) (spec : CallSpec) (captured : Option Value)
  | malformed (target signature : String)
  /-- A matched criterion loses to one with more parts. -/
  | outranked (key : String) (parts best : Nat)
  | selected (key : String) (parts : Nat)
  /-- A bare address supplies the value so far. -/
  | supplied (key : String)
  | failed (key : String)
  | finished (metrics : Metrics)

def Event.call? : Event → Option (Probe × Record)
  | .invoked _ probe args => some (probe, args)
  | _ => none

structure Options where
  /-- How many levels of indirection may be open at once. -/
  maxDepth : Nat := 64
  /-- Is a falsy result of a rule replaced by null? -/
  collapseFalsy : Bool := false
deriving DecidableEq, Repr

/-- The one way to fail: an indirection would have passed the limit. The address is the
last one that was looked up. -/
structure DepthExceeded where
  limit : Nat
  address : String
deriving DecidableEq, Repr

def DepthExceeded.message (e : DepthExceeded) : String :=
  "resolution depth limit of " ++ toString e.limit ++ " exceeded while resolving '" ++
    e.address ++ "'"

end RuleTemplate
