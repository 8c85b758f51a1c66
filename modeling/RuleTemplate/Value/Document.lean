import RuleTemplate.Json.Basic
import RuleTemplate.Value.Basic

/-!
Values and JSON documents. A document is a value as it stands. A value becomes a document
by losing its probes: a member that is a probe is dropped, any other probe becomes null.
-/
namespace RuleTemplate.Value

mutual

def ofJson : Json → Value
  | .null => null
  | .bool b => bool b
  | .number n => number n
  | .string s => string s
  | .array items => array (itemsOfJson items)
  | .object members => object (membersOfJson members)
termination_by structural j => j

def itemsOfJson : List Json → List Value
  | [] => []
  | item :: rest => ofJson item :: itemsOfJson rest
termination_by structural items => items

def membersOfJson : List (String × Json) → List (String × Value)
  | [] => []
  | (key, value) :: rest => (key, ofJson value) :: membersOfJson rest
termination_by structural members => members

end

mutual

def toJson : Value → Json
  | null => .null
  | bool b => .bool b
  | number n => .number n
  | string s => .string s
  | array items => .array (itemsToJson items)
  | object members => .object (membersToJson members)
  | probe _ => .null
termination_by structural v => v

def itemsToJson : List Value → List Json
  | [] => []
  | item :: rest => toJson item :: itemsToJson rest
termination_by structural items => items

def membersToJson : List (String × Value) → List (String × Json)
  | [] => []
  | (key, value) :: rest =>
    if value.isProbe then membersToJson rest else (key, toJson value) :: membersToJson rest
termination_by structural members => members

end

mutual

def withoutProbes : Value → Value
  | array items => array (itemsWithoutProbes items)
  | object members => object (membersWithoutProbes members)
  | probe _ => null
  | v => v
termination_by structural v => v

def itemsWithoutProbes : List Value → List Value
  | [] => []
  | item :: rest => withoutProbes item :: itemsWithoutProbes rest
termination_by structural items => items

def membersWithoutProbes : List (String × Value) → List (String × Value)
  | [] => []
  | (key, value) :: rest =>
    if value.isProbe then membersWithoutProbes rest
    else (key, withoutProbes value) :: membersWithoutProbes rest
termination_by structural members => members

end

end RuleTemplate.Value
