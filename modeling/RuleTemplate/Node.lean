import RuleTemplate.Criterion
import RuleTemplate.Value.Basic

/-!
Nodes: what a value means to resolution. An object is a rule as soon as it offers a
fallback or has a key with the sigil; all its other keys are then criteria.
-/
namespace RuleTemplate

structure Branch where
  key : String
  criterion : Criterion
  outcome : Value

structure Rule where
  fallback : Option Value
  branches : List Branch

inductive Node
  | literal (v : Value)
  | address (a : String)
  | list (items : List Value)
  | object (members : Record)
  | rule (r : Rule)

def fallbackKeys : List String := ["default", "value"]

def isFallbackKey (key : String) : Bool := fallbackKeys.contains key

def isRule (members : Record) : Bool :=
  members.any fun member => isFallbackKey member.1 || hasSigil member.1

theorem isRule_eq_of_keys_eq {a b : Record} (h : a.keys = b.keys) : isRule a = isRule b := by
  have hkeys (members : Record) :
      isRule members = members.keys.any fun key => isFallbackKey key || hasSigil key := by
    simp [isRule, Entries.keys, Function.comp_def]
  rw [hkeys, hkeys, h]

namespace Rule

def fallbackOf (members : Record) : Option Value :=
  (fallbackKeys.filterMap (Entries.get? members)).find? (!·.isNull)

def branchOf (key : String) (outcome : Value) : Branch := ⟨key, Criterion.parse key, outcome⟩

def branchesOf (members : Record) : List Branch :=
  (members.filter (!isFallbackKey ·.1)).map fun member => branchOf member.1 member.2

def ofMembers (members : Record) : Rule := ⟨fallbackOf members, branchesOf members⟩

theorem mem_of_fallbackOf {members : Record} {v : Value}
    (h : fallbackOf members = some v) : ∃ key, (key, v) ∈ members := by
  have hv := List.mem_of_find?_eq_some h
  obtain ⟨key, -, hkey⟩ := List.mem_filterMap.mp hv
  exact ⟨key, Entries.mem_of_get? hkey⟩

theorem mem_of_mem_branchesOf {members : Record} {branch : Branch}
    (h : branch ∈ branchesOf members) : (branch.key, branch.outcome) ∈ members := by
  obtain ⟨member, hmember, rfl⟩ := List.mem_map.mp h
  exact (List.mem_filter.mp hmember).1

end Rule

def Node.ofValue : Value → Node
  | .string s => if hasSigil s then .address s else .literal (.string s)
  | .array items => .list items
  | .object members => if isRule members then .rule (.ofMembers members) else .object members
  | v => .literal v

def Value.isLiteral : Value → Bool
  | .string s => !hasSigil s
  | .array _ | .object _ => false
  | _ => true

theorem Node.ofValue_eq_literal_iff {v w : Value} :
    Node.ofValue v = .literal w ↔ v.isLiteral = true ∧ v = w := by
  cases v with
  | string s => by_cases h : hasSigil s <;> simp [Node.ofValue, Value.isLiteral, h]
  | object members =>
    by_cases h : isRule members = true <;> simp [Node.ofValue, Value.isLiteral, h]
  | _ => simp [Node.ofValue, Value.isLiteral]

end RuleTemplate
