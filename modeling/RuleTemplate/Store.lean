import RuleTemplate.Json.Writer
import RuleTemplate.Value.Document

/-!
The store of namespaces that addresses lead into. Every name begins with the sigil, which
is supplied where it is missing, and no name stands twice.
-/
namespace RuleTemplate

structure Store where
  namespaces : Record
  sigils : ∀ name ∈ namespaces.keys, hasSigil name = true
  distinct : namespaces.Distinct

structure NotNamespaces where
  document : Json

def NotNamespaces.message (e : NotNamespaces) : String :=
  "invalid context store: expected an object of namespaces, got " ++ e.document.compact

namespace Store

def nameOf (name : String) : String := if hasSigil name then name else "@" ++ name

theorem hasSigil_nameOf (name : String) : hasSigil (nameOf name) = true := by
  by_cases h : hasSigil name = true
  · simp [nameOf, h]
  · simp only [nameOf, h, Bool.false_eq_true, ite_false]
    simp [hasSigil, sigil]

def empty : Store := ⟨[], by simp [Entries.keys], by simp [Entries.Distinct, Entries.keys]⟩

def get? (store : Store) (name : String) : Option Value :=
  store.namespaces.get? (nameOf name)

def insert (store : Store) (name : String) (value : Value) : Store where
  namespaces := Entries.insert (nameOf name) value store.namespaces
  sigils := by
    intro key hkey
    rw [Entries.keys_insert] at hkey
    split at hkey
    · exact store.sigils key hkey
    · rcases List.mem_append.mp hkey with hold | hnew
      · exact store.sigils key hold
      · rw [List.mem_singleton.mp hnew]
        exact hasSigil_nameOf name
  distinct := Entries.distinct_insert store.distinct (nameOf name) value

def exchange (store : Store) (name : String) (value : Value) : Option Value × Store :=
  (store.get? name, store.insert name value)

def ofRecord (namespaces : Record) : Store :=
  namespaces.foldl (fun store entry => store.insert entry.1 entry.2) empty

def ofJson : Json → Except NotNamespaces Store
  | .object members => .ok (ofRecord (Value.membersOfJson members))
  | document => .error ⟨document⟩

def toValue (store : Store) : Value := .object store.namespaces

def names (store : Store) : List String := store.namespaces.keys

def equal (a b : Store) : Bool := a.toValue.equal b.toValue

theorem get?_insert (store : Store) (name other : String) (value : Value) :
    (store.insert name value).get? other =
      if nameOf other = nameOf name then some value else store.get? other :=
  Entries.get?_insert store.namespaces (nameOf name) (nameOf other) value

end Store
end RuleTemplate
