import RuleTemplate.Entries
import RuleTemplate.Number

/-!
Values: JSON data that may also hold probes. A probe is a handle for behaviour that
somebody else supplies; two probes are the same only if their handles are. Equality of
values ignores the order of object members and tells whole numbers from floats.
-/
namespace RuleTemplate

structure Probe where
  handle : Nat
deriving DecidableEq, Repr

inductive Value
  | null
  | bool (b : Bool)
  | number (n : Number)
  | string (s : String)
  | array (items : List Value)
  | object (members : List (String × Value))
  | probe (p : Probe)

abbrev Record := Entries Value

def sigil : Char := '@'

def hasSigil (text : String) : Bool := text.toList.head? == some sigil

namespace Value

instance : Inhabited Value := ⟨null⟩

def isNull : Value → Bool
  | null => true
  | _ => false

def isProbe : Value → Bool
  | probe _ => true
  | _ => false

def isTruthy : Value → Bool
  | null => false
  | bool b => b
  | number n => !n.isZero
  | string s => s != ""
  | array _ | object _ | probe _ => true

def string? : Value → Option String
  | string s => some s
  | _ => none

def object? : Value → Option Record
  | object members => some members
  | _ => none

def probe? : Value → Option Probe
  | probe p => some p
  | _ => none

def address? (v : Value) : Option String := v.string?.filter hasSigil

mutual

/-- Equality: numbers within a kind, objects by key in any order, probes by handle. -/
def equal : Value → Value → Bool
  | null, null => true
  | bool a, bool b => a == b
  | number m, number n => m.equal n
  | string s, string t => s == t
  | array xs, array ys => equalItems xs ys
  | object ms, object ns => ms.length == ns.length && equalMembers ms ns
  | probe p, probe q => p == q
  | _, _ => false
termination_by structural v => v

def equalItems : List Value → List Value → Bool
  | [], [] => true
  | x :: xs, y :: ys => equal x y && equalItems xs ys
  | _, _ => false
termination_by structural xs => xs

def equalMembers : List (String × Value) → List (String × Value) → Bool
  | [], _ => true
  | (key, x) :: rest, others =>
    (match Entries.get? others key with
      | some y => equal x y
      | none => false) && equalMembers rest others
termination_by structural members => members

end

instance : BEq Value := ⟨equal⟩

def equalRecords (a b : Record) : Bool := equal (object a) (object b)

mutual

def WellFormed : Value → Prop
  | array items => WellFormedItems items
  | object members => Entries.Distinct members ∧ WellFormedMembers members
  | _ => True
termination_by structural v => v

def WellFormedItems : List Value → Prop
  | [] => True
  | item :: rest => WellFormed item ∧ WellFormedItems rest
termination_by structural items => items

def WellFormedMembers : List (String × Value) → Prop
  | [] => True
  | (_, value) :: rest => WellFormed value ∧ WellFormedMembers rest
termination_by structural members => members

end

theorem wellFormedItems_iff {items : List Value} :
    WellFormedItems items ↔ ∀ item ∈ items, item.WellFormed := by
  induction items with
  | nil => simp [WellFormedItems]
  | cons item rest ih => simp [WellFormedItems, ih]

theorem wellFormedMembers_iff {members : List (String × Value)} :
    WellFormedMembers members ↔ ∀ member ∈ members, member.2.WellFormed := by
  induction members with
  | nil => simp [WellFormedMembers]
  | cons member rest ih => simp [WellFormedMembers, ih]

theorem isNull_iff {v : Value} : v.isNull = true ↔ v = null := by
  cases v <;> simp [isNull]

end Value
end RuleTemplate
