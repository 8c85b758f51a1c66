import RuleTemplate.Value.Document

/-!
The probes inside values, and what is left of a value without them. A value becomes a document by
losing its probes and nothing else, so two values become the same document exactly if they are
the same without their probes.
-/
namespace RuleTemplate.Value

/-- The first value stands at some depth inside the second one, or is it. -/
inductive Part (w : Value) : Value → Prop
  | self : Part w w
  | item {items : List Value} {item : Value} : item ∈ items → Part w item →
      Part w (.array items)
  | member {members : Record} {member : String × Value} : member ∈ members →
      Part w member.2 → Part w (.object members)

def ProbeFree (v : Value) : Prop := ∀ p, ¬Part (.probe p) v

def ProbesIn (P : Probe → Prop) (v : Value) : Prop := ∀ p, Part (.probe p) v → P p

theorem ProbeFree.probesIn {v : Value} (h : v.ProbeFree) (P : Probe → Prop) : v.ProbesIn P :=
  fun p hpart => absurd hpart (h p)

theorem probeFree_number (n : Number) : (number n).ProbeFree := fun _ hpart => by cases hpart

variable {P : Probe → Prop}

@[simp] theorem probesIn_probe_iff {p : Probe} : (probe p).ProbesIn P ↔ P p :=
  ⟨fun h => h p .self, fun h q hpart => by cases hpart; exact h⟩

@[simp] theorem probesIn_null : null.ProbesIn P := fun _ hpart => by cases hpart

@[simp] theorem probesIn_number (n : Number) : (number n).ProbesIn P :=
  fun _ hpart => by cases hpart

@[simp] theorem probesIn_string (s : String) : (string s).ProbesIn P :=
  fun _ hpart => by cases hpart

@[simp] theorem probesIn_array_iff {items : List Value} :
    (array items).ProbesIn P ↔ ∀ item ∈ items, item.ProbesIn P := by
  constructor
  · exact fun h item hitem p hpart => h p (.item hitem hpart)
  · intro h p hpart
    cases hpart with
    | item hitem hpart => exact h _ hitem p hpart

@[simp] theorem probesIn_object_iff {members : Record} :
    (object members).ProbesIn P ↔ ∀ member ∈ members, member.2.ProbesIn P := by
  constructor
  · exact fun h member hmember p hpart => h p (.member hmember hpart)
  · intro h p hpart
    cases hpart with
    | member hmember hpart => exact h _ hmember p hpart

mutual

/-- The document of a value, read as a value, is the value without its probes. -/
theorem ofJson_toJson : ∀ v : Value, ofJson v.toJson = v.withoutProbes
  | null => rfl
  | bool _ => rfl
  | number _ => rfl
  | string _ => rfl
  | array items => by
    simp only [toJson, ofJson, withoutProbes, itemsOfJson_itemsToJson items]
  | object members => by
    simp only [toJson, ofJson, withoutProbes, membersOfJson_membersToJson members]
  | probe _ => rfl
termination_by structural v => v

theorem itemsOfJson_itemsToJson :
    ∀ items : List Value, itemsOfJson (itemsToJson items) = itemsWithoutProbes items
  | [] => rfl
  | item :: rest => by
    simp only [itemsToJson, itemsOfJson, itemsWithoutProbes, ofJson_toJson item,
      itemsOfJson_itemsToJson rest]
termination_by structural items => items

theorem membersOfJson_membersToJson :
    ∀ members : List (String × Value),
      membersOfJson (membersToJson members) = membersWithoutProbes members
  | [] => rfl
  | (key, value) :: rest => by
    have hrest := membersOfJson_membersToJson rest
    simp only [membersToJson, membersWithoutProbes]
    split
    · exact hrest
    · simp only [membersOfJson, ofJson_toJson value, hrest]
termination_by structural members => members

end

theorem isProbe_withoutProbes (v : Value) : v.withoutProbes.isProbe = false := by
  cases v <;> rfl

mutual

/-- The probes of a value do not count in its document. -/
theorem toJson_withoutProbes : ∀ v : Value, v.withoutProbes.toJson = v.toJson
  | null => rfl
  | bool _ => rfl
  | number _ => rfl
  | string _ => rfl
  | array items => by simp only [toJson, withoutProbes, itemsToJson_withoutProbes items]
  | object members => by simp only [toJson, withoutProbes, membersToJson_withoutProbes members]
  | probe _ => rfl
termination_by structural v => v

theorem itemsToJson_withoutProbes :
    ∀ items : List Value, itemsToJson (itemsWithoutProbes items) = itemsToJson items
  | [] => rfl
  | item :: rest => by
    simp only [itemsToJson, itemsWithoutProbes, toJson_withoutProbes item,
      itemsToJson_withoutProbes rest]
termination_by structural items => items

theorem membersToJson_withoutProbes :
    ∀ members : List (String × Value),
      membersToJson (membersWithoutProbes members) = membersToJson members
  | [] => rfl
  | (key, value) :: rest => by
    have hrest := membersToJson_withoutProbes rest
    cases hprobe : value.isProbe with
    | true => simp only [membersToJson, membersWithoutProbes, hprobe, if_true, hrest]
    | false =>
      simp only [membersToJson, membersWithoutProbes, hprobe, isProbe_withoutProbes,
        toJson_withoutProbes value, hrest, Bool.false_eq_true, if_false]
termination_by structural members => members

end

theorem toJson_eq_iff {v w : Value} : v.toJson = w.toJson ↔ v.withoutProbes = w.withoutProbes := by
  constructor
  · intro h
    rw [← ofJson_toJson, ← ofJson_toJson, h]
  · intro h
    rw [← toJson_withoutProbes v, ← toJson_withoutProbes w, h]

theorem ProbeFree.item {items : List Value} (h : (array items).ProbeFree) :
    ∀ item ∈ items, item.ProbeFree :=
  fun _ hitem p hpart => h p (.item hitem hpart)

theorem ProbeFree.member {members : Record} (h : (object members).ProbeFree) :
    ∀ member ∈ members, member.2.ProbeFree :=
  fun _ hmember p hpart => h p (.member hmember hpart)

theorem ProbeFree.isProbe_eq_false {v : Value} (h : v.ProbeFree) : v.isProbe = false := by
  cases v with
  | probe p => exact absurd .self (h p)
  | _ => rfl

mutual

/-- A value without probes stays as it is. -/
theorem withoutProbes_of_probeFree : ∀ v : Value, v.ProbeFree → v.withoutProbes = v
  | null, _ => rfl
  | bool _, _ => rfl
  | number _, _ => rfl
  | string _, _ => rfl
  | array items, h => by
    rw [withoutProbes, itemsWithoutProbes_of_probeFree items h.item]
  | object members, h => by
    rw [withoutProbes, membersWithoutProbes_of_probeFree members h.member]
  | probe p, h => absurd .self (h p)
termination_by structural v => v

theorem itemsWithoutProbes_of_probeFree :
    ∀ items : List Value, (∀ item ∈ items, item.ProbeFree) → itemsWithoutProbes items = items
  | [], _ => rfl
  | item :: rest, h => by
    obtain ⟨hitem, hrest⟩ := List.forall_mem_cons.mp h
    rw [itemsWithoutProbes, withoutProbes_of_probeFree item hitem,
      itemsWithoutProbes_of_probeFree rest hrest]
termination_by structural items => items

theorem membersWithoutProbes_of_probeFree :
    ∀ members : List (String × Value), (∀ member ∈ members, member.2.ProbeFree) →
      membersWithoutProbes members = members
  | [], _ => rfl
  | (key, value) :: rest, h => by
    obtain ⟨hvalue, hrest⟩ := List.forall_mem_cons.mp h
    have hprobe : value.isProbe = false := hvalue.isProbe_eq_false
    simp only [membersWithoutProbes, hprobe, withoutProbes_of_probeFree value hvalue,
      membersWithoutProbes_of_probeFree rest hrest, Bool.false_eq_true, if_false]
termination_by structural members => members

end

end RuleTemplate.Value
