import RuleTemplate.Proofs.Value.Equality
import RuleTemplate.Proofs.Value.Probes

/-!
A document, read as a value and written again, is the same document. A value that is written as a
document and read again has lost its probes and nothing else. Look-ups commute with the loss: a
path leads to what is left of the thing that it led to. Where that was a probe, it leads to nothing
if an object held it and to null otherwise, so the elements of a list keep their places.
-/
namespace RuleTemplate.Value

open Address

theorem isProbe_ofJson (j : Json) : (ofJson j).isProbe = false := by
  cases j <;> rfl

mutual

theorem toJson_ofJson : ∀ j : Json, (ofJson j).toJson = j
  | .null => rfl
  | .bool _ => rfl
  | .number _ => rfl
  | .string _ => rfl
  | .array items => by simp only [ofJson, toJson, itemsToJson_itemsOfJson items]
  | .object members => by simp only [ofJson, toJson, membersToJson_membersOfJson members]
termination_by structural j => j

theorem itemsToJson_itemsOfJson :
    ∀ items : List Json, itemsToJson (itemsOfJson items) = items
  | [] => rfl
  | item :: rest => by
    simp only [itemsOfJson, itemsToJson, toJson_ofJson item, itemsToJson_itemsOfJson rest]
termination_by structural items => items

theorem membersToJson_membersOfJson :
    ∀ members : List (String × Json), membersToJson (membersOfJson members) = members
  | [] => rfl
  | (key, value) :: rest => by
    simp only [membersOfJson, membersToJson, isProbe_ofJson value, toJson_ofJson value,
      membersToJson_membersOfJson rest, Bool.false_eq_true, if_false]
termination_by structural members => members

end

theorem itemsWithoutProbes_eq_map (items : List Value) :
    itemsWithoutProbes items = items.map withoutProbes := by
  induction items with
  | nil => rfl
  | cons item rest ih => rw [itemsWithoutProbes, ih, List.map_cons]

theorem mem_membersWithoutProbes {members : Record} {member : String × Value}
    (h : member ∈ membersWithoutProbes members) :
    ∃ v, (member.1, v) ∈ members ∧ member.2 = v.withoutProbes := by
  induction members with
  | nil => simp [membersWithoutProbes] at h
  | cons first rest ih =>
    obtain ⟨key, value⟩ := first
    rw [membersWithoutProbes] at h
    split at h
    · obtain ⟨v, hv, heq⟩ := ih h
      exact ⟨v, List.mem_cons_of_mem _ hv, heq⟩
    · rcases List.mem_cons.mp h with rfl | hrest
      · exact ⟨value, List.mem_cons_self, rfl⟩
      · obtain ⟨v, hv, heq⟩ := ih hrest
        exact ⟨v, List.mem_cons_of_mem _ hv, heq⟩

/-- No probe is left. -/
theorem probeFree_withoutProbes (v : Value) : v.withoutProbes.ProbeFree := by
  induction v using Value.induction with
  | array items ih =>
    rw [withoutProbes, itemsWithoutProbes_eq_map]
    refine probesIn_array_iff.mpr fun item hitem => ?_
    obtain ⟨original, horiginal, rfl⟩ := List.mem_map.mp hitem
    exact ih original horiginal
  | object members ih =>
    refine probesIn_object_iff.mpr fun member hmember => ?_
    obtain ⟨original, horiginal, heq⟩ := mem_membersWithoutProbes hmember
    rw [heq]
    exact ih _ horiginal
  | _ => exact fun _ hpart => by cases hpart

theorem withoutProbes_eq_iff {v : Value} : v.withoutProbes = v ↔ v.ProbeFree :=
  ⟨fun h => h ▸ probeFree_withoutProbes v, withoutProbes_of_probeFree v⟩

/-- An object keeps the members that are no probes. -/
theorem get?_membersWithoutProbes {members : Record} (h : members.Distinct) (key : String) :
    Entries.get? (membersWithoutProbes members) key =
      (members.get? key).bind fun v => if v.isProbe then none else some v.withoutProbes := by
  induction members with
  | nil => rfl
  | cons member rest ih =>
    obtain ⟨name, value⟩ := member
    obtain ⟨hnew, hrest⟩ := List.nodup_cons.mp h
    have hkept := ih hrest
    rw [Entries.get?_cons, membersWithoutProbes]
    by_cases hkey : key = name
    · -- the name stands nowhere else, so a dropped member leaves nothing under it
      have hnone : Entries.get? rest key = none := Entries.get?_eq_none.mpr (hkey ▸ hnew)
      rw [hnone, Option.bind_none] at hkept
      rw [if_pos hkey, Option.bind_some]
      split
      · exact hkept
      · rw [Entries.get?_cons, if_pos hkey]
    · rw [if_neg hkey]
      split
      · exact hkept
      · rw [Entries.get?_cons, if_neg hkey, hkept]

/-- What is under a segment of a value without its probes: of an object what it has kept, of a
list what is left of the element at the same place. -/
theorem step_withoutProbes {v : Value} (hv : v.WellFormed) (segment : String) :
    step v.withoutProbes segment = (step v segment).bind fun w =>
      if w.isProbe ∧ v.object?.isSome then none else some w.withoutProbes := by
  cases v with
  | object members =>
    rw [withoutProbes, step, get?_membersWithoutProbes hv.distinct]
    simp [step, object?]
  | array items =>
    rw [withoutProbes, itemsWithoutProbes_eq_map]
    cases hindex : index? segment with
    | none => simp [step, hindex]
    | some i => cases hitem : items[i]? <;> simp [step, hindex, hitem, object?]
  | _ => rfl

theorem step_withoutProbes_of_not_isProbe {v w : Value} (hv : v.WellFormed) {segment : String}
    (h : step v segment = some w) (hw : w.isProbe = false) :
    step v.withoutProbes segment = some w.withoutProbes := by
  rw [step_withoutProbes hv, h, Option.bind_some, if_neg (by simp [hw])]

/-- Nothing stands under a probe. -/
theorem eq_nil_of_follow_probe {p : Probe} {path : List String} {w : Value}
    (h : follow (probe p) path = some w) : path = [] := by
  cases path with
  | nil => rfl
  | cons segment rest => simp [follow_cons, step] at h

theorem follow_withoutProbes {v w : Value} (hv : v.WellFormed) {path : List String}
    (h : follow v path = some w) (hw : w.isProbe = false) :
    follow v.withoutProbes path = some w.withoutProbes := by
  induction path generalizing v with
  | nil =>
    obtain rfl := Option.some.inj h
    rfl
  | cons segment rest ih =>
    rw [follow_cons, Option.bind_eq_some_iff] at h
    obtain ⟨next, hstep, hrest⟩ := h
    have hnext : next.isProbe = false := by
      cases next with
      | probe p =>
        -- the path would end at the probe, which it does not
        obtain rfl := eq_nil_of_follow_probe hrest
        exact Option.some.inj hrest ▸ hw
      | _ => rfl
    rw [follow_cons, step_withoutProbes_of_not_isProbe hv hstep hnext, Option.bind_some]
    exact ih (hv.step hstep) hrest

theorem follow_withoutProbes_eq_none {v : Value} (hv : v.WellFormed) {path : List String}
    (h : follow v path = none) : follow v.withoutProbes path = none := by
  induction path generalizing v with
  | nil => simp [follow_nil] at h
  | cons segment rest ih =>
    rw [follow_cons] at h ⊢
    rw [step_withoutProbes hv]
    cases hstep : step v segment with
    | none => rfl
    | some next =>
      rw [hstep, Option.bind_some] at h
      rw [Option.bind_some]
      split
      · rfl
      · exact ih (hv.step hstep) h

theorem WellFormed.follow {v w : Value} (hv : v.WellFormed) {path : List String}
    (h : follow v path = some w) : w.WellFormed := by
  induction path generalizing v with
  | nil => exact Option.some.inj h ▸ hv
  | cons segment rest ih =>
    rw [follow_cons, Option.bind_eq_some_iff] at h
    obtain ⟨next, hstep, hrest⟩ := h
    exact ih (hv.step hstep) hrest

theorem follow_concat (v : Value) (path : List String) (segment : String) :
    follow v (path ++ [segment]) = (follow v path).bind (step · segment) := by
  have hlast (w : Value) : follow w [segment] = step w segment := by
    rw [follow_cons]
    cases step w segment <;> rfl
  rw [follow_append]
  simp only [hlast]

/-- What a path that led to a probe leads to: if it names a part of a value, the value is an object
and nothing is left of the probe, or it is a list and null is left. -/
theorem follow_withoutProbes_probe {v : Value} (hv : v.WellFormed) {path : List String} {p : Probe}
    (h : follow v path = some (probe p)) :
    (path = [] ∧ follow v.withoutProbes path = some null) ∨
    ∃ front last, path = front ++ [last] ∧
      ((∃ members, follow v front = some (object members) ∧
          follow v.withoutProbes path = none) ∨
        ∃ items, follow v front = some (array items) ∧
          follow v.withoutProbes path = some null) := by
  rcases List.eq_nil_or_concat' path with rfl | ⟨front, last, rfl⟩
  · obtain rfl := Option.some.inj h
    exact .inl ⟨rfl, rfl⟩
  · obtain ⟨holder, hholder, hstep⟩ := Option.bind_eq_some_iff.mp (follow_concat v front last ▸ h)
    have hformed := hv.follow hholder
    refine .inr ⟨front, last, rfl, ?_⟩
    cases holder with
    | object members =>
      refine .inl ⟨members, hholder, ?_⟩
      rw [follow_concat, follow_withoutProbes hv hholder rfl, Option.bind_some,
        step_withoutProbes hformed, hstep]
      rfl
    | array items =>
      refine .inr ⟨items, hholder, ?_⟩
      rw [follow_concat, follow_withoutProbes hv hholder rfl, Option.bind_some,
        step_withoutProbes hformed, hstep]
      rfl
    | _ => simp [step] at hstep

/-- A document is the same after it has been read as a value and written again, and a value that
has been written as a document and read again is the value without its probes. That is the value
itself if no probe stands in it, and only then. A path leads to nothing where it led to nothing,
and otherwise to what is left of the thing that it led to. Of a probe nothing is left as a member of
an object; as the root or as an element of a list it has become null. So the elements of a list
keep their places. -/
theorem document_faithful :
    (∀ j : Json, (ofJson j).toJson = j) ∧
    (∀ v : Value, ofJson v.toJson = v.withoutProbes ∧ v.withoutProbes.ProbeFree ∧
      (ofJson v.toJson = v ↔ v.ProbeFree)) ∧
    ∀ v : Value, v.WellFormed → ∀ path : String,
      (lookup v path = none → lookup v.withoutProbes path = none) ∧
      (∀ w, lookup v path = some w → w.isProbe = false →
        lookup v.withoutProbes path = some w.withoutProbes) ∧
      (∀ p, lookup v path = some (probe p) →
        (segments path = [] ∧ lookup v.withoutProbes path = some null) ∨
        ∃ front last, segments path = front ++ [last] ∧
          ((∃ members, follow v front = some (object members) ∧
              lookup v.withoutProbes path = none) ∨
            ∃ items, follow v front = some (array items) ∧
              lookup v.withoutProbes path = some null)) ∧
      ∀ items, lookup v path = some (array items) →
        lookup v.withoutProbes path = some (array (items.map withoutProbes)) := by
  refine ⟨toJson_ofJson, fun v => ⟨ofJson_toJson v, probeFree_withoutProbes v, ?_⟩,
    fun v hv path => ⟨follow_withoutProbes_eq_none hv, fun w => follow_withoutProbes hv,
      fun p => follow_withoutProbes_probe hv, fun items hitems => ?_⟩⟩
  · rw [ofJson_toJson, withoutProbes_eq_iff]
  · have hkept := follow_withoutProbes hv hitems rfl
    rwa [withoutProbes, itemsWithoutProbes_eq_map] at hkept

def offered : Value :=
  object [("@svc", object [("echo", probe ⟨0⟩),
    ("steps", array [probe ⟨0⟩, object [("run", probe ⟨1⟩), ("name", string "build")]])])]

theorem document_faithful_offered :
    offered.WellFormed ∧
    lookup offered.withoutProbes "@svc.missing[0]" = none ∧
    lookup offered.withoutProbes "@svc.steps[1].name" = some (string "build") ∧
    lookup offered.withoutProbes "@svc.echo" = none ∧
    lookup offered.withoutProbes "@svc.steps[0]" = some null := by
  have hformed : offered.WellFormed := by
    simp [offered, WellFormed, WellFormedItems, WellFormedMembers, Entries.Distinct, Entries.keys]
  obtain ⟨-, -, hlookup⟩ := document_faithful
  refine ⟨hformed, (hlookup offered hformed "@svc.missing[0]").1 rfl,
    (hlookup offered hformed "@svc.steps[1].name").2.1 _ rfl rfl, ?_, ?_⟩
  · obtain ⟨hroot, -⟩ | ⟨front, last, hpath, ⟨-, -, hnone⟩ | ⟨items, hholder, -⟩⟩ :=
      (hlookup offered hformed "@svc.echo").2.2.1 ⟨0⟩ rfl
    · exact absurd hroot (by decide)
    · exact hnone
    · have hsplit : ["@svc"] ++ ["echo"] = front ++ [last] := hpath
      obtain ⟨rfl, -⟩ := List.append_inj' hsplit rfl
      simp [offered, follow_cons, follow_nil, step, Entries.get?] at hholder
  · obtain ⟨hroot, -⟩ | ⟨front, last, hpath, ⟨members, hholder, -⟩ | ⟨-, -, hnull⟩⟩ :=
      (hlookup offered hformed "@svc.steps[0]").2.2.1 ⟨0⟩ rfl
    · exact absurd hroot (by decide)
    · have hsplit : ["@svc", "steps"] ++ ["0"] = front ++ [last] := hpath
      obtain ⟨rfl, -⟩ := List.append_inj' hsplit rfl
      simp [offered, follow_cons, follow_nil, step, Entries.get?] at hholder
    · exact hnull

end RuleTemplate.Value
