import RuleTemplate.Address
import RuleTemplate.Proofs.Entries

/-!
Equality of values is an equivalence. Of two objects it asks that they have the same keys with
equal values under them, in whatever order, and of two lists that they are equal place by place.
Equal values are truthy alike, and every address leads in both of them to nothing or to equal
values.
-/
namespace RuleTemplate

/-- Equal numbers are identical, or the two zeros. -/
theorem Number.eq_or_zeros_of_equal {m n : Number} (h : m.equal n = true) :
    m = n ∨ ∃ sign, m = .double (.zero sign) ∧ n = .double (.zero !sign) := by
  cases m <;> cases n <;> simp only [equal, beq_iff_eq, Bool.false_eq_true] at h
  case int.int => exact .inl (h ▸ rfl)
  case double.double x y =>
    obtain ⟨negative, code, hfinite⟩ := x
    obtain ⟨negative', code', hfinite'⟩ := y
    simp only [Double.equal, Bool.and_eq_true, Bool.or_eq_true, beq_iff_eq] at h
    obtain ⟨rfl, hsign⟩ := h
    by_cases hsame : negative = negative'
    · exact .inl (by rw [hsame])
    · obtain rfl := hsign.resolve_left hsame
      have hother : negative' = !negative := Bool.eq_not.mpr (Ne.symm hsame)
      exact .inr ⟨negative, rfl, by rw [hother]; rfl⟩

namespace Value

/-- Induction on values: of the elements of a list and the members of an object the statement is
known. -/
@[elab_as_elim]
theorem induction {motive : Value → Prop} (null : motive null) (bool : ∀ b, motive (bool b))
    (number : ∀ n, motive (number n)) (string : ∀ s, motive (string s))
    (array : ∀ items, (∀ item ∈ items, motive item) → motive (array items))
    (object : ∀ members : Record, (∀ member ∈ members, motive member.2) → motive (object members))
    (probe : ∀ p, motive (probe p)) (v : Value) : motive v :=
  @Value.rec motive (fun items => ∀ item ∈ items, motive item)
    (fun members => ∀ member ∈ members, motive member.2) (fun member => motive member.2)
    null bool number string array object probe (by simp)
    (fun _ _ hitem hrest => List.forall_mem_cons.mpr ⟨hitem, hrest⟩) (by simp)
    (fun _ _ hmember hrest => List.forall_mem_cons.mpr ⟨hmember, hrest⟩) (fun _ _ h => h) v

inductive SameParts : Value → Value → Prop
  | null : SameParts null null
  | bool (b : Bool) : SameParts (bool b) (bool b)
  | number {m n : Number} : m.equal n = true → SameParts (number m) (number n)
  | string (s : String) : SameParts (string s) (string s)
  | array {xs ys : List Value} : List.Forall₂ (fun x y => x.equal y = true) xs ys →
      SameParts (array xs) (array ys)
  | object {ms ns : Record} : ms.length = ns.length →
      (∀ member ∈ ms, ∃ y, ns.get? member.1 = some y ∧ member.2.equal y = true) →
      SameParts (object ms) (object ns)
  | probe (p : Probe) : SameParts (probe p) (probe p)

theorem equalItems_iff {xs ys : List Value} :
    equalItems xs ys = true ↔ List.Forall₂ (fun x y => x.equal y = true) xs ys := by
  induction xs generalizing ys with
  | nil => cases ys <;> simp [equalItems]
  | cons x rest ih => cases ys <;> simp [equalItems, ih]

theorem equalMembers_iff {ms ns : Record} : equalMembers ms ns = true ↔
    ∀ member ∈ ms, ∃ y, ns.get? member.1 = some y ∧ member.2.equal y = true := by
  induction ms with
  | nil => simp [equalMembers]
  | cons member rest ih =>
    rw [equalMembers, Bool.and_eq_true, ih, List.forall_mem_cons]
    refine and_congr_left fun _ => ?_
    cases ns.get? member.1 <;> simp

/-- Equality is read off the parts of the two values. -/
theorem equal_iff_sameParts {a b : Value} : a.equal b = true ↔ SameParts a b := by
  constructor
  · intro h
    cases a <;> cases b <;> simp only [equal, Bool.false_eq_true, beq_iff_eq, Bool.and_eq_true,
      equalItems_iff, equalMembers_iff] at h
    case null.null => exact .null
    case bool.bool => exact h ▸ .bool _
    case number.number => exact .number h
    case string.string => exact h ▸ .string _
    case array.array => exact .array h
    case object.object => exact .object h.1 h.2
    case probe.probe => exact h ▸ .probe _
  · intro h
    cases h with
    | object hlength hmembers =>
      simp only [equal, hlength, beq_self_eq_true, equalMembers_iff.mpr hmembers, Bool.and_self]
    | array hitems => exact equalItems_iff.mpr hitems
    | number hnumber => exact hnumber
    | _ => simp [equal]

/-- Lists are equal place by place. -/
theorem equal_array_iff {xs ys : List Value} : (array xs).equal (array ys) = true ↔
    List.Forall₂ (fun x y => x.equal y = true) xs ys := equalItems_iff

theorem WellFormed.item {items : List Value} (h : (array items).WellFormed) :
    ∀ item ∈ items, item.WellFormed := wellFormedItems_iff.mp h

theorem WellFormed.distinct {members : Record} (h : (object members).WellFormed) :
    members.Distinct := h.1

theorem WellFormed.member {members : Record} (h : (object members).WellFormed) :
    ∀ member ∈ members, member.2.WellFormed := wellFormedMembers_iff.mp h.2

theorem WellFormed.get? {members : Record} (h : (object members).WellFormed) {key : String}
    {v : Value} (hv : members.get? key = some v) : v.WellFormed :=
  h.member _ (Entries.mem_of_get? hv)

abbrev EqualIfAny : Option Value → Option Value → Prop :=
  Option.Rel fun x y => x.equal y = true

theorem EqualIfAny.isSome_eq {x? y? : Option Value} (h : EqualIfAny x? y?) :
    x?.isSome = y?.isSome := by cases h <;> rfl

theorem EqualIfAny.exists_of_some {x? y? : Option Value} (h : EqualIfAny x? y?) {x : Value}
    (hx : x? = some x) : ∃ y, y? = some y ∧ x.equal y = true := by
  cases h with
  | none => simp at hx
  | some hequal => exact ⟨_, rfl, Option.some.inj hx ▸ hequal⟩

/-- Lists are equal if they have equal values at the same places. -/
theorem equal_array_iff_getElem? {xs ys : List Value} :
    (array xs).equal (array ys) = true ↔ ∀ i : Nat, EqualIfAny xs[i]? ys[i]? := by
  rw [equal_array_iff]
  constructor
  · intro h i
    induction h generalizing i with
    | nil => exact .none
    | cons hequal _ ih =>
      cases i with
      | zero => exact .some hequal
      | succ i => simpa using ih i
  · intro h
    induction xs generalizing ys with
    | nil =>
      cases ys with
      | nil => exact .nil
      | cons y rest => simpa using (h 0).isSome_eq
    | cons x rest ih =>
      cases ys with
      | nil => simpa using (h 0).isSome_eq
      | cons y others =>
        obtain ⟨z, hz, hequal⟩ := (h 0).exists_of_some rfl
        obtain rfl : y = z := Option.some.inj hz
        exact .cons hequal (ih fun i => by simpa using h (i + 1))

/-- Objects are equal if they have the same keys, with equal values under them. -/
theorem equal_object_iff {ms ns : Record} (hms : ms.Distinct) (hns : ns.Distinct) :
    (object ms).equal (object ns) = true ↔ ∀ key, EqualIfAny (ms.get? key) (ns.get? key) := by
  rw [equal_iff_sameParts]
  constructor
  · rintro (_ | _ | _ | _ | _ | ⟨hlength, hmembers⟩ | _) key
    have hsubset : ms.keys ⊆ ns.keys := by
      intro name hname
      obtain ⟨member, hmember, rfl⟩ := List.mem_map.mp hname
      obtain ⟨y, hy, -⟩ := hmembers member hmember
      exact List.mem_map.mpr ⟨_, Entries.mem_of_get? hy, rfl⟩
    have hkeys := Entries.keys_perm_of_subset hms hlength hsubset
    cases hx : ms.get? key with
    | none =>
      have hkey : key ∉ ns.keys := mt hkeys.mem_iff.mpr (Entries.get?_eq_none.mp hx)
      rw [Entries.get?_eq_none.mpr hkey]
      exact .none
    | some x =>
      obtain ⟨y, hy, hequal⟩ := hmembers _ (Entries.mem_of_get? hx)
      rw [hy]
      exact .some hequal
  · intro h
    have hkeys : List.Perm ms.keys ns.keys := by
      refine (List.perm_ext_iff_of_nodup hms hns).mpr fun key => not_iff_not.mp ?_
      rw [← Entries.get?_eq_none, ← Entries.get?_eq_none, ← Option.not_isSome_iff_eq_none,
        ← Option.not_isSome_iff_eq_none, (h key).isSome_eq]
    refine .object (by simpa [Entries.keys] using hkeys.length_eq) fun member hmember => ?_
    exact (h member.1).exists_of_some (Entries.get?_of_mem hms hmember)

theorem EqualIfAny.refl {x? : Option Value} (h : ∀ x ∈ x?, x.equal x = true) :
    EqualIfAny x? x? := by
  cases x? with
  | none => exact .none
  | some x => exact .some (h x rfl)

theorem EqualIfAny.symm {x? y? : Option Value} (h : EqualIfAny x? y?)
    (hswap : ∀ x ∈ x?, ∀ y ∈ y?, x.equal y = true → y.equal x = true) : EqualIfAny y? x? := by
  cases h with
  | none => exact .none
  | some hequal => exact .some (hswap _ rfl _ rfl hequal)

theorem EqualIfAny.trans {x? y? z? : Option Value} (h : EqualIfAny x? y?) (h' : EqualIfAny y? z?)
    (hjoin : ∀ x ∈ x?, ∀ y ∈ y?, ∀ z ∈ z?, x.equal y = true → y.equal z = true →
      x.equal z = true) : EqualIfAny x? z? := by
  cases h with
  | none => exact h'
  | some hequal =>
    cases h' with
    | some hequal' => exact .some (hjoin _ rfl _ rfl _ rfl hequal hequal')

theorem EqualIfAny.bind {x? y? : Option Value} {f g : Value → Option Value}
    (h : EqualIfAny x? y?)
    (hnext : ∀ x ∈ x?, ∀ y ∈ y?, x.equal y = true → EqualIfAny (f x) (g y)) :
    EqualIfAny (x?.bind f) (y?.bind g) := by
  cases h with
  | none => exact .none
  | some hequal => exact hnext _ rfl _ rfl hequal

theorem equal_refl {v : Value} (hv : v.WellFormed) : v.equal v = true := by
  induction v using Value.induction with
  | array items ih =>
    refine equal_array_iff_getElem?.mpr fun i => .refl fun item hitem => ?_
    have hmem := List.mem_of_getElem? hitem
    exact ih item hmem (hv.item item hmem)
  | object members ih =>
    refine (equal_object_iff hv.distinct hv.distinct).mpr fun key => .refl fun x hx => ?_
    exact ih _ (Entries.mem_of_get? hx) (hv.get? hx)
  | number n => exact n.equal_refl
  | _ => simp [equal]

theorem equal_symm {a b : Value} (ha : a.WellFormed) (hb : b.WellFormed)
    (h : a.equal b = true) : b.equal a = true := by
  induction a using Value.induction generalizing b with
  | array xs ih =>
    obtain _ | _ | _ | _ | hitems := equal_iff_sameParts.mp h
    refine equal_array_iff_getElem?.mpr fun i =>
      (equal_array_iff_getElem?.mp h i).symm fun x hx y hy => ?_
    have hx' := List.mem_of_getElem? hx
    exact ih x hx' (ha.item x hx') (hb.item y (List.mem_of_getElem? hy))
  | object ms ih =>
    obtain _ | _ | _ | _ | _ | hmembers := equal_iff_sameParts.mp h
    refine (equal_object_iff hb.distinct ha.distinct).mpr fun key =>
      ((equal_object_iff ha.distinct hb.distinct).mp h key).symm fun x hx y hy => ?_
    exact ih _ (Entries.mem_of_get? hx) (ha.get? hx) (hb.get? hy)
  | number m =>
    obtain _ | _ | hnumber := equal_iff_sameParts.mp h
    exact Number.equal_symm hnumber
  | _ =>
    cases equal_iff_sameParts.mp h
    exact h

theorem equal_trans {a b c : Value} (ha : a.WellFormed) (hb : b.WellFormed) (hc : c.WellFormed)
    (hab : a.equal b = true) (hbc : b.equal c = true) : a.equal c = true := by
  induction a using Value.induction generalizing b c with
  | array xs ih =>
    obtain _ | _ | _ | _ | _ := equal_iff_sameParts.mp hab
    obtain _ | _ | _ | _ | _ := equal_iff_sameParts.mp hbc
    refine equal_array_iff_getElem?.mpr fun i => (equal_array_iff_getElem?.mp hab i).trans
      (equal_array_iff_getElem?.mp hbc i) fun x hx y hy z hz => ?_
    have hx' := List.mem_of_getElem? hx
    exact ih x hx' (ha.item x hx') (hb.item y (List.mem_of_getElem? hy))
      (hc.item z (List.mem_of_getElem? hz))
  | object ms ih =>
    obtain _ | _ | _ | _ | _ | _ := equal_iff_sameParts.mp hab
    obtain _ | _ | _ | _ | _ | _ := equal_iff_sameParts.mp hbc
    refine (equal_object_iff ha.distinct hc.distinct).mpr fun key =>
      ((equal_object_iff ha.distinct hb.distinct).mp hab key).trans
        ((equal_object_iff hb.distinct hc.distinct).mp hbc key) fun x hx y hy z hz => ?_
    exact ih _ (Entries.mem_of_get? hx) (ha.get? hx) (hb.get? hy) (hc.get? hz)
  | number m =>
    obtain _ | _ | hmn := equal_iff_sameParts.mp hab
    obtain _ | _ | hnk := equal_iff_sameParts.mp hbc
    exact Number.equal_trans hmn hnk
  | _ =>
    cases equal_iff_sameParts.mp hab
    exact hbc

/-- The second value is the first one with the members of objects put in another order, in the
value itself or at any depth inside it. -/
inductive Reordered : Value → Value → Prop
  | refl (v : Value) : Reordered v v
  | trans {u v w : Value} : Reordered u v → Reordered v w → Reordered u w
  | members {ms ns : Record} : List.Perm ms ns → Reordered (object ms) (object ns)
  | member {v w : Value} (before after : Record) (key : String) : Reordered v w →
      Reordered (object (before ++ (key, v) :: after)) (object (before ++ (key, w) :: after))
  | item {v w : Value} (before after : List Value) : Reordered v w →
      Reordered (array (before ++ v :: after)) (array (before ++ w :: after))

theorem Reordered.wellFormed {a b : Value} (h : Reordered a b) (ha : a.WellFormed) :
    b.WellFormed := by
  induction h with
  | refl v => exact ha
  | trans _ _ ih ih' => exact ih' (ih ha)
  | members hperm =>
    refine ⟨(hperm.map Prod.fst).nodup_iff.mp ha.distinct, wellFormedMembers_iff.mpr ?_⟩
    exact fun member hmember => ha.member member (hperm.mem_iff.mpr hmember)
  | member before after key _ ih =>
    refine ⟨by simpa [Entries.Distinct, Entries.keys] using ha.distinct,
      wellFormedMembers_iff.mpr ?_⟩
    have hmembers := ha.member
    simp only [List.forall_mem_append, List.forall_mem_cons] at hmembers ⊢
    exact ⟨hmembers.1, ih hmembers.2.1, hmembers.2.2⟩
  | item before after _ ih =>
    have hitems := ha.item
    refine wellFormedItems_iff.mpr ?_
    simp only [List.forall_mem_append, List.forall_mem_cons] at hitems ⊢
    exact ⟨hitems.1, ih hitems.2.1, hitems.2.2⟩

/-- The order of the members of objects does not count, at any depth. -/
theorem Reordered.equal {a b : Value} (h : Reordered a b) (ha : a.WellFormed) :
    a.equal b = true := by
  induction h with
  | refl v => exact equal_refl ha
  | trans huv hvw ih ih' =>
    -- Transitivity takes a middle value without repeated keys.
    have hv := huv.wellFormed ha
    exact equal_trans ha hv (hvw.wellFormed hv) (ih ha) (ih' hv)
  | members hperm =>
    have hns := (Reordered.members hperm).wellFormed ha
    refine (equal_object_iff ha.distinct hns.distinct).mpr fun key => ?_
    rw [Entries.get?_of_perm ha.distinct hperm]
    exact .refl fun x hx => equal_refl (ha.get? hx)
  | member before after key hvw ih =>
    have hns := ((Reordered.member before after key hvw).wellFormed ha).distinct
    refine equal_iff_sameParts.mpr (.object (by simp) fun member hmember => ?_)
    have hsame (hmem : member ∈ before ++ (key, _) :: after) :
        ∃ y, Entries.get? (before ++ (key, _) :: after) member.1 = some y ∧
          member.2.equal y = true :=
      ⟨_, Entries.get?_of_mem hns hmem, equal_refl (ha.member member hmember)⟩
    rcases List.mem_append.mp hmember with hbefore | hrest
    · exact hsame (List.mem_append_left _ hbefore)
    rcases List.mem_cons.mp hrest with rfl | hafter
    · exact ⟨_, Entries.get?_of_mem hns (by simp), ih (ha.member _ hmember)⟩
    · exact hsame (List.mem_append_right _ (List.mem_cons_of_mem _ hafter))
  | item before after hvw ih =>
    have hitems := ha.item
    simp only [List.forall_mem_append, List.forall_mem_cons] at hitems
    have hsame {items : List Value} (h : ∀ item ∈ items, item.WellFormed) :
        List.Forall₂ (fun x y => x.equal y = true) items items :=
      List.forall₂_same.mpr fun item hitem => equal_refl (h item hitem)
    exact equal_array_iff.mpr (List.rel_append (hsame hitems.1)
      (.cons (ih hitems.2.1) (hsame hitems.2.2)))

/-- Equal values are truthy alike. -/
theorem isTruthy_of_equal {a b : Value} (h : a.equal b = true) : a.isTruthy = b.isTruthy := by
  cases equal_iff_sameParts.mp h with
  | number hnumber => rw [isTruthy, isTruthy, Number.isZero_eq_of_equal hnumber]
  | _ => rfl

/-- Equal values have equal parts under a segment. -/
theorem step_of_equal {a b : Value} (ha : a.WellFormed) (hb : b.WellFormed)
    (h : a.equal b = true) (segment : String) :
    EqualIfAny (Address.step a segment) (Address.step b segment) := by
  cases equal_iff_sameParts.mp h with
  | array =>
    cases hindex : Address.index? segment with
    | none => simp [Address.step, hindex]
    | some i => simpa [Address.step, hindex] using equal_array_iff_getElem?.mp h i
  | object => exact (equal_object_iff ha.distinct hb.distinct).mp h segment
  | _ => exact .none

theorem WellFormed.step {v w : Value} (hv : v.WellFormed) {segment : String}
    (h : Address.step v segment = some w) : w.WellFormed := by
  cases v with
  | array items =>
    obtain ⟨i, -, hitem⟩ := Option.bind_eq_some_iff.mp h
    exact hv.item w (List.mem_of_getElem? hitem)
  | object members => exact hv.get? h
  | _ => simp [Address.step] at h

/-- Segments lead in equal values to nothing or to equal values. -/
theorem follow_of_equal {a b : Value} (ha : a.WellFormed) (hb : b.WellFormed)
    (h : a.equal b = true) (path : List String) :
    EqualIfAny (Address.follow a path) (Address.follow b path) := by
  induction path generalizing a b with
  | nil => exact .some h
  | cons segment rest ih =>
    rw [Address.follow_cons, Address.follow_cons]
    exact (step_of_equal ha hb h segment).bind fun x hx y hy hequal =>
      ih (ha.step hx) (hb.step hy) hequal

/-- An address leads in equal values to nothing or to equal values. -/
theorem lookup_of_equal {a b : Value} (ha : a.WellFormed) (hb : b.WellFormed)
    (h : a.equal b = true) (path : String) :
    EqualIfAny (Address.lookup a path) (Address.lookup b path) :=
  follow_of_equal ha hb h (Address.segments path)

/-- Equality is an equivalence. The order of the members of objects does not count for it at any
depth, that of the elements of lists does. Equal values are truthy alike, and lead on every path
to nothing or to equal values. -/
theorem equal_congruence {a b c : Value} (ha : a.WellFormed) (hb : b.WellFormed)
    (hc : c.WellFormed) :
    a.equal a = true ∧
    (a.equal b = true → b.equal a = true) ∧
    (a.equal b = true → b.equal c = true → a.equal c = true) ∧
    (Reordered a b → a.equal b = true) ∧
    (∀ xs ys, a = array xs → b = array ys →
      (a.equal b = true ↔ List.Forall₂ (fun x y => x.equal y = true) xs ys)) ∧
    (a.equal b = true → a.isTruthy = b.isTruthy ∧
      ∀ path, EqualIfAny (Address.lookup a path) (Address.lookup b path)) := by
  refine ⟨equal_refl ha, equal_symm ha hb, equal_trans ha hb hc, fun h => h.equal ha, ?_, ?_⟩
  · rintro xs ys rfl rfl
    exact equal_array_iff
  · exact fun h => ⟨isTruthy_of_equal h, lookup_of_equal ha hb h⟩

def nested (zero : Bool) : Value :=
  object [("name", string "Ada"), ("tags", array [number (.int 1),
    object [("probe", probe ⟨0⟩), ("zero", number (.double (.zero zero)))]])]

def turned (zero : Bool) : Value :=
  object [("tags", array [number (.int 1),
      object [("zero", number (.double (.zero zero))), ("probe", probe ⟨0⟩)]]),
    ("name", string "Ada")]

theorem equal_congruence_turned :
    Reordered (nested false) (turned false) ∧ (nested false).equal (turned false) = true ∧
    (turned true).equal (nested false) = true ∧
    (∀ path, EqualIfAny (Address.lookup (nested false) path) (Address.lookup (turned true) path)) ∧
    (array [nested false, null]).equal (array [null, turned false]) = false := by
  have hnested (zero : Bool) : (nested zero).WellFormed := by
    simp [nested, WellFormed, WellFormedItems, WellFormedMembers, Entries.Distinct, Entries.keys]
  have hturned (zero : Bool) : (turned zero).WellFormed := by
    simp [turned, WellFormed, WellFormedItems, WellFormedMembers, Entries.Distinct, Entries.keys]
  have hswapped {m n : String × Value} : Reordered (object [m, n]) (object [n, m]) :=
    .members (.swap _ _ _)
  have hreordered : Reordered (nested false) (turned false) :=
    .trans hswapped (.member [] [_] "tags" (.item [_] [] hswapped))
  obtain ⟨-, -, htrans, hequal, -, -⟩ :=
    equal_congruence (hnested false) (hturned false) (hturned true)
  have hends := htrans (hequal hreordered) (by decide)
  obtain ⟨-, hsymm, -, -, -, hlookup⟩ :=
    equal_congruence (hnested false) (hturned true) (hturned true)
  obtain ⟨-, -, -, -, hplaces, -⟩ := equal_congruence (a := array [nested false, null])
    (b := array [null, turned false]) (c := null) ⟨hnested false, trivial, trivial⟩
    ⟨trivial, hturned false, trivial⟩ trivial
  refine ⟨hreordered, hequal hreordered, hsymm hends, (hlookup hends).2, ?_⟩
  rw [Bool.eq_false_iff, Ne, hplaces _ _ rfl rfl]
  rintro (_ | ⟨hfirst, -⟩)
  exact absurd hfirst (by decide)

end Value
end RuleTemplate
