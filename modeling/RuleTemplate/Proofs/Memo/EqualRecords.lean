import RuleTemplate.Proofs.Memo
import RuleTemplate.Proofs.Value.Equality

/-!
Which equal records a memoized probe takes for one. Its cache goes by the text of a record, and the
text has the members in their order and the zeros with their signs, neither of which counts for
equality. Equal records are identical exactly if the two agree at every path. So a call with a
record that is equal to an earlier one and written like it has the result of the earlier call, and
does not reach the inner probe. A call with a record that is written unlike all equal ones before
it reaches the inner probe once more.
-/
namespace RuleTemplate

namespace Entries

variable {α : Type}

/-- Distinct entries are their keys in order with the value of each. -/
theorem ext_of_keys_eq {entries others : Entries α} (h : entries.Distinct) (h' : others.Distinct)
    (hkeys : entries.keys = others.keys) (hget : ∀ key, entries.get? key = others.get? key) :
    entries = others := by
  have hread {entries : Entries α} (h : entries.Distinct) :
      entries.map (fun entry => (entry.1, some entry.2)) =
        entries.keys.map fun key => (key, entries.get? key) := by
    rw [keys, List.map_map]
    exact List.map_congr_left fun entry hentry => by simp [get?_of_mem h hentry]
  have hinjective : Function.Injective fun entry : String × α => (entry.1, some entry.2) := by
    rintro ⟨key, value⟩ ⟨key', value'⟩ heq
    simpa using heq
  refine List.map_injective_iff.mpr hinjective ?_
  rw [hread h, hread h', hkeys]
  exact List.map_congr_left fun key _ => by rw [hget]

end Entries

theorem Address.step_array (items : List Value) (i : Nat) :
    step (.array items) (String.ofList (Nat.toDigits 10 i)) = items[i]? := by
  have hdigits : (Nat.toDigits 10 i).all Char.isDigit = true :=
    List.all_eq_true.mpr (Text.isDigit_toDigits i)
  simp [step, index?, Nat.toDigits_ne_nil, hdigits, Text.digitsValue_toDigits]

namespace Value

open Address

/-- Objects at the same path have their members in the same order, and numbers are identical. -/
structure WrittenAlike (v w : Value) : Prop where
  order : ∀ path ms ns, follow v path = some (object ms) → follow w path = some (object ns) →
    Entries.keys ms = Entries.keys ns
  numbers : ∀ path m n, follow v path = some (number m) → follow w path = some (number n) → m = n

theorem WrittenAlike.refl (v : Value) : WrittenAlike v v := by
  constructor
  · intro path ms ns hms hns
    rw [hms, Option.some.injEq, object.injEq] at hns
    rw [hns]
  · intro path m n hm hn
    simpa [hm] using hn

theorem WrittenAlike.step {v w x y : Value} (h : WrittenAlike v w) {segment : String}
    (hx : step v segment = some x) (hy : step w segment = some y) : WrittenAlike x y := by
  have hfrom (path : List String) : follow v (segment :: path) = follow x path ∧
      follow w (segment :: path) = follow y path := by
    rw [follow_cons, follow_cons, hx, hy]
    exact ⟨rfl, rfl⟩
  constructor
  · intro path ms ns hms hns
    exact h.order (segment :: path) ms ns ((hfrom path).1.trans hms) ((hfrom path).2.trans hns)
  · intro path m n hm hn
    exact h.numbers (segment :: path) m n ((hfrom path).1.trans hm) ((hfrom path).2.trans hn)

theorem EqualIfAny.eq {x? y? : Option Value} (h : EqualIfAny x? y?)
    (hsame : ∀ x ∈ x?, ∀ y ∈ y?, x.equal y = true → x = y) : x? = y? := by
  cases h with
  | none => rfl
  | some hequal => rw [hsame _ rfl _ rfl hequal]

/-- Equal values that are written alike are identical. -/
theorem eq_of_writtenAlike {v w : Value} (hv : v.WellFormed) (hw : w.WellFormed)
    (hequal : v.equal w = true) (h : WrittenAlike v w) : v = w := by
  induction v using Value.induction generalizing w with
  | array xs ih =>
    obtain _ | _ | _ | _ | @⟨_, ys, -⟩ := equal_iff_sameParts.mp hequal
    refine congrArg array (List.ext_getElem? fun i =>
      (equal_array_iff_getElem?.mp hequal i).eq fun x hx y hy hxy => ?_)
    have hx' := List.mem_of_getElem? hx
    exact ih x hx' (hv.item x hx') (hw.item y (List.mem_of_getElem? hy)) hxy
      (h.step ((step_array xs i).trans hx) ((step_array ys i).trans hy))
  | object ms ih =>
    obtain _ | _ | _ | _ | _ | @⟨_, ns, -, -⟩ := equal_iff_sameParts.mp hequal
    refine congrArg object (Entries.ext_of_keys_eq hv.distinct hw.distinct
      (h.order [] ms ns rfl rfl) fun key =>
        ((equal_object_iff hv.distinct hw.distinct).mp hequal key).eq fun x hx y hy hxy => ?_)
    exact ih _ (Entries.mem_of_get? hx) (hv.get? hx) (hw.get? hy) hxy (h.step hx hy)
  | number m =>
    obtain _ | _ | _ := equal_iff_sameParts.mp hequal
    exact congrArg number (h.numbers [] _ _ rfl rfl)
  | _ =>
    cases equal_iff_sameParts.mp hequal
    rfl

theorem eq_iff_writtenAlike {v w : Value} (hv : v.WellFormed) (hw : w.WellFormed)
    (hequal : v.equal w = true) : v = w ↔ WrittenAlike v w :=
  ⟨fun h => h ▸ .refl v, eq_of_writtenAlike hv hw hequal⟩

end Value

section

variable {σ : Type}

theorem callAll_append (machine : Record → σ → Value × σ) (records others : List Record) (s : σ) :
    (callAll machine (records ++ others) s).2 =
      (callAll machine others (callAll machine records s).2).2 := by
  induction records generalizing s with
  | nil => rfl
  | cons args rest ih => exact ih (machine args s).2

variable (inner : Record → σ → Value × σ)

/-- The answer to a call is kept. -/
theorem get?_memoize (args : Record) (state : Cache × σ) :
    (memoize inner args state).2.1.get? (Cache.key args) = some (memoize inner args state).1 := by
  obtain ⟨cache, s⟩ := state
  cases h : cache.get? (Cache.key args) with
  | some kept => rw [memoize_of_get? inner h, h]
  | none => rw [memoize_of_get?_eq_none inner h, Entries.get?_insert, if_pos rfl]

/-- Once a call has been answered, the same call has the same answer and changes nothing, whatever
is called between the two. -/
theorem memoize_again (before between : List Record) (args : Record) (s : σ) :
    memoize inner args (callAll (memoize inner) (before ++ args :: between) ([], s)).2 =
      ((memoize inner args (callAll (memoize inner) before ([], s)).2).1,
        (callAll (memoize inner) (before ++ args :: between) ([], s)).2) := by
  have hkept := get?_memoize inner args (callAll (memoize inner) before ([], s)).2
  obtain ⟨last, hstate, -, hlast⟩ := callAll_memoize inner between
    (memoize inner args (callAll (memoize inner) before ([], s)).2).2.1
    (memoize inner args (callAll (memoize inner) before ([], s)).2).2.2
  have hcalls : (callAll (memoize inner) (before ++ args :: between) ([], s)).2 = (last, _) :=
    (callAll_append _ _ _ _).trans hstate
  rw [hcalls, memoize_of_get? inner (by rw [hlast, hkept, Option.some_or])]

/-- A call that is not the same as any before it reaches the inner probe. -/
theorem memoize_anew {before : List Record} {args : Record}
    (h : ∀ earlier ∈ before, ¬SameCall earlier args) (s : σ) :
    let state := (callAll (memoize inner) before ([], s)).2
    (memoize inner args state).1 = (inner args state.2).1 ∧
    (memoize inner args state).2.2 = (inner args state.2).2 := by
  obtain ⟨last, hstate, -, hlast⟩ := callAll_memoize inner before [] s
  have hnone : last.get? (Cache.key args) = none := by
    rw [hlast, newCalls_empty, Entries.get?_nil, Option.none_or, answerTo, Option.map_eq_none_iff,
      List.find?_eq_none]
    intro call hcall
    simpa using h call.1 (mem_of_mem_firstCalls (List.of_mem_zip hcall).1)
  rw [hstate]
  intro state
  rw [memoize_of_get?_eq_none inner hnone]
  exact ⟨rfl, rfl⟩

/-- Equal records without probes are identical exactly if they are written alike. A call with a
record that is equal to an earlier one and written like it has the result of the earlier call, and
the inner probe is not called. If none of the equal ones before it is written like it, the inner
probe is called again. -/
theorem memoize_equal_records (before between : List Record) {earlier later : Record}
    (hformed : ∀ args ∈ before ++ earlier :: between ++ [later], (Value.object args).WellFormed)
    (hfree : ∀ args ∈ before ++ earlier :: between ++ [later], (Value.object args).ProbeFree)
    (hequal : Value.equalRecords earlier later = true) (s : σ) :
    let first := (callAll (memoize inner) before ([], s)).2
    let state := (callAll (memoize inner) (before ++ earlier :: between) ([], s)).2
    (earlier = later ↔ Value.WrittenAlike (.object earlier) (.object later)) ∧
    (Value.WrittenAlike (.object earlier) (.object later) →
      memoize inner later state = ((memoize inner earlier first).1, state)) ∧
    ((∀ args ∈ before ++ earlier :: between, Value.equalRecords args later = true →
        ¬Value.WrittenAlike (.object args) (.object later)) →
      (memoize inner later state).1 = (inner later state.2).1 ∧
      (memoize inner later state).2.2 = (inner later state.2).2) := by
  intro first state
  have hwritten : earlier = later ↔ Value.WrittenAlike (.object earlier) (.object later) := by
    rw [← Value.eq_iff_writtenAlike (hformed earlier (by simp)) (hformed later (by simp)) hequal,
      Value.object.injEq]
  refine ⟨hwritten, fun halike => ?_, fun hunlike =>
    memoize_anew inner (fun args hargs hsame => ?_) s⟩
  · obtain rfl := hwritten.mpr halike
    exact memoize_again inner before between earlier s
  · have hmem : args ∈ before ++ earlier :: between ++ [later] := List.mem_append_left _ hargs
    obtain rfl := hsame.eq (hfree args hmem) (hfree later (by simp))
    exact hunlike args hargs (Value.equal_refl (hformed args hmem)) (.refl _)

end

def point (x y : Int) : Record := [("x", .number (.int x)), ("y", .number (.int y))]

def turnedPoint (x y : Int) : Record := [("y", .number (.int y)), ("x", .number (.int x))]

theorem memoize_equal_records_points :
    let first := (callAll (memoize countCalls) [turnedPoint 1 2] ([], 0)).2
    let state := (callAll (memoize countCalls) [turnedPoint 1 2, point 1 2, point 2 2] ([], 0)).2
    memoize countCalls (point 1 2) state = ((memoize countCalls (point 1 2) first).1, state) ∧
    (memoize countCalls (turnedPoint 1 2)
      (callAll (memoize countCalls) [point 1 2] ([], 0)).2).1 = .number (.int 2) := by
  have hpoint (x y : Int) :
      (Value.object (point x y)).WellFormed ∧ (Value.object (turnedPoint x y)).WellFormed := by
    simp [turnedPoint, point, Value.WellFormed, Value.WellFormedMembers, Entries.Distinct,
      Entries.keys]
  have hfree (x y : Int) :
      (Value.object (point x y)).ProbeFree ∧ (Value.object (turnedPoint x y)).ProbeFree := by
    show (Value.object (point x y)).ProbesIn (fun _ => False) ∧
      (Value.object (turnedPoint x y)).ProbesIn fun _ => False
    simp [turnedPoint, point, -Prod.forall]
  have hpoints : Value.equalRecords (point 1 2) (point 1 2) = true := by decide
  have hturned : Value.equalRecords (point 1 2) (turnedPoint 1 2) = true := by decide
  obtain ⟨hsame, hreused, -⟩ := memoize_equal_records countCalls [turnedPoint 1 2] [point 2 2]
    (by simp [hpoint]) (by simp [hfree]) hpoints 0
  obtain ⟨-, -, hanew⟩ := memoize_equal_records countCalls [] []
    (by simp [hpoint]) (by simp [hfree]) hturned 0
  refine ⟨hreused (hsame.mp rfl), (hanew ?_).1⟩
  intro args hargs _ halike
  obtain rfl := List.mem_singleton.mp hargs
  exact absurd (halike.order [] _ _ rfl rfl) (by decide)

/-- Two equal records are two calls, and their results differ. -/
theorem not_reused_of_order :
    Value.equalRecords (point 1 2) (turnedPoint 1 2) = true ∧
    (callAll (memoize (recorded countCalls)) [point 1 2, turnedPoint 1 2] ([], [], 0)).2.2 =
      ([point 1 2, turnedPoint 1 2], 2) ∧
    (callAll (memoize countCalls) [point 1 2, turnedPoint 1 2] ([], 0)).1 =
      [.number (.int 1), .number (.int 2)] := by
  exact ⟨by decide, rfl, rfl⟩

end RuleTemplate
