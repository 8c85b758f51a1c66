import RuleTemplate.Memo
import RuleTemplate.Proofs.Json.Compact
import RuleTemplate.Proofs.Value.Probes

/-!
Memoization is faithful. The text of an argument record tells the record, except for its probes.
So a memoized probe answers each call as the inner probe has answered the first call with the
same record, and the inner probe is called for these first calls and for no others.
-/
namespace RuleTemplate

def SameCall (a b : Record) : Prop :=
  Value.membersWithoutProbes a = Value.membersWithoutProbes b

/-- Two records have one key if they are the same call, and only then. -/
theorem Cache.key_eq_iff {a b : Record} : key a = key b ↔ SameCall a b := by
  have htext : key a = key b ↔ (Value.object a).toJson = (Value.object b).toJson :=
    ⟨Json.compact_injective, congrArg Json.compact⟩
  rw [htext, Value.toJson_eq_iff, Value.withoutProbes, Value.withoutProbes, Value.object.injEq,
    SameCall]

instance : DecidableRel SameCall := fun _ _ => decidable_of_iff _ Cache.key_eq_iff

theorem SameCall.symm {a b : Record} (h : SameCall a b) : SameCall b a := Eq.symm h

theorem SameCall.trans {a b c : Record} (h : SameCall a b) (h' : SameCall b c) : SameCall a c :=
  Eq.trans h h'

/-- Records without probes are the same call only if they are identical. -/
theorem SameCall.eq {a b : Record} (h : SameCall a b) (ha : (Value.object a).ProbeFree)
    (hb : (Value.object b).ProbeFree) : a = b := by
  rwa [SameCall, Value.membersWithoutProbes_of_probeFree a ha.member,
    Value.membersWithoutProbes_of_probeFree b hb.member] at h

section

variable {σ : Type}

def callAll (machine : Record → σ → Value × σ) : List Record → σ → List Value × σ
  | [], s => ([], s)
  | args :: rest, s =>
    ((machine args s).1 :: (callAll machine rest (machine args s).2).1,
      (callAll machine rest (machine args s).2).2)

def recorded (machine : Record → σ → Value × σ) (args : Record) (s : List Record × σ) :
    Value × (List Record × σ) :=
  ((machine args s.2).1, (s.1 ++ [args], (machine args s.2).2))

theorem callAll_recorded (machine : Record → σ → Value × σ) (records called : List Record)
    (s : σ) : callAll (recorded machine) records (called, s) =
      ((callAll machine records s).1, (called ++ records, (callAll machine records s).2)) := by
  induction records generalizing called s with
  | nil => simp [callAll]
  | cons args rest ih => simp [callAll, recorded, ih]

/-- A machine whose answers are a function of the records answers by that function. -/
theorem callAll_eq_map {machine : Record → σ → Value × σ} {f : Record → Value}
    {records : List Record} (hf : ∀ args ∈ records, ∀ s, (machine args s).1 = f args) (s : σ) :
    (callAll machine records s).1 = records.map f := by
  induction records generalizing s with
  | nil => rfl
  | cons args rest ih =>
    obtain ⟨hargs, hrest⟩ := List.forall_mem_cons.mp hf
    rw [callAll, List.map_cons, hargs, ih hrest]

end

def firstCalls : List Record → List Record
  | [] => []
  | args :: rest => args :: (firstCalls rest).filter fun later => ¬SameCall args later

theorem firstCalls_filter {p : Record → Bool} (hp : ∀ a b, SameCall a b → p a = p b)
    (records : List Record) : firstCalls (records.filter p) = (firstCalls records).filter p := by
  induction records with
  | nil => rfl
  | cons args rest ih =>
    cases hargs : p args with
    | true =>
      rw [List.filter_cons_of_pos hargs, firstCalls, ih, firstCalls, List.filter_cons_of_pos hargs,
        List.filter_filter, List.filter_filter]
      simp only [Bool.and_comm]
    | false =>
      rw [List.filter_cons_of_neg (by simp [hargs]), ih, firstCalls,
        List.filter_cons_of_neg (by simp [hargs]), List.filter_filter]
      refine List.filter_congr fun later _ => ?_
      cases hlater : p later with
      | false => simp
      | true =>
        have hdifferent : ¬SameCall args later := fun hsame => by
          simp [hp _ _ hsame, hlater] at hargs
        simp [hdifferent]

def answerTo (calls : List (Record × Value)) (args : Record) : Option Value :=
  (calls.find? fun call => SameCall call.1 args).map Prod.snd

theorem mem_of_mem_firstCalls {records : List Record} {args : Record}
    (h : args ∈ firstCalls records) : args ∈ records := by
  induction records with
  | nil => simp [firstCalls] at h
  | cons first rest ih =>
    rcases List.mem_cons.mp h with rfl | hrest
    · exact List.mem_cons_self
    · exact List.mem_cons_of_mem _ (ih (List.mem_filter.mp hrest).1)

theorem exists_firstCall {records : List Record} {args : Record} (h : args ∈ records) :
    ∃ first ∈ firstCalls records, SameCall first args := by
  induction records with
  | nil => simp at h
  | cons first rest ih =>
    by_cases hsame : SameCall first args
    · exact ⟨first, List.mem_cons_self, hsame⟩
    · rcases List.mem_cons.mp h with rfl | hrest
      · exact absurd rfl hsame
      · obtain ⟨other, hother, hargs⟩ := ih hrest
        have hnew : ¬SameCall first other := fun hfirst => hsame (hfirst.trans hargs)
        exact ⟨other, List.mem_cons_of_mem _ (List.mem_filter.mpr ⟨hother, by simpa using hnew⟩),
          hargs⟩

theorem answerTo_cons (call : Record × Value) (calls : List (Record × Value)) (args : Record) :
    answerTo (call :: calls) args =
      if SameCall call.1 args then some call.2 else answerTo calls args := by
  by_cases h : SameCall call.1 args <;> simp [answerTo, h]

theorem answerTo_zip_map {calls : List Record} {args : Record} {f : Record → Value}
    (hf : ∀ call ∈ calls, SameCall call args → f call = f args)
    (hargs : ∃ call ∈ calls, SameCall call args) :
    answerTo (calls.zip (calls.map f)) args = some (f args) := by
  induction calls with
  | nil => simp at hargs
  | cons call rest ih =>
    obtain ⟨hcall, hrest⟩ := List.forall_mem_cons.mp hf
    rw [List.map_cons, List.zip_cons_cons, answerTo_cons]
    split
    · next hsame => rw [hcall hsame]
    · next hdifferent =>
      obtain ⟨other, hother, hsame⟩ := hargs
      rcases List.mem_cons.mp hother with rfl | hlater
      · exact absurd hsame hdifferent
      · exact ih hrest ⟨other, hlater, hsame⟩

section

variable {σ : Type} (inner : Record → σ → Value × σ)

theorem memoize_of_get? {cache : Cache} {args : Record} {kept : Value}
    (h : cache.get? (Cache.key args) = some kept) (s : σ) :
    memoize inner args (cache, s) = (kept, (cache, s)) := memoizeIn_of_get? h

theorem memoize_of_get?_eq_none {cache : Cache} {args : Record}
    (h : cache.get? (Cache.key args) = none) (s : σ) :
    memoize inner args (cache, s) = ((inner args s).1,
      (cache.insert (Cache.key args) (inner args s).1, (inner args s).2)) :=
  memoizeIn_of_get?_eq_none h

def newCalls (cache : Cache) (records : List Record) : List Record :=
  firstCalls (records.filter fun args => (cache.get? (Cache.key args)).isNone)

theorem newCalls_of_get? {cache : Cache} {args : Record} {kept : Value}
    (h : cache.get? (Cache.key args) = some kept) (rest : List Record) :
    newCalls cache (args :: rest) = newCalls cache rest := by
  rw [newCalls, List.filter_cons_of_neg (by simp [h]), newCalls]

/-- A call without an answer is the first one of its kind, and of the calls after it those are new
that are new once it has been answered. -/
theorem newCalls_of_get?_eq_none {cache : Cache} {args : Record}
    (h : cache.get? (Cache.key args) = none) (value : Value) (rest : List Record) :
    newCalls cache (args :: rest) =
      args :: newCalls (cache.insert (Cache.key args) value) rest := by
  have hsame (a b : Record) (hab : SameCall a b) :
      decide (¬SameCall args a) = decide (¬SameCall args b) := by
    rw [decide_eq_decide, not_iff_not]
    exact ⟨fun ha => ha.trans hab, fun hb => hb.trans hab.symm⟩
  rw [newCalls, List.filter_cons_of_pos (by simp [h]), firstCalls, ← firstCalls_filter hsame,
    newCalls, List.filter_filter]
  congr 2
  refine List.filter_congr fun later _ => ?_
  rw [Entries.get?_insert]
  by_cases hlater : Cache.key later = Cache.key args
  · have hsame : SameCall args later := Cache.key_eq_iff.mp hlater.symm
    simp [hlater, hsame]
  · have hdifferent : ¬SameCall args later := fun hsame => hlater (Cache.key_eq_iff.mpr hsame).symm
    simp [hlater, hdifferent]

/-- Whatever the cache holds at first, all calls are answered from what it holds at last, and that
is what it held and the answers to the new calls. The induction is on the calls, and each of them
either is answered or joins what is held. -/
theorem callAll_memoize (records : List Record) (cache : Cache) (s : σ) :
    ∃ last : Cache,
      (callAll (memoize inner) records (cache, s)).2 =
        (last, (callAll inner (newCalls cache records) s).2) ∧
      (callAll (memoize inner) records (cache, s)).1.map some =
        records.map (fun args => last.get? (Cache.key args)) ∧
      ∀ args, last.get? (Cache.key args) = (cache.get? (Cache.key args)).or
        (answerTo ((newCalls cache records).zip (callAll inner (newCalls cache records) s).1)
          args) := by
  induction records generalizing cache s with
  | nil => exact ⟨cache, rfl, rfl, fun args => by simp [newCalls, firstCalls, answerTo]⟩
  | cons args rest ih =>
    cases h : cache.get? (Cache.key args) with
    | some kept =>
      -- Answered from the cache: the state of the inner machine is as before.
      obtain ⟨last, hstate, hresults, hlast⟩ := ih cache s
      have hkept : last.get? (Cache.key args) = some kept := by rw [hlast, h, Option.some_or]
      rw [newCalls_of_get? h, callAll, memoize_of_get? inner h]
      exact ⟨last, hstate, by rw [List.map_cons, List.map_cons, hresults, hkept], hlast⟩
    | none =>
      -- A new call, whose result answers all later ones with the same key.
      obtain ⟨last, hstate, hresults, hlast⟩ :=
        ih (cache.insert (Cache.key args) (inner args s).1) (inner args s).2
      have hkept : last.get? (Cache.key args) = some (inner args s).1 := by
        rw [hlast, Entries.get?_insert, if_pos rfl, Option.some_or]
      rw [newCalls_of_get?_eq_none h (inner args s).1, callAll, callAll,
        memoize_of_get?_eq_none inner h]
      refine ⟨last, hstate, by rw [List.map_cons, List.map_cons, hresults, hkept], fun other => ?_⟩
      rw [List.zip_cons_cons, answerTo_cons]
      by_cases hsame : SameCall args other
      · rw [if_pos hsame, ← Cache.key_eq_iff.mpr hsame, hkept, h, Option.none_or]
      · have hkey : Cache.key other ≠ Cache.key args :=
          fun hkey => hsame (Cache.key_eq_iff.mp hkey.symm)
        rw [if_neg hsame, hlast, Entries.get?_insert, if_neg hkey]

theorem newCalls_empty (records : List Record) : newCalls [] records = firstCalls records := by
  simp [newCalls, Entries.get?]

/-- Records share an entry of the cache exactly if they are the same without their probes, so
records without probes do not share one unless they are identical. The inner probe is called for
the first calls with each record, in order and with their own records, and every call is answered
as the first one with the same record. A function of records without probes is not changed. The
inner probe is a machine with any state. -/
theorem memoize_faithful (records : List Record) (s : σ) :
    (∀ a b, Cache.key a = Cache.key b ↔ SameCall a b) ∧
    (∀ a b, (Value.object a).ProbeFree → (Value.object b).ProbeFree →
      Cache.key a = Cache.key b → a = b) ∧
    (callAll (memoize inner) records ([], s)).1.map some = records.map
      (answerTo ((firstCalls records).zip (callAll inner (firstCalls records) s).1)) ∧
    (callAll (memoize inner) records ([], s)).2.2 = (callAll inner (firstCalls records) s).2 ∧
    (callAll (memoize (recorded inner)) records ([], [], s)).2.2 =
      (firstCalls records, (callAll inner (firstCalls records) s).2) ∧
    ∀ f : Record → Value, (∀ args ∈ records, (Value.object args).ProbeFree) →
      (∀ args ∈ records, ∀ t, (inner args t).1 = f args) →
      (callAll (memoize inner) records ([], s)).1 = records.map f ∧
      (callAll inner records s).1 = records.map f := by
  obtain ⟨last, hstate, hresults, hlast⟩ := callAll_memoize inner records [] s
  obtain ⟨_, hrecorded, -, -⟩ := callAll_memoize (recorded inner) records [] ([], s)
  rw [newCalls_empty] at hstate hlast hrecorded
  have hanswers : (callAll (memoize inner) records ([], s)).1.map some = records.map
      (answerTo ((firstCalls records).zip (callAll inner (firstCalls records) s).1)) := by
    rw [hresults]
    exact List.map_congr_left fun args _ => by rw [hlast, Entries.get?_nil, Option.none_or]
  refine ⟨fun a b => Cache.key_eq_iff, fun a b ha hb hkey => (Cache.key_eq_iff.mp hkey).eq ha hb,
    hanswers, by rw [hstate], ?_, fun f hfree hf => ⟨?_, callAll_eq_map hf s⟩⟩
  · rw [hrecorded, callAll_recorded, List.nil_append]
  · have hfirst : ∀ args ∈ firstCalls records, ∀ t, (inner args t).1 = f args :=
      fun args hargs => hf args (mem_of_mem_firstCalls hargs)
    rw [callAll_eq_map hfirst] at hanswers
    refine List.map_injective_iff.mpr (Option.some_injective Value) ?_
    rw [hanswers, List.map_map]
    refine List.map_congr_left fun args hargs => ?_
    refine answerTo_zip_map (fun call hcall hsame => ?_) (exists_firstCall hargs)
    rw [hsame.eq (hfree call (mem_of_mem_firstCalls hcall)) (hfree args hargs)]

end

def countCalls (_ : Record) (calls : Nat) : Value × Nat :=
  (.number (.int (calls + 1)), calls + 1)

def echoCall (args : Record) (_ : Unit) : Value × Unit := (.object args, ())

def overlappingCalls : List Record := [
  [("n", .number (.int 1)), ("f", .probe ⟨0⟩)], [("n", .number (.int 1))],
  [("n", .array [.probe ⟨0⟩])], [("n", .array [.null])]]

def plainCalls : List Record := [[("n", .string "a")], [("n", .string "b")], [("n", .string "a")]]

theorem memoize_faithful_overlapping :
    (callAll (memoize (recorded countCalls)) overlappingCalls ([], [], 0)).2.2 =
      (firstCalls overlappingCalls, 2) ∧
    (firstCalls overlappingCalls).map List.length = [2, 1] ∧
    (callAll (memoize echoCall) plainCalls ([], ())).1 = plainCalls.map .object := by
  have hcount : (callAll countCalls (firstCalls overlappingCalls) 0).2 = 2 := by decide +kernel
  obtain ⟨-, -, -, -, hrecorded, -⟩ := memoize_faithful countCalls overlappingCalls 0
  obtain ⟨-, -, -, -, -, hfunction⟩ := memoize_faithful echoCall plainCalls ()
  have hfree : ∀ args ∈ plainCalls, (Value.object args).ProbeFree := by
    show ∀ args ∈ plainCalls, (Value.object args).ProbesIn fun _ => False
    simp [plainCalls]
  refine ⟨by rw [hrecorded, hcount], by decide +kernel, ?_⟩
  exact (hfunction .object hfree fun _ _ _ => rfl).1

end RuleTemplate
