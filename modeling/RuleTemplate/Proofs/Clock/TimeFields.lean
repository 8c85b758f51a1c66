import RuleTemplate.CommandLine.Run
import RuleTemplate.Proofs.Criterion.Canonical
import RuleTemplate.Proofs.Resolution.AddressChain
import RuleTemplate.Proofs.Resolution.Discipline
import RuleTemplate.Proofs.Store.History

/-!
The two ways to read the time. The namespace of a moment holds the time fields, and its probe
builds them anew and lays the arguments of the call over them. Where no argument has the name of
a field, a call clause that asks for the field and a lookup of its address come to the same.
-/
namespace RuleTemplate

namespace Clock

def fieldNames : List String := ["hours", "minutes", "meridiem", "weekday", "weekend", "part"]

theorem keys_timeFields (m : Moment) : (timeFields m).keys = fieldNames := rfl

theorem probeName_notMem_fieldNames : probeName ∉ fieldNames := by decide

/-- The probe stands after the time fields. -/
theorem keys_dateNamespace (m : Moment) (probe : Probe) :
    (dateNamespace m probe).keys = fieldNames ++ [probeName] := by
  rw [dateNamespace, Entries.keys_insert, keys_timeFields, if_neg probeName_notMem_fieldNames]

theorem get?_dateNamespace (m : Moment) (probe : Probe) {field : String}
    (h : field ∈ fieldNames) : (dateNamespace m probe).get? field = (timeFields m).get? field := by
  have hne : field ≠ probeName := fun heq => probeName_notMem_fieldNames (heq ▸ h)
  rw [dateNamespace, Entries.get?_insert, if_neg hne]

/-- The values of time fields are literals and not null. -/
theorem literal_of_mem_timeFields {m : Moment} {entry : String × Value}
    (h : entry ∈ timeFields m) : entry.2.isLiteral = true ∧ entry.2.isNull = false := by
  have hmeridiem : hasSigil (if m.hour < 12 then "am" else "pm") = false := by
    split <;> decide
  have hweekday : hasSigil m.weekday.name = false := by
    cases m.weekday <;> decide
  have hpart : hasSigil (partOfDay m.hour) = false := by
    unfold partOfDay
    repeat' split
    all_goals decide
  have htext {text : String} (h : hasSigil text = false) :
      (Value.string text).isLiteral = true ∧ (Value.string text).isNull = false := by
    simp [Value.isLiteral, Value.isNull, h]
  simp only [timeFields, List.mem_cons, List.not_mem_nil, or_false] at h
  rcases h with rfl | rfl | rfl | rfl | rfl | rfl
  · exact ⟨rfl, rfl⟩
  · exact ⟨rfl, rfl⟩
  · exact htext hmeridiem
  · exact htext hweekday
  · exact ⟨rfl, rfl⟩
  · exact htext hpart

theorem exists_timeField (m : Moment) {field : String} (h : field ∈ fieldNames) :
    ∃ value, (timeFields m).get? field = some value := by
  cases hvalue : (timeFields m).get? field with
  | none => exact absurd h (Entries.get?_eq_none.mp hvalue)
  | some value => exact ⟨value, rfl⟩

/-- The path of a field is the field. -/
theorem segments_field {field : String} (h : field ∈ fieldNames) :
    Address.segments ("." ++ field) = [field] ∧
      Address.segments (namespaceName ++ "." ++ field) = [namespaceName, field] := by
  unfold fieldNames at h
  simp only [List.mem_cons, List.not_mem_nil, or_false] at h
  rcases h with rfl | rfl | rfl | rfl | rfl | rfl <;> decide +kernel

/-- A field that no argument names is in the record what it is in the namespace. -/
theorem get?_getTime_of_notMem (m : Moment) (probe : Probe) {args : Record} {field : String}
    (hfield : field ∈ fieldNames) (hargs : field ∉ args.keys) :
    (Entries.insertAll (timeFields m) args).get? field = (dateNamespace m probe).get? field := by
  have hreverse : field ∉ Entries.keys args.reverse := by
    simpa [Entries.keys] using hargs
  rw [Entries.get?_insertAll, Entries.get?_eq_none.mpr hreverse, Option.none_or,
    get?_dateNamespace m probe hfield]

def callText (args field matcher : String) : String :=
  namespaceName ++ "::" ++ probeName ++ "[" ++ args ++ "]." ++ field ++ ":" ++ matcher

def callSpec (args field matcher : String) : CallSpec where
  name := probeName
  args := CallSpec.parseArgs args.toList
  property := "." ++ field
  matcher := matcher

theorem parse_callText {args field : String} (hargs : ']' ∉ args.toList)
    (hfield : field ∈ fieldNames) (matcher : String) :
    Clause.parse (callText args field matcher).toList =
      .call namespaceName (callSpec args field matcher) := by
  have hcolon : ':' ∉ field.toList := by
    have hnone : ∀ name ∈ fieldNames, ':' ∉ name.toList := by decide
    exact hnone field hfield
  let sig : CallSpec.Signature := {
    name := probeName.toList
    args := args.toList
    property := '.' :: field.toList
    matcher := matcher.toList
    name_ne_nil := by decide
    name_word := List.all_eq_true.mp (by decide +kernel)
    bracket_notMem_args := hargs
    colon_notMem_property := by simpa using hcolon }
  have htext : Clause.IsCallText (callText args field matcher).toList namespaceName.toList sig :=
    ⟨by simp [callText, sig, CallSpec.Signature.text], by decide⟩
  rw [Clause.parse_of_isCallText htext]
  simp [sig, CallSpec.Signature.spec, callSpec]

variable {σ : Type}

/-- The store holds the namespace of a moment, and its probe gives the time of that moment. -/
structure Serves (S : Setting σ) (m : Moment) (probe : Probe) : Prop where
  held : S.store.get? namespaceName = some (.object (dateNamespace m probe))
  answer : ∀ args probes, (S.invoke probe args probes).1 = getTime m args

variable {S : Setting σ} {m : Moment} {probe : Probe}

/-- A run of the command line reads the time so, unless its context has a namespace of this name. -/
theorem serves_withClock {store : Store} (h : store.get? namespaceName = none) (m : Moment)
    (options : Options) :
    Serves ⟨CommandLine.withClock store m, options, fun _ args _ => (getTime m args, ())⟩ m
      CommandLine.clockProbe where
  held := by simp [CommandLine.withClock, h, Store.get?_insert]
  answer _ _ := rfl

theorem Serves.step_root (h : Serves S m probe) :
    Address.step S.root namespaceName = some (.object (dateNamespace m probe)) :=
  h.held

theorem Serves.lookup_field (h : Serves S m probe) {field : String} (hfield : field ∈ fieldNames) :
    Address.lookup S.root (namespaceName ++ "." ++ field) = (timeFields m).get? field := by
  rw [Address.lookup, (segments_field hfield).2, Address.follow_cons, h.step_root,
    Option.bind_some, Address.follow_cons, Address.step, get?_dateNamespace m probe hfield]
  cases (timeFields m).get? field <;> rfl

theorem Serves.targetProbe_eq (h : Serves S m probe) :
    Resolution.targetProbe S namespaceName probeName = some probe := by
  have hnamespace : Address.segments namespaceName = [namespaceName] := by decide +kernel
  have hname : Address.segments probeName = [probeName] := by decide +kernel
  have hroot : Address.lookup S.root namespaceName = some (.object (dateNamespace m probe)) := by
    rw [Address.lookup, hnamespace, Address.follow_cons, h.step_root]
    rfl
  have hprobe : Address.lookup (.object (dateNamespace m probe)) probeName =
      some (.probe probe) := by
    rw [Address.lookup, hname, Address.follow_cons, Address.step, dateNamespace,
      Entries.get?_insert, if_pos rfl]
    rfl
  unfold Resolution.targetProbe
  rw [hroot]
  exact congrArg (·.bind Value.probe?) hprobe

open Resolution

/-- The value of a field is read off its address wherever one more level may be opened. -/
theorem Serves.access_field (h : Serves S m probe) {field : String} (hfield : field ∈ fieldNames)
    {value : Value} (hvalue : (timeFields m).get? field = some value) (levels : Nat)
    (s : State σ) :
    (access S (descendWithin S (levels + 1)) (namespaceName ++ "." ++ field) s).1 =
      .ok (some value) := by
  have hliteral := (literal_of_mem_timeFields (Entries.mem_of_get? hvalue)).1
  have hdescend (t : State σ) : (descendWithin S (levels + 1) value t).1 = .ok value := by
    change (nested (resolveWithin S levels value) t).1 = .ok value
    rw [nested_apply, resolveWithin_eq, walk_of_isLiteral hliteral]
    rfl
  rw [access_of_lookup ((h.lookup_field hfield).trans hvalue), map_fst, hdescend]
  rfl

/-- The part of the record that the call asks for. -/
theorem extract_callSpec (m : Moment) (probe : Probe) {args : Record} {field : String}
    (hfield : field ∈ fieldNames) (hargs : field ∉ args.keys) {value : Value}
    (hvalue : (timeFields m).get? field = some value) (text matcher : String) :
    extract (callSpec text field matcher) (getTime m args) =
      if value.passes matcher then some value else none := by
  have hnull := (literal_of_mem_timeFields (Entries.mem_of_get? hvalue)).2
  have hlookup : Address.lookup (getTime m args) ("." ++ field) = some value := by
    rw [Address.lookup, (segments_field hfield).1, Address.follow_cons, getTime, Address.step,
      get?_getTime_of_notMem m probe hfield hargs, get?_dateNamespace m probe hfield, hvalue]
    rfl
  have hextract : extract (callSpec text field matcher) (getTime m args) =
      (some value).filter fun v => !v.isNull && v.passes matcher := by
    rw [extract, callSpec, hlookup]
  rw [hextract, Option.filter_some, hnull]
  simp

/-- The clause holds as soon as its arguments are bound and the field passes, and then captures
the field. It fails as they fail. -/
theorem Serves.capture_callText (h : Serves S m probe) (descend : Value → Resolution σ Value)
    {args field : String} (hargs : ']' ∉ args.toList) (hfield : field ∈ fieldNames)
    (hkeys : field ∉ (CallSpec.parseArgs args.toList).map Prod.fst) {value : Value}
    (hvalue : (timeFields m).get? field = some value) (matcher : String) (s : State σ) :
    (capture S descend (Clause.parse (callText args field matcher).toList) s).1 =
      (bindArgs S descend (CallSpec.parseArgs args.toList) []
        (s.note (.located namespaceName probeName (some probe)))).1.map fun _ =>
          if value.passes matcher then some value else none := by
  have hcapture : capture S descend (Clause.parse (callText args field matcher).toList) s =
      callLocated S descend namespaceName (callSpec args field matcher) (some probe)
        (s.note (.located namespaceName probeName (some probe))) := by
    rw [parse_callText hargs hfield, capture, callClause, callSpec, h.targetProbe_eq]
    rfl
  rw [hcapture, callLocated]
  generalize s.note (.located namespaceName probeName (some probe)) = t
  rcases hbound : bindArgs S descend (CallSpec.parseArgs args.toList) [] t with ⟨result, u⟩
  cases result with
  | error e => exact congrArg Prod.fst (bind_of_error hbound _)
  | ok record =>
    obtain ⟨bindings, hbindings, hrecord⟩ := bindArgs_eq_ok hbound
    have hnames : record.keys = ((callSpec args field matcher).args.map Prod.fst).eraseDups :=
      hrecord ▸ hbindings.keys_ofList
    have hfree : field ∉ record.keys := by
      rw [hnames, List.mem_eraseDups]
      exact hkeys
    have hanswer : (S.invoke probe record u.probes).1 = getTime m record := h.answer _ _
    rw [← extract_callSpec m probe hfield hfree hvalue args matcher, ← hanswer]
    exact congrArg Prod.fst (bind_of_ok hbound _)

/-- The record of the probe is the namespace without its probe, overlaid with the arguments: the
time fields come first, in the order of the namespace, and then the other arguments in theirs;
each argument has its own value and every other field the one that the namespace holds. So
wherever this is the namespace, a call clause that asks for a field which no argument names holds,
once its arguments are bound, if and only if the value at the address of the field passes the
matcher, and that value is what it captures. -/
theorem getTime_agrees (m : Moment) (probe : Probe) :
    (dateNamespace m probe).keys = fieldNames ++ [probeName] ∧
    (∀ args : Record, args.Distinct → ∃ record : Record, getTime m args = .object record ∧
      record.keys = fieldNames ++ args.keys.filter (· ∉ fieldNames) ∧
      (∀ key value, args.get? key = some value → record.get? key = some value) ∧
      ∀ field ∈ fieldNames, field ∉ args.keys → ∃ value,
        (dateNamespace m probe).get? field = some value ∧ record.get? field = some value) ∧
    ∀ {σ : Type} (S : Setting σ), Serves S m probe →
      ∀ (levels : Nat) (args field matcher : String), ']' ∉ args.toList → field ∈ fieldNames →
        field ∉ (CallSpec.parseArgs args.toList).map Prod.fst → ∃ value,
          Address.lookup S.root (namespaceName ++ "." ++ field) = some value ∧
          (∀ s, (access S (descendWithin S (levels + 1)) (namespaceName ++ "." ++ field) s).1 =
            .ok (some value)) ∧
          ∀ s, (capture S (descendWithin S levels)
              (Clause.parse (callText args field matcher).toList) s).1 =
            (bindArgs S (descendWithin S levels) (CallSpec.parseArgs args.toList) []
              (s.note (.located namespaceName probeName (some probe)))).1.map fun _ =>
                if value.passes matcher then some value else none := by
  refine ⟨keys_dateNamespace m probe, fun args hdistinct => ?_,
    fun S h levels args field matcher hargs hfield hkeys => ?_⟩
  · refine ⟨Entries.insertAll (timeFields m) args, rfl, ?_, fun key value hvalue => ?_,
      fun field hfield hfree => ?_⟩
    · rw [Entries.keys_insertAll _ hdistinct, keys_timeFields]
    · rw [Entries.get?_insertAll_of_distinct _ hdistinct, hvalue, Option.some_or]
    · obtain ⟨value, hvalue⟩ := exists_timeField m hfield
      have hheld := (get?_dateNamespace m probe hfield).trans hvalue
      exact ⟨value, hheld, (get?_getTime_of_notMem m probe hfield hfree).trans hheld⟩
  · obtain ⟨value, hvalue⟩ := exists_timeField m hfield
    exact ⟨value, (h.lookup_field hfield).trans hvalue, h.access_field hfield hvalue levels,
      h.capture_callText (descendWithin S levels) hargs hfield hkeys hvalue matcher⟩

def evening : Moment := ⟨2013, 2, 12, 18, 5, 0⟩

def eveningSetting : Setting Unit where
  store := CommandLine.withClock
    (Store.ofRecord [("@auth", .object [("shift", .string "late")])]) evening
  options := {}
  invoke := fun _ args _ => (getTime evening args, ())

/-- One argument has the name of a field and is an address, the other one is new. -/
theorem getTime_agrees_evening :
    (∃ record : Record,
      getTime evening [("hours", .string "late"), ("status", .null)] = .object record ∧
      record.keys = fieldNames ++ ["status"] ∧ record.get? "hours" = some (.string "late")) ∧
    (capture eveningSetting (descendWithin eveningSetting 1)
      (Clause.parse (callText "hours:@auth.shift,status:guest" "part" "evening").toList)
      { probes := () }).1 = .ok (some (.string "evening")) := by
  obtain ⟨-, hrecord, hclause⟩ := getTime_agrees evening CommandLine.clockProbe
  constructor
  · obtain ⟨record, heq, hkeys, hargs, -⟩ :=
      hrecord [("hours", .string "late"), ("status", .null)]
        (by simp [Entries.Distinct, Entries.keys])
    exact ⟨record, heq, hkeys.trans (by decide), hargs "hours" _ rfl⟩
  · have hserves : Serves eveningSetting evening CommandLine.clockProbe :=
      serves_withClock rfl evening {}
    obtain ⟨value, hvalue, -, hcapture⟩ := hclause eveningSetting hserves 1
      "hours:@auth.shift,status:guest" "part" "evening" (by decide) (by decide) (by decide)
    obtain rfl : Value.string "evening" = value :=
      Option.some.inj ((hserves.lookup_field (by decide)).symm.trans hvalue)
    obtain ⟨record, hbound⟩ := exists_of_isOk
      (m := bindArgs eveningSetting (descendWithin eveningSetting 1)
        (CallSpec.parseArgs "hours:@auth.shift,status:guest".toList) [])
      (s := ({ probes := () } : State Unit).note
        (.located namespaceName probeName (some CommandLine.clockProbe))) (by decide +kernel)
    have hpasses : (Value.string "evening").passes "evening" = true := by decide +kernel
    rw [hcapture, hbound]
    exact congrArg Except.ok (if_pos hpasses)

end Clock
end RuleTemplate
