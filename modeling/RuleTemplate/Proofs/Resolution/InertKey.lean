import RuleTemplate.Proofs.Criterion.Canonical
import RuleTemplate.Proofs.Resolution.BranchChoice
import RuleTemplate.Proofs.Resolution.Simulation

/-!
A key whose first word is a malformed call takes no part in its rule. Its criterion fails before
anything is looked up or called, so the choice goes on as if the key were not there. All that the
key leaves behind is one criterion more in the counters.
-/
namespace RuleTemplate

theorem CallSpec.parse?_eq_none_iff {text : List Char} :
    parse? text = none ↔ ∀ sig : Signature, sig.text ≠ text := by
  constructor
  · rintro h sig rfl
    simp [parse?_text] at h
  · intro h
    cases hparse : parse? text with
    | none => rfl
    | some spec =>
      obtain ⟨sig, htext, -⟩ := parse?_eq_some_iff.mp hparse
      exact absurd htext (h sig)

namespace Clause

structure IsMalformedText (text target rest : List Char) : Prop where
  text_eq : text = target ++ ':' :: ':' :: rest
  pair_notMem_target : ¬[':', ':'] <:+: target ++ [':']
  not_signature : ∀ sig : CallSpec.Signature, sig.text ≠ rest

theorem parse_of_isMalformedText {text target rest : List Char}
    (h : IsMalformedText text target rest) :
    parse text = malformed (String.ofList target) (String.ofList rest) := by
  rw [parse, h.text_eq, Text.cutPair_append h.pair_notMem_target]
  simp [CallSpec.parse?_eq_none_iff.mpr h.not_signature]

end Clause

namespace Criterion

/-- The first word of the key is a malformed call, or the key has no word. -/
def OpensMalformed (key : String) : Prop :=
  ∀ word ∈ (words key.toList).head?, ∃ target rest, Clause.IsMalformedText word target rest

theorem parse_of_opensMalformed {key : String} (h : OpensMalformed key) :
    parse key = [] ∨
      ∃ target signature others, parse key = .malformed target signature :: others := by
  unfold parse
  cases hwords : words key.toList with
  | nil => exact Or.inl rfl
  | cons word others =>
    obtain ⟨target, rest, hmalformed⟩ := h word (by simp [hwords])
    rw [List.map_cons, Clause.parse_of_isMalformedText hmalformed]
    exact Or.inr ⟨_, _, _, rfl⟩

/-- Fallback keys have no colon. -/
theorem OpensMalformed.isFallbackKey_eq_false {key : String} (h : OpensMalformed key) :
    isFallbackKey key = false := by
  refine Bool.eq_false_iff.mpr fun hkey => ?_
  simp only [isFallbackKey, fallbackKeys, List.contains_iff_mem, List.mem_cons, List.not_mem_nil,
    or_false] at hkey
  have hbare : ∃ address, parse key = [.bare address] := by
    rcases hkey with rfl | rfl
    · exact ⟨"default", by decide +kernel⟩
    · exact ⟨"value", by decide +kernel⟩
  obtain ⟨address, hparse⟩ := hbare
  rcases parse_of_opensMalformed h with hnil | ⟨target, signature, others, hmalformed⟩
  · simp [hparse] at hnil
  · simp [hparse] at hmalformed

end Criterion

theorem Entries.get?_around {α : Type} {before after : Entries α} {key other : String} (value : α)
    (hne : other ≠ key) :
    get? (before ++ (key, value) :: after) other = get? (before ++ after) other := by
  induction before with
  | nil => simp [get?_cons, hne]
  | cons entry rest ih =>
    obtain ⟨k, v⟩ := entry
    simp only [List.cons_append, get?_cons, ih]

namespace Rule

variable {before after : Record} {key : String} (outcome : Value)

/-- A key more that is no fallback key leaves the fallback as it is. -/
theorem fallbackOf_around (hkey : isFallbackKey key = false) :
    fallbackOf (before ++ (key, outcome) :: after) = fallbackOf (before ++ after) := by
  have hne : "default" ≠ key ∧ "value" ≠ key := by
    constructor <;> rintro rfl <;> exact absurd hkey (by decide)
  rw [fallbackOf_eq, fallbackOf_eq, Entries.get?_around outcome hne.1,
    Entries.get?_around outcome hne.2]

theorem branchesOf_append (members others : Record) :
    branchesOf (members ++ others) = branchesOf members ++ branchesOf others := by
  simp [branchesOf]

/-- A key that is no fallback key is one branch more. -/
theorem branchesOf_around (hkey : isFallbackKey key = false) :
    branchesOf (before ++ (key, outcome) :: after) =
      branchesOf before ++ branchOf key outcome :: branchesOf after := by
  rw [branchesOf_append]
  simp [branchesOf, hkey]

end Rule

theorem isRule_around {before after : Record} (member : String × Value)
    (h : isRule (before ++ after) = true) : isRule (before ++ member :: after) = true := by
  simp only [isRule, List.any_append, List.any_cons, Bool.or_eq_true] at h ⊢
  exact h.imp_right Or.inr

/-- The first state has counted so much more. Otherwise the states differ only in what has been
noted besides calls. -/
structure State.Ahead {σ : Type} (share : Metrics) (s t : State σ) : Prop where
  depth : s.depth = t.depth
  lastAddress : s.lastAddress = t.lastAddress
  metrics : s.metrics = t.metrics + share
  probes : s.probes = t.probes
  calls : s.journal.filterMap Event.call? = t.journal.filterMap Event.call?

namespace Resolution

variable {σ α β : Type}

/-- A state that is ahead of another one stays ahead of it, by as much. -/
theorem simulation_ahead (S : Setting σ) (share : Metrics) :
    Simulation S S (fun _ => True) (State.Ahead share) where
  lastAddress h := h.lastAddress.symm
  enter h := by
    refine ⟨congrArg (· + 1) h.depth, h.lastAddress, ?_, h.probes, h.calls⟩
    rw [State.enter_metrics, State.enter_metrics, h.metrics, h.depth, add_right_comm]
  leave h := ⟨congrArg (· - 1) h.depth, h.lastAddress, h.metrics, h.probes, h.calls⟩
  note event h := by
    refine ⟨h.depth, h.lastAddress, h.metrics, h.probes, ?_⟩
    simp only [State.note, List.filterMap_cons, h.calls]
  count hchange h := by
    refine ⟨h.depth, h.lastAddress, ?_, h.probes, h.calls⟩
    simp only [State.count, hchange, h.metrics, add_right_comm]
  lookup address found h := by
    refine ⟨h.depth, rfl, ?_, h.probes, h.calls⟩
    simp [noteLookup, h.metrics, Metrics.add_def, Nat.add_right_comm]
  call cause probe args _ s t h := by
    have hcalls : ((probe, args) :: s.journal.filterMap Event.call?) =
        (probe, args) :: t.journal.filterMap Event.call? := by rw [h.calls]
    simp only [call, h.probes]
    refine ⟨trivial, ⟨h.depth, h.lastAddress, ?_, rfl, hcalls⟩, fun _ _ => trivial⟩
    simp [h.metrics, Metrics.add_def, Nat.add_right_comm]
  finish h := ⟨h.depth, h.lastAddress, h.metrics, h.probes, h.calls⟩

theorem lockstep_ahead (S : Setting σ) (share : Metrics) :
    Lockstep S S (fun _ => True) (fun _ => True)
      fun _ Φ (m n : Resolution σ _) => Parallel (State.Ahead share) Φ m n :=
  (simulation_ahead S share).lockstep closed_trivial rfl trivial rfl fun _ _ => Or.inr rfl

variable {S : Setting σ} {d : Value → Resolution σ Value}

/-- A criterion that opens with a malformed call fails, and nothing takes place but that this is
noted. -/
theorem judge_of_opensMalformed {key : String} (h : Criterion.OpensMalformed key) (s : State σ) :
    ∃ journal, judge S d (Criterion.parse key) s = (.ok .failed, s.withJournal journal) ∧
      journal.filterMap Event.call? = s.journal.filterMap Event.call? := by
  rcases Criterion.parse_of_opensMalformed h with hnil | ⟨target, signature, others, hmalformed⟩
  · exact ⟨s.journal, by rw [hnil]; rfl, rfl⟩
  · exact ⟨.malformed target signature :: .reached (.malformed target signature) :: s.journal,
      by rw [hmalformed]; rfl, rfl⟩

/-- A branch that opens with a malformed call is counted and passed over. -/
theorem select_of_opensMalformed {key : String} (h : Criterion.OpensMalformed key)
    (outcome : Value) (rest : List Branch) (selection : Selection) (s : State σ) :
    ∃ t, t.Ahead { criteria := 1 } s ∧
      select S d (Rule.branchOf key outcome :: rest) selection s = select S d rest selection t := by
  have hcounted (t : State σ) := judge_of_opensMalformed (S := S) (d := d) h t
  obtain ⟨journal, hjudge, hcalls⟩ :=
    hcounted (s.count fun m => { m with criteria := m.criteria + 1 })
  refine ⟨((s.count fun m => { m with criteria := m.criteria + 1 }).withJournal journal).note
    (.failed key), ⟨rfl, rfl, ?_, rfl, hcalls⟩, bind_of_ok hjudge _⟩
  simp [State.note, State.withJournal, State.count, Metrics.add_def]

theorem select_append (branches others : List Branch) (selection : Selection) :
    select S d (branches ++ others) selection =
      select S d branches selection >>= select S d others := by
  induction branches generalizing selection with
  | nil => rfl
  | cons branch rest ih => simp only [List.cons_append, select, ih, bind_assoc]

/-- From every state the two come to the same, with the same calls. The first one counts at most
one criterion more, and does so unless it fails. -/
def Outcounts (m n : Resolution σ α) : Prop :=
  ∀ s, (m s).1 = (n s).1 ∧ ∃ extra ≤ 1, (m s).2.Ahead { criteria := extra } (n s).2 ∧
    ((m s).1.isOk = true → extra = 1)

/-- What comes before is the same for both. -/
theorem Outcounts.after {m : Resolution σ α} {f g : α → Resolution σ β}
    (h : ∀ a, Outcounts (f a) (g a)) : Outcounts (m >>= f) (m >>= g) := by
  intro s
  rcases hrun : m s with ⟨result, t⟩
  cases result with
  | error e =>
    rw [bind_of_error hrun, bind_of_error hrun]
    refine ⟨rfl, 0, Nat.zero_le 1, ⟨rfl, rfl, (add_zero t.metrics).symm, rfl, rfl⟩, fun hok => ?_⟩
    simp [Except.isOk, Except.toBool] at hok
  | ok a =>
    rw [bind_of_ok hrun, bind_of_ok hrun]
    exact h a t

/-- The branch is passed over, and what is chosen is settled alike. -/
theorem outcounts_select {key : String} (h : Criterion.OpensMalformed key) (outcome : Value)
    (levels : Nat) (rest : List Branch) (selection : Selection) :
    Outcounts
      (select S (descendWithin S levels) (Rule.branchOf key outcome :: rest) selection >>=
        fun selection => settle S (descendWithin S levels) selection.chosen)
      (select S (descendWithin S levels) rest selection >>=
        fun selection => settle S (descendWithin S levels) selection.chosen) := by
  intro s
  have hstep := lockstep_ahead S { criteria := 1 }
  have hlevel := hstep.level levels
  have hchosen : ∀ v ∈ selection.chosen, True := fun _ _ => trivial
  have hrest := hlevel.bind (hlevel.select rest (fun _ _ => trivial) hchosen)
    fun _ hlast => hlevel.settle hlast
  obtain ⟨t, hahead, hselect⟩ := select_of_opensMalformed (S := S)
    (d := descendWithin S levels) h outcome rest selection s
  obtain ⟨hsame, hstates, -⟩ := hrest t s hahead
  rw [bind_apply, hselect, ← bind_apply]
  exact ⟨hsame.symm, 1, Nat.le_refl 1, hstates, fun _ => rfl⟩

/-- A key of a rule whose first word is a malformed call, or that has no word, takes no part in
the rule, as long as the rest is still a rule. From every state the rule comes to the same as
without the key: the same value or the same failure, with the same calls of probes. Its counters
show one criterion more than without it, or none if it fails before it comes to the key, and the
same otherwise. -/
theorem resolveWithin_malformed_key (S : Setting σ) (levels : Nat) {before after : Record}
    {key : String} (outcome : Value) (hopens : Criterion.OpensMalformed key)
    (hrule : isRule (before ++ after) = true) (s : State σ) :
    (resolveWithin S levels (.object (before ++ (key, outcome) :: after)) s).1 =
        (resolveWithin S levels (.object (before ++ after)) s).1 ∧
      ∃ extra ≤ 1,
        (resolveWithin S levels (.object (before ++ (key, outcome) :: after)) s).2.Ahead
          { criteria := extra } (resolveWithin S levels (.object (before ++ after)) s).2 ∧
        ((resolveWithin S levels (.object (before ++ (key, outcome) :: after)) s).1.isOk = true →
          extra = 1) := by
  have hkey : isFallbackKey key = false := hopens.isFallbackKey_eq_false
  rw [resolveWithin_eq, walk_of_isRule (isRule_around (key, outcome) hrule), walk_of_isRule hrule,
    Rule.fallbackOf_around outcome hkey, Rule.branchesOf_around outcome hkey,
    Rule.branchesOf_append]
  simp only [select_append, bind_assoc]
  have hlater (selection : Selection) := outcounts_select (S := S) hopens outcome levels
    (Rule.branchesOf after) selection
  have hearlier (seeded : Option Value) := Outcounts.after
    (m := select S (descendWithin S levels) (Rule.branchesOf before) (.start seeded)) hlater
  exact Outcounts.after (m := visitRule S (Rule.fallbackOf (before ++ after))) hearlier s

def visitSetting : Setting Nat where
  store := Store.ofRecord [
    ("@user", .object [("name", .string "Ada")]),
    ("@date", .object [("getTime", .probe ⟨0⟩)])]
  options := {}
  invoke := fun _ _ n => (.object [("hours", .number (.int n))], n + 1)

/-- The dot after the signature's name is no bracket, so this is no call, although a clause that
would hold comes next. -/
def malformedKey : String := "@date::getTime.hours:>=17 @user.name:Ada"

theorem opensMalformed_malformedKey : Criterion.OpensMalformed malformedKey := by
  intro word hword
  have hfirst : (Criterion.words malformedKey.toList).head? =
      some "@date::getTime.hours:>=17".toList := by decide +kernel
  rw [hfirst, Option.mem_some_iff] at hword
  refine ⟨"@date".toList, "getTime.hours:>=17".toList, hword ▸ rfl, ?_, ?_⟩
  · exact Text.cutPair_eq_none.mp (by decide)
  · exact CallSpec.parse?_eq_none_iff.mp (by decide +kernel)

/-- The fallback of the rule is a probe, and the choice of the branch after the key calls it
again. -/
theorem resolveWithin_malformed_key_between : ∃ extra ≤ 1,
    Criterion.OpensMalformed malformedKey ∧
    (resolveWithin visitSetting 2 (.object [("default", .probe ⟨0⟩), (malformedKey, .bool true),
        ("@date::getTime[]hours:1", .string "@value")]) { probes := 0 }).2.Ahead
      { criteria := extra }
      (resolveWithin visitSetting 2 (.object [("default", .probe ⟨0⟩),
        ("@date::getTime[]hours:1", .string "@value")]) { probes := 0 }).2 ∧
    extra = 1 := by
  have hopens := opensMalformed_malformedKey
  have hrule : isRule ([("default", .probe ⟨0⟩)] ++
      [("@date::getTime[]hours:1", .string "@value")]) = true := by decide +kernel
  obtain ⟨-, extra, hextra, hahead, hok⟩ :=
    resolveWithin_malformed_key visitSetting 2 (.bool true) hopens hrule { probes := 0 }
  exact ⟨extra, hextra, hopens, hahead, hok (by decide +kernel)⟩

end Resolution
end RuleTemplate
