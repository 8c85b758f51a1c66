import Mathlib.Data.List.Induction
import RuleTemplate.Proofs.Resolution.Invariant

/-!
What a rule chooses, said at once for all its branches. The choice goes to the last tentative
branch or to the last one of those that match with the most parts, whichever stands later, and
to the fallback if there is neither. Evaluating the branches one by one, with the most parts so
far and the choice so far, comes to that.
-/
namespace RuleTemplate

structure Judged where
  branch : Branch
  verdict : Verdict

/-- A branch that matched: its place among the branches, how many clauses held, and what the
rule becomes where the branch wins. -/
structure Match where
  place : Nat
  parts : Nat
  outcome : Value

def tentatives (judged : List Judged) : List (Nat × Value) :=
  judged.zipIdx.filterMap fun entry =>
    match entry.1.verdict with
    | .tentative v => some (entry.2, v)
    | _ => none

/-- The branches that matched. The outcome `@value` stands for what was captured. -/
def matchesOf (judged : List Judged) : List Match :=
  judged.zipIdx.filterMap fun entry =>
    match entry.1.verdict with
    | .matched parts captured => some {
        place := entry.2
        parts := parts
        outcome := match entry.1.branch.outcome with
          | .string "@value" => captured
          | outcome => outcome }
    | _ => none

def mostParts (judged : List Judged) : Nat := ((matchesOf judged).map Match.parts).foldl max 0

def lastTentative? (judged : List Judged) : Option (Nat × Value) := (tentatives judged).getLast?

def bestMatch? (judged : List Judged) : Option Match :=
  ((matchesOf judged).filter fun m => m.parts = mostParts judged).getLast?

/-- The later one of the last tentative branch and the best match, if there is either. -/
def choice (fallback : Option Value) (judged : List Judged) : Option Value :=
  match lastTentative? judged, bestMatch? judged with
  | none, none => fallback
  | some (_, v), none => some v
  | none, some m => some m.outcome
  | some (place, v), some m => some (if m.place < place then v else m.outcome)

namespace Selection

def considerAll (selection : Selection) (judged : List Judged) : Selection :=
  judged.foldl (fun selection entry => selection.consider entry.branch entry.verdict) selection

theorem considerAll_append (selection : Selection) (judged : List Judged) (entry : Judged) :
    selection.considerAll (judged ++ [entry]) =
      (selection.considerAll judged).consider entry.branch entry.verdict := by
  simp [considerAll]

end Selection

section Append

variable (judged : List Judged) (branch : Branch)

theorem tentatives_append (entry : Judged) :
    tentatives (judged ++ [entry]) = tentatives judged ++
      match entry.verdict with
      | .tentative v => [(judged.length, v)]
      | _ => [] := by
  rw [tentatives, List.zipIdx_append, List.filterMap_append]
  cases hverdict : entry.verdict <;> simp [tentatives, hverdict]

theorem matchesOf_append (entry : Judged) :
    matchesOf (judged ++ [entry]) = matchesOf judged ++
      match entry.verdict with
      | .matched parts captured => [⟨judged.length, parts, entry.branch.result captured⟩]
      | _ => [] := by
  rw [matchesOf, List.zipIdx_append, List.filterMap_append]
  cases hverdict : entry.verdict with
  | matched parts captured =>
    have hresult : (match entry.branch.outcome with
        | .string "@value" => captured
        | outcome => outcome) = entry.branch.result captured := by
      split
      · next hmark => rw [Branch.result_of_mark hmark]
      · next hother => rw [Branch.result_of_ne hother]
    simp [matchesOf, hverdict, hresult]
  | _ => simp [matchesOf, hverdict]

end Append

/-- What keeps the places of branches names places of branches. -/
theorem lt_length_of_mem_filterMap {α : Type} {f : Judged × Nat → Option α} (place : α → Nat)
    (hf : ∀ entry a, f entry = some a → place a = entry.2) {judged : List Judged} {a : α}
    (h : a ∈ judged.zipIdx.filterMap f) : place a < judged.length := by
  obtain ⟨entry, hmem, hentry⟩ := List.mem_filterMap.mp h
  rw [hf entry a hentry]
  exact List.snd_lt_of_mem_zipIdx hmem

theorem lt_length_of_lastTentative? {judged : List Judged} {place : Nat} {v : Value}
    (h : lastTentative? judged = some (place, v)) : place < judged.length := by
  refine lt_length_of_mem_filterMap Prod.fst ?_ (List.mem_of_getLast? h)
  rintro ⟨⟨_, verdict⟩, _⟩ t ht
  cases verdict with
  | tentative w => exact (Option.some.inj ht) ▸ rfl
  | _ => simp at ht

theorem lt_length_of_bestMatch? {judged : List Judged} {m : Match}
    (h : bestMatch? judged = some m) : m.place < judged.length := by
  refine lt_length_of_mem_filterMap Match.place ?_ (List.mem_filter.mp (List.mem_of_getLast? h)).1
  rintro ⟨⟨_, verdict⟩, _⟩ m' hm
  cases verdict with
  | matched parts captured => exact (Option.some.inj hm) ▸ rfl
  | _ => simp at hm

section Step

variable {judged : List Judged} {branch : Branch} (fallback : Option Value)

/-- What the best match is depends on the matches only. -/
theorem bestMatch?_congr {judged other : List Judged} (h : matchesOf other = matchesOf judged) :
    mostParts other = mostParts judged ∧ bestMatch? other = bestMatch? judged := by
  have hmost : mostParts other = mostParts judged := by rw [mostParts, h, mostParts]
  exact ⟨hmost, by rw [bestMatch?, h, hmost, bestMatch?]⟩

theorem choice_congr {judged other : List Judged}
    (htentatives : tentatives other = tentatives judged)
    (hbest : bestMatch? other = bestMatch? judged) :
    choice fallback other = choice fallback judged := by
  simp only [choice, lastTentative?, htentatives, hbest]

theorem choice_append_failed (judged : List Judged) (branch : Branch) :
    mostParts (judged ++ [⟨branch, .failed⟩]) = mostParts judged ∧
      choice fallback (judged ++ [⟨branch, .failed⟩]) = choice fallback judged := by
  obtain ⟨hmost, hbest⟩ : mostParts (judged ++ [⟨branch, .failed⟩]) = mostParts judged ∧
      bestMatch? (judged ++ [⟨branch, .failed⟩]) = bestMatch? judged :=
    bestMatch?_congr (by simp [matchesOf_append])
  exact ⟨hmost, choice_congr fallback (by simp [tentatives_append]) hbest⟩

/-- A tentative branch stands after every match before it, so it replaces the choice. -/
theorem choice_append_tentative (judged : List Judged) (branch : Branch) (v : Value) :
    mostParts (judged ++ [⟨branch, .tentative v⟩]) = mostParts judged ∧
      choice fallback (judged ++ [⟨branch, .tentative v⟩]) = some v := by
  obtain ⟨hmost, hbest⟩ : mostParts (judged ++ [⟨branch, .tentative v⟩]) = mostParts judged ∧
      bestMatch? (judged ++ [⟨branch, .tentative v⟩]) = bestMatch? judged :=
    bestMatch?_congr (by simp [matchesOf_append])
  have hlast : lastTentative? (judged ++ [⟨branch, .tentative v⟩]) =
      some (judged.length, v) := by
    simp [lastTentative?, tentatives_append]
  refine ⟨hmost, ?_⟩
  rw [choice, hlast, hbest]
  cases hm : bestMatch? judged with
  | none => rfl
  | some m =>
    have hplace := lt_length_of_bestMatch? hm
    simp [hplace]

theorem mostParts_append_matched (parts : Nat) (captured : Value) :
    mostParts (judged ++ [⟨branch, .matched parts captured⟩]) = max (mostParts judged) parts := by
  simp [mostParts, matchesOf_append]

/-- A match with fewer parts than another one before it changes nothing. -/
theorem choice_append_outranked {parts : Nat} (captured : Value)
    (h : parts < mostParts judged) :
    choice fallback (judged ++ [⟨branch, .matched parts captured⟩]) = choice fallback judged := by
  have hmost : mostParts (judged ++ [⟨branch, .matched parts captured⟩]) = mostParts judged := by
    rw [mostParts_append_matched]
    omega
  have hbest : bestMatch? (judged ++ [⟨branch, .matched parts captured⟩]) =
      bestMatch? judged := by
    have hne : parts ≠ mostParts judged := by omega
    simp [bestMatch?, hmost, matchesOf_append, hne]
  exact choice_congr fallback (by simp [tentatives_append]) hbest

/-- A match with as many parts as any before it is the last one of the best matches. -/
theorem choice_append_matched {parts : Nat} (captured : Value) (h : mostParts judged ≤ parts) :
    choice fallback (judged ++ [⟨branch, .matched parts captured⟩]) =
      some (branch.result captured) := by
  have htentatives : tentatives (judged ++ [⟨branch, .matched parts captured⟩]) =
      tentatives judged := by
    simp [tentatives_append]
  have hmost : mostParts (judged ++ [⟨branch, .matched parts captured⟩]) = parts := by
    rw [mostParts_append_matched]
    omega
  have hbest : bestMatch? (judged ++ [⟨branch, .matched parts captured⟩]) =
      some ⟨judged.length, parts, branch.result captured⟩ := by
    simp [bestMatch?, hmost, matchesOf_append]
  simp only [choice, lastTentative?, htentatives, hbest]
  cases hlast : (tentatives judged).getLast? with
  | none => rfl
  | some t =>
    obtain ⟨place, v⟩ := t
    have hplace := lt_length_of_lastTentative? hlast
    simp [Nat.not_lt.mpr hplace.le]

end Step

/-- Considering the branches one after the other comes to the choice among all of them. The
induction is on the branches from the last one, the invariant is the most parts so far and the
choice so far. -/
theorem Selection.considerAll_start (fallback : Option Value) (judged : List Judged) :
    (Selection.start fallback).considerAll judged =
      ⟨mostParts judged, choice fallback judged⟩ := by
  induction judged using List.reverseRecOn with
  | nil => rfl
  | append_singleton judged entry ih =>
    obtain ⟨branch, verdict⟩ := entry
    rw [considerAll_append, ih]
    cases verdict with
    | failed =>
      obtain ⟨hmost, hchoice⟩ := choice_append_failed fallback judged branch
      rw [consider, hmost, hchoice]
    | tentative v =>
      obtain ⟨hmost, hchoice⟩ := choice_append_tentative fallback judged branch v
      rw [consider, hmost, hchoice]
    | matched parts captured =>
      rw [consider, mostParts_append_matched]
      by_cases hparts : parts < mostParts judged
      · rw [if_pos hparts, choice_append_outranked fallback captured hparts,
          Nat.max_eq_left hparts.le]
      · have hle := Nat.not_lt.mp hparts
        rw [if_neg hparts, choice_append_matched fallback captured hle, Nat.max_eq_right hle]

namespace Rule

theorem find?_filterMap_cons {α β : Type} (f : α → Option β) (p : β → Bool) (a : α)
    (rest : List α) : ((a :: rest).filterMap f).find? p =
      ((f a).filter p).or ((rest.filterMap f).find? p) := by
  cases hf : f a with
  | none => simp [hf]
  | some b => cases hp : p b <;> simp [hf, hp, Option.filter]

/-- A default that is not null comes before a value that is not null. -/
theorem fallbackOf_eq (members : Record) :
    fallbackOf members = ((Entries.get? members "default").filter (!·.isNull)).or
      ((Entries.get? members "value").filter (!·.isNull)) := by
  rw [fallbackOf, fallbackKeys, find?_filterMap_cons, find?_filterMap_cons, List.filterMap_nil,
    List.find?_nil, Option.or_none]

theorem keys_branchesOf (members : Record) :
    (branchesOf members).map Branch.key = members.keys.filter (!isFallbackKey ·) := by
  simp only [branchesOf, List.map_map, Entries.keys, List.filter_map]
  rfl

end Rule

/-- Members with the same fallbacks and, in the same order, the same other members. Where the
fallbacks stand among the others may differ. -/
structure SameRule (members others : Record) : Prop where
  fallback : ∀ key ∈ fallbackKeys, members.get? key = others.get? key
  rest : members.filter (!isFallbackKey ·.1) = others.filter (!isFallbackKey ·.1)

namespace SameRule

variable {members others : Record}

theorem isRule_eq (h : SameRule members others) : isRule members = isRule others := by
  have hsplit (ms : Record) : isRule ms = true ↔
      (∃ key ∈ fallbackKeys, ms.get? key ≠ none) ∨
        ∃ member ∈ ms.filter (!isFallbackKey ·.1), hasSigil member.1 = true := by
    simp only [isRule, List.any_eq_true, Bool.or_eq_true, ne_eq, Entries.get?_eq_none,
      Decidable.not_not, Entries.keys, List.mem_map, List.mem_filter, Bool.not_eq_true',
      isFallbackKey, List.contains_iff_mem]
    grind
  have hfallback : (∃ key ∈ fallbackKeys, members.get? key ≠ none) ↔
      ∃ key ∈ fallbackKeys, others.get? key ≠ none :=
    exists_congr fun key => and_congr_right fun hkey => by rw [h.fallback key hkey]
  rw [Bool.eq_iff_iff, hsplit, hsplit, h.rest, hfallback]

theorem ofMembers_eq (h : SameRule members others) :
    Rule.ofMembers members = Rule.ofMembers others := by
  rw [Rule.ofMembers, Rule.ofMembers, Rule.branchesOf, h.rest, ← Rule.branchesOf]
  have hfallback : Rule.fallbackOf members = Rule.fallbackOf others := by
    rw [Rule.fallbackOf_eq, Rule.fallbackOf_eq, h.fallback "default" (by decide),
      h.fallback "value" (by decide)]
  rw [hfallback]

end SameRule

def State.withJournal {σ : Type} (s : State σ) (journal : List Event) : State σ :=
  { s with journal := journal }

namespace Resolution

variable {σ α β : Type}

structure IgnoresJournal (Φ : α → Prop) (m : Resolution σ α) : Prop where
  result : ∀ s a, (m s).1 = .ok a → Φ a
  run : ∀ s journal, ∃ journal', m (s.withJournal journal) = ((m s).1, (m s).2.withJournal journal')

theorem IgnoresJournal.bind {Φ : α → Prop} {Ψ : β → Prop} {m : Resolution σ α}
    {f : α → Resolution σ β} (hm : IgnoresJournal Φ m)
    (hf : ∀ a, Φ a → IgnoresJournal Ψ (f a)) : IgnoresJournal Ψ (m >>= f) := by
  refine ⟨fun s b hb => ?_, fun s journal => ?_⟩
  · cases hrun : m s with
    | mk result t =>
      cases result with
      | error e => simp [bind_of_error hrun] at hb
      | ok a =>
        rw [bind_of_ok hrun] at hb
        exact (hf a (hm.result s a (by rw [hrun]))).result t b hb
  · obtain ⟨middle, hmiddle⟩ := hm.run s journal
    cases hrun : m s with
    | mk result t =>
      rw [hrun] at hmiddle
      cases result with
      | error e =>
        rw [bind_of_error hrun, bind_of_error hmiddle]
        exact ⟨middle, rfl⟩
      | ok a =>
        rw [bind_of_ok hrun, bind_of_ok hmiddle]
        exact (hf a (hm.result s a (by rw [hrun]))).run t middle

theorem ignoresJournal_pure {Φ : α → Prop} {a : α} (ha : Φ a) :
    IgnoresJournal Φ (pure a : Resolution σ α) :=
  ⟨fun _ _ hb => Except.ok.inj hb ▸ ha, fun _ journal => ⟨journal, rfl⟩⟩

theorem ignoresJournal_note (event : Event) :
    IgnoresJournal (fun _ => True) (note event : Resolution σ Unit) :=
  ⟨fun _ _ _ => trivial, fun _ journal => ⟨event :: journal, rfl⟩⟩

theorem ignoresJournal_count (change : Metrics → Metrics) :
    IgnoresJournal (fun _ => True) (count change : Resolution σ Unit) :=
  ⟨fun _ _ _ => trivial, fun _ journal => ⟨journal, rfl⟩⟩

theorem ignoresJournal_congruence :
    Congruence fun _ Φ (m _ : Resolution σ _) => IgnoresJournal Φ m where
  pure := ignoresJournal_pure
  bind := IgnoresJournal.bind
  note event _ := ignoresJournal_note event
  count change _ := ignoresJournal_count change

theorem ignoresJournal_invariant (S : Setting σ) :
    Invariant S (fun _ => True) (fun _ => True) fun _ Φ m => IgnoresJournal Φ m where
  aligned := ignoresJournal_congruence.aligned closed_trivial rfl trivial rfl
    (ignoresJournal_count _) (fun event _ => ignoresJournal_note event)
    (fun address found => ⟨fun _ _ _ => trivial,
      fun _ journal => ⟨.lookedUp address found :: journal, rfl⟩⟩)
    (fun cause probe args _ _ => ⟨fun _ _ _ => trivial,
      fun _ journal => ⟨.invoked cause probe args :: journal, rfl⟩⟩)
  refuse := ⟨fun _ _ h => by simp [Resolution.refuse] at h,
    fun s journal => ⟨.refused S.options.maxDepth s.lastAddress :: journal, rfl⟩⟩
  nested m hm := by
    refine ⟨fun s a ha => hm.result s.enter a ha, fun s journal => ?_⟩
    obtain ⟨journal', hrun⟩ := hm.run s.enter journal
    refine ⟨journal', ?_⟩
    show nested m (s.withJournal journal) =
      ((m s.enter).1, ((m s.enter).2.withJournal journal').leave)
    exact nested_of_eq hrun
  finish := ⟨fun _ _ _ => trivial, fun s journal => ⟨.finished s.metrics :: journal, rfl⟩⟩

variable (S : Setting σ)

def judgeAll (d : Value → Resolution σ Value) (branches : List Branch) :
    Resolution σ (List Judged) :=
  branches.mapM fun branch => do
    count fun m => { m with criteria := m.criteria + 1 }
    let verdict ← judge S d branch.criterion
    count (countVerdict · verdict)
    return ⟨branch, verdict⟩

variable {S}

theorem ignoresJournal_judge {d : Value → Resolution σ Value}
    (hd : ∀ v, IgnoresJournal (fun _ => True) (d v)) (criterion : Criterion) :
    IgnoresJournal (fun _ => True) (judge S d criterion) := by
  have hlevel := (ignoresJournal_invariant S).aligned.level (e := d) fun v _ => hd v
  have hcaptured : (fun _ : Value => True) .null := trivial
  exact hlevel.mono (n := judge S d criterion) (hlevel.judgeFrom criterion 0 hcaptured)
    fun _ _ => trivial

/-- Choosing among branches is evaluating them all, each once, and considering what that comes
to. It notes its choices besides, and nothing reads these notes. -/
theorem select_of_judgeAll {d : Value → Resolution σ Value}
    (hd : ∀ v, IgnoresJournal (fun _ => True) (d v)) {branches : List Branch}
    {judged : List Judged} {s t : State σ} (hrun : judgeAll S d branches s = (.ok judged, t))
    (selection : Selection) (journal : List Event) :
    judged.map Judged.branch = branches ∧ ∃ journal',
      select S d branches selection (s.withJournal journal) =
        (.ok (selection.considerAll judged), t.withJournal journal') := by
  induction branches generalizing selection s judged journal with
  | nil =>
    rw [judgeAll, List.mapM_nil, pure_apply, Prod.mk.injEq, Except.ok.injEq] at hrun
    obtain ⟨rfl, rfl⟩ := hrun
    exact ⟨rfl, journal, rfl⟩
  | cons branch rest ih =>
    rw [judgeAll, List.mapM_cons] at hrun
    obtain ⟨entry, u, hfirst, hrest⟩ := bind_eq_ok hrun
    obtain ⟨others, w, hothers, hpure⟩ := bind_eq_ok hrest
    rw [pure_apply, Prod.mk.injEq, Except.ok.injEq] at hpure
    obtain ⟨rfl, rfl⟩ := hpure
    obtain ⟨⟨⟩, s₁, hcount, hfirst⟩ := bind_eq_ok hfirst
    obtain ⟨verdict, s₂, hverdict, hfirst⟩ := bind_eq_ok hfirst
    obtain ⟨⟨⟩, s₃, hcounted, hfirst⟩ := bind_eq_ok hfirst
    rw [pure_apply, Prod.mk.injEq, Except.ok.injEq] at hfirst
    obtain ⟨rfl, rfl⟩ := hfirst
    obtain rfl : _ = s₁ := congrArg Prod.snd hcount
    obtain rfl : _ = s₃ := congrArg Prod.snd hcounted
    obtain ⟨middle, hmiddle⟩ := (ignoresJournal_judge hd branch.criterion).run _ journal
    rw [hverdict] at hmiddle
    obtain ⟨hbranches, journal', hselect⟩ := ih hothers (selection.consider branch verdict)
      (selection.event branch.key verdict :: middle)
    refine ⟨by rw [List.map_cons, hbranches], journal', ?_⟩
    -- The notes of the choice are all that the two runs do not have in common.
    calc select S d (branch :: rest) selection (s.withJournal journal)
        = (judge S d branch.criterion >>= fun verdict => do
            count (countVerdict · verdict)
            note (selection.event branch.key verdict)
            select S d rest (selection.consider branch verdict))
          ((s.count fun m => { m with criteria := m.criteria + 1 }).withJournal journal) := rfl
      _ = select S d rest (selection.consider branch verdict)
          ((s₂.count (countVerdict · verdict)).withJournal
            (selection.event branch.key verdict :: middle)) := bind_of_ok hmiddle _
      _ = _ := hselect

def visitRule (S : Setting σ) (fallback : Option Value) : Resolution σ (Option Value) := do
  visit
  openRule S fallback

/-- A rule is visited, its criteria are evaluated, and it settles on what they choose. -/
theorem walk_of_isRule {d : Value → Resolution σ Value} {members : Record}
    (hrule : isRule members = true) :
    walk S d (.object members) = (do
      let seeded ← visitRule S (Rule.fallbackOf members)
      let selection ← select S d (Rule.branchesOf members) (.start seeded)
      settle S d selection.chosen) := by
  rw [walk, if_pos hrule, resolveRule_eq]
  simp only [visitRule, bind_assoc]
  rfl

def supplied (S : Setting σ) (probes : σ) : Value → Value
  | .probe p => (S.invoke p [("contexts", S.root)] probes).1
  | v => v

theorem openRule_supplied (S : Setting σ) (fallback : Option Value) (s : State σ) :
    ∃ t, openRule S fallback s = (.ok (fallback.map (supplied S s.probes)), t) := by
  cases fallback with
  | none => exact ⟨_, rfl⟩
  | some v => cases v <;> exact ⟨_, rfl⟩

theorem settle_getD (d : Value → Resolution σ Value) (chosen : Option Value) :
    settle S d chosen = settle S d (some (chosen.getD .null)) := by
  cases chosen with
  | none => simp [settle, Value.isLiteral]
  | some v => rfl

theorem resolveRule_of_judgeAll {d : Value → Resolution σ Value}
    (hd : ∀ v, IgnoresJournal (fun _ => True) (d v)) (rule : Rule) {s t u : State σ}
    {seeded : Option Value} {judged : List Judged}
    (hopen : openRule S rule.fallback s = (.ok seeded, t))
    (hjudge : judgeAll S d rule.branches t = (.ok judged, u)) :
    judged.map Judged.branch = rule.branches ∧ ∃ journal,
      resolveRule S d rule s =
        settle S d (some ((choice seeded judged).getD .null)) (u.withJournal journal) := by
  obtain ⟨hbranches, journal, hselect⟩ :=
    select_of_judgeAll hd hjudge (.start seeded) t.journal
  refine ⟨hbranches, journal, ?_⟩
  rw [resolveRule_eq, bind_of_ok hopen, ← settle_getD]
  rw [Selection.considerAll_start] at hselect
  exact bind_of_ok hselect _

/-- What a rule comes to. Its criteria are those of all keys but the fallback keys, in order, and
each is evaluated once. If that does not fail, then the rule becomes the choice among them, with
the first of a default and a value that is not null to fall back to, and null without any. The
evaluation goes on from the state that the criteria leave. Where the fallbacks stand among the
keys changes nothing. -/
theorem resolveWithin_rule (S : Setting σ) (levels : Nat) {members : Record}
    (hrule : isRule members = true) (s : State σ) :
    Rule.fallbackOf members = ((Entries.get? members "default").filter (!·.isNull)).or
      ((Entries.get? members "value").filter (!·.isNull)) ∧
    (Rule.branchesOf members).map Branch.key = members.keys.filter (!isFallbackKey ·) ∧
    (∃ t, visitRule S (Rule.fallbackOf members) s =
        (.ok ((Rule.fallbackOf members).map (supplied S s.probes)), t) ∧
      ∀ judged u,
        judgeAll S (descendWithin S levels) (Rule.branchesOf members) t = (.ok judged, u) →
        judged.map Judged.branch = Rule.branchesOf members ∧
        ∃ journal, resolveWithin S levels (.object members) s =
          settle S (descendWithin S levels)
            (some ((choice ((Rule.fallbackOf members).map (supplied S s.probes)) judged).getD
              .null))
            (u.withJournal journal)) ∧
    ∀ others, SameRule members others →
      resolveWithin S levels (.object others) = resolveWithin S levels (.object members) := by
  refine ⟨Rule.fallbackOf_eq members, Rule.keys_branchesOf members, ?_, fun others h => ?_⟩
  · obtain ⟨t, hopen⟩ := openRule_supplied S (Rule.fallbackOf members)
      (s.count fun m => { m with nodes := m.nodes + 1 })
    refine ⟨t, hopen, fun judged u hjudge => ?_⟩
    have hd := (ignoresJournal_invariant S).lockstep.descendWithin levels
    obtain ⟨hbranches, journal, hresolve⟩ :=
      resolveRule_of_judgeAll (fun v => hd v trivial) (.ofMembers members) hopen hjudge
    refine ⟨hbranches, journal, ?_⟩
    rw [resolveWithin_eq, walk, if_pos hrule]
    exact hresolve
  · have hothers : isRule others = true := h.isRule_eq ▸ hrule
    rw [resolveWithin_eq, walk, walk, if_pos hrule, if_pos hothers, h.ofMembers_eq]

def eveningSetting : Setting Unit where
  store := Store.ofRecord [
    ("@auth", .object [("status", .string "in")]),
    ("@date", .object [("meridiem", .string "pm")])]
  options := {}
  invoke := fun _ _ _ => (.null, ())

/-- Two clauses, a bare address, and one clause: the bare address stands after the better match,
and the worse match does not come back. -/
def interleaved : Record := [
  ("@auth.status:in @date.meridiem:pm", .string "two"), ("@date.meridiem", .null),
  ("value", .string "v"), ("@auth.status:in", .string "one"), ("default", .null)]

def fallbacksFirst : Record := [
  ("default", .null), ("value", .string "v"),
  ("@auth.status:in @date.meridiem:pm", .string "two"), ("@date.meridiem", .null),
  ("@auth.status:in", .string "one")]

theorem resolveWithin_rule_interleaved :
    isRule interleaved = true ∧ SameRule interleaved fallbacksFirst ∧
    resolveWithin eveningSetting 1 (.object fallbacksFirst) =
      resolveWithin eveningSetting 1 (.object interleaved) ∧
    ∃ t judged u v,
      visitRule eveningSetting (some (.string "v")) { probes := () } =
        (.ok (some (.string "v")), t) ∧
      judgeAll eveningSetting (descendWithin eveningSetting 1) (Rule.branchesOf interleaved) t =
        (.ok judged, u) ∧
      choice (some (.string "v")) judged = some v ∧ v.string? = some "pm" ∧
      ∃ journal, resolveWithin eveningSetting 1 (.object interleaved) { probes := () } =
        settle eveningSetting (descendWithin eveningSetting 1) (some v)
          (u.withJournal journal) := by
  have hrule : isRule interleaved = true := by decide +kernel
  have hsame : SameRule interleaved fallbacksFirst :=
    ⟨by simp [fallbackKeys, interleaved, fallbacksFirst, Entries.get?],
      by simp [interleaved, fallbacksFirst, isFallbackKey, fallbackKeys]⟩
  have hfallback : Rule.fallbackOf interleaved = some (.string "v") := by
    simp [Rule.fallbackOf, fallbackKeys, interleaved, Entries.get?, Value.isNull]
  obtain ⟨-, -, ⟨t, hopen, hrun⟩, hothers⟩ :=
    resolveWithin_rule eveningSetting 1 hrule { probes := () }
  simp only [hfallback, Option.map_some, supplied] at hopen hrun
  obtain rfl : _ = t := congrArg Prod.snd hopen
  have hchoice : ((judgeAll eveningSetting (descendWithin eveningSetting 1)
      (Rule.branchesOf interleaved)
      (visitRule eveningSetting (some (.string "v")) { probes := () }).2).1.toOption.bind
        fun judged => (choice (some (.string "v")) judged).bind Value.string?) = some "pm" := by
    decide +kernel
  obtain ⟨judged, hok, hjudged⟩ := Option.bind_eq_some_iff.mp hchoice
  obtain ⟨v, hv, hstring⟩ := Option.bind_eq_some_iff.mp hjudged
  generalize hjudge : judgeAll _ _ _ _ = run at hok
  obtain ⟨result, u⟩ := run
  cases result with
  | error e => simp [Except.toOption] at hok
  | ok all =>
    obtain rfl : all = judged := Option.some.inj hok
    obtain ⟨-, hresolve⟩ := hrun all u hjudge
    rw [hv, Option.getD_some] at hresolve
    exact ⟨hrule, hsame, hothers _ hsame, _, all, u, v, hopen, hjudge, hv, hstring, hresolve⟩

end Resolution
end RuleTemplate
