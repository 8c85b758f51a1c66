import RuleTemplate.Proofs.Resolution.Compositional

/-!
What a group of clauses comes to, said at once for the whole group. Its calls and matches hold one
after the other up to the first clause that is not a call or a match that holds. If there is no
such clause, the group has matched with all its clauses; otherwise that clause alone says what
the group comes to, and nothing after it takes place. If the answers of probes depend on their
arguments alone, the order of calls and matches changes nothing.
-/
namespace RuleTemplate.Resolution

variable {σ : Type}

def reach (S : Setting σ) (d : Value → Resolution σ Value) (clause : Clause) :
    Resolution σ (Option Value) := do
  note (.reached clause)
  capture S d clause

/-- The clauses are calls and matches that hold one after the other, from the first state to the
last, and these are the values that they capture. -/
inductive Held (S : Setting σ) (d : Value → Resolution σ Value) :
    State σ → Criterion → List Value → State σ → Prop
  | nil {s : State σ} : Held S d s [] [] s
  | cons {s t u : State σ} {clause : Clause} {v : Value} {rest : Criterion}
      {values : List Value} : clause.isBare = false → reach S d clause s = (.ok (some v), t) →
      Held S d t rest values u → Held S d s (clause :: rest) (v :: values) u

/-- The clause is not a call or a match that holds, and its group comes to the verdict. -/
inductive Ends (S : Setting σ) (d : Value → Resolution σ Value) :
    State σ → Clause → Verdict → State σ → Prop
  /-- The value at a bare address is there and not null. -/
  | supplies {s t : State σ} {address : String} {v : Value} :
      access S d address (s.note (.reached (.bare address))) = (.ok (some v), t) → v ≠ .null →
      Ends S d s (.bare address) (.tentative v) t
  /-- Nothing stands at a bare address, or null does. -/
  | lacks {s t : State σ} {address : String} {found : Option Value} :
      access S d address (s.note (.reached (.bare address))) = (.ok found, t) →
      (∀ v ∈ found, v = .null) → Ends S d s (.bare address) .failed t
  /-- A call or a match does not hold, or a call is malformed. -/
  | fails {s t : State σ} {clause : Clause} : clause.isBare = false →
      reach S d clause s = (.ok none, t) → Ends S d s clause .failed t

def heldVerdict (criterion : Criterion) (values : List Value) : Verdict :=
  match values.getLast? with
  | some v => .matched criterion.length v
  | none => .failed

variable {S : Setting σ} {d : Value → Resolution σ Value}

/-- No clause captures null. -/
theorem returns_capture_ne_null (clause : Clause) :
    Returns (fun found => ∀ v ∈ found, v ≠ .null) (capture S d clause) := by
  have hfilter (found : Option Value) (p : Value → Bool) (hp : ∀ v, p v = true → v.isNull = false)
      (v : Value) (hv : v ∈ found.filter p) : v ≠ .null := by
    rintro rfl
    have hnull := hp .null (Option.mem_filter_iff.mp hv).2
    simp [Value.isNull] at hnull
  cases clause with
  | bare address => exact Returns.after fun found => returns_pure (hfilter found _ (by simp))
  | oneOf address alternatives =>
    exact Returns.after fun found => returns_pure (hfilter found _ (by simp_all))
  | malformed target signature => exact Returns.after fun _ => returns_pure (by simp)
  | call target spec =>
    refine Returns.after fun _ => ?_
    cases targetProbe S target spec.name with
    | none => exact returns_pure (by simp)
    | some probe =>
      refine Returns.after fun args => Returns.after fun returned => Returns.after fun _ => ?_
      exact returns_pure (hfilter _ _ (by simp_all))

theorem isNull_eq_false {v : Value} (h : v ≠ .null) : v.isNull = false :=
  Bool.eq_false_iff.mpr fun hnull => h (Value.isNull_iff.mp hnull)

theorem ne_null_of_reach {clause : Clause} {s t : State σ} {v : Value}
    (h : reach S d clause s = (.ok (some v), t)) : v ≠ .null :=
  (Returns.after fun _ => returns_capture_ne_null clause) s (some v) t h v rfl

theorem Held.length_eq {s t : State σ} {criterion : Criterion} {values : List Value}
    (h : Held S d s criterion values t) : values.length = criterion.length := by
  induction h with
  | nil => rfl
  | cons _ _ _ ih => rw [List.length_cons, List.length_cons, ih]

theorem Held.ne_null {s t : State σ} {criterion : Criterion} {values : List Value}
    (h : Held S d s criterion values t) : ∀ v ∈ values, v ≠ .null := by
  induction h with
  | nil => simp
  | cons _ hreach _ ih => exact List.forall_mem_cons.mpr ⟨ne_null_of_reach hreach, ih⟩

/-- A bare address captures what stands there, unless it is null. -/
theorem reach_bare_eq_ok_iff {address : String} {s t : State σ} {captured : Option Value} :
    reach S d (.bare address) s = (.ok captured, t) ↔
      ∃ found, access S d address (s.note (.reached (.bare address))) = (.ok found, t) ∧
        captured = found.filter (!·.isNull) := by
  have hrun : reach S d (.bare address) s =
      (access S d address >>= fun found => pure (found.filter (!·.isNull)))
        (s.note (.reached (.bare address))) := rfl
  rw [hrun]
  constructor
  · intro h
    obtain ⟨found, u, haccess, hpure⟩ := bind_eq_ok h
    rw [pure_apply, Prod.mk.injEq, Except.ok.injEq] at hpure
    obtain ⟨rfl, rfl⟩ := hpure
    exact ⟨found, haccess, rfl⟩
  · rintro ⟨found, haccess, rfl⟩
    exact bind_of_ok haccess _

theorem judgeFrom_cons (clause : Clause) (rest : Criterion) (parts : Nat) (captured : Value) :
    judgeFrom S d parts captured (clause :: rest) = (do
      match ← reach S d clause with
      | none => return .failed
      | some v =>
        if clause.isBare then return .tentative v else judgeFrom S d (parts + 1) v rest) :=
  (bind_assoc (note (.reached clause)) (fun _ => capture S d clause) _).symm

theorem judgeFrom_of_fails {s t : State σ} {clause : Clause}
    (h : reach S d clause s = (.ok none, t)) (parts : Nat) (captured : Value) (rest : Criterion) :
    judgeFrom S d parts captured (clause :: rest) s = (.ok .failed, t) := by
  rw [judgeFrom_cons, bind_of_ok h]
  rfl

theorem judgeFrom_of_captures {s t : State σ} {clause : Clause} {v : Value}
    (h : reach S d clause s = (.ok (some v), t)) (parts : Nat) (captured : Value)
    (rest : Criterion) :
    judgeFrom S d parts captured (clause :: rest) s =
      if clause.isBare then (.ok (.tentative v), t) else judgeFrom S d (parts + 1) v rest t := by
  rw [judgeFrom_cons, bind_of_ok h]
  split <;> rfl

/-- Clauses that hold are counted, and the last one captures. -/
theorem judgeFrom_of_held {s u : State σ} {held : Criterion} {values : List Value}
    (h : Held S d s held values u) (parts : Nat) (captured : Value) (rest : Criterion) :
    judgeFrom S d parts captured (held ++ rest) s =
      judgeFrom S d (parts + held.length) (values.getLast?.getD captured) rest u := by
  induction h generalizing parts captured with
  | nil => rfl
  | @cons s t u clause v others values hbare hreach _ ih =>
    have hlast : (v :: values).getLast?.getD captured = values.getLast?.getD v := by
      cases values <;> simp [List.getLast?_cons]
    rw [List.cons_append, judgeFrom_of_captures hreach, hbare, if_neg Bool.false_ne_true, ih,
      hlast, List.length_cons, Nat.add_assoc, Nat.add_comm 1]

/-- What ends a group does so whatever comes after it. -/
theorem judgeFrom_of_ends {s t : State σ} {clause : Clause} {verdict : Verdict}
    (h : Ends S d s clause verdict t) (parts : Nat) (captured : Value) (after : Criterion) :
    judgeFrom S d parts captured (clause :: after) s = (.ok verdict, t) := by
  cases h with
  | @supplies _ address v haccess hv =>
    have hreach : reach S d (.bare address) s = (.ok (some v), t) :=
      reach_bare_eq_ok_iff.mpr ⟨some v, haccess, by simp [Option.filter, isNull_eq_false hv]⟩
    exact judgeFrom_of_captures hreach parts captured after
  | @lacks _ address found haccess hfound =>
    have hnone : found.filter (!·.isNull) = none := by
      simpa [Option.filter_eq_none_iff, Value.isNull_iff] using hfound
    have hreach : reach S d (.bare address) s = (.ok none, t) :=
      reach_bare_eq_ok_iff.mpr ⟨found, haccess, hnone.symm⟩
    exact judgeFrom_of_fails hreach parts captured after
  | fails hbare hreach => exact judgeFrom_of_fails hreach parts captured after

/-- A clause that is reached without a failure ends its group, or is a call or a match that
holds. -/
theorem ends_or_holds {clause : Clause} {s t : State σ} {captured : Option Value}
    (h : reach S d clause s = (.ok captured, t)) :
    (∃ verdict, Ends S d s clause verdict t) ∨ clause.isBare = false ∧ ∃ v, captured = some v := by
  cases hbare : clause.isBare with
  | false =>
    cases captured with
    | none => exact Or.inl ⟨.failed, .fails hbare h⟩
    | some v => exact Or.inr ⟨rfl, v, rfl⟩
  | true =>
    left
    cases clause with
    | bare address =>
      obtain ⟨found, haccess, -⟩ := reach_bare_eq_ok_iff.mp h
      by_cases hnull : ∀ v ∈ found, v = .null
      · exact ⟨.failed, .lacks haccess hnull⟩
      · simp only [not_forall] at hnull
        obtain ⟨v, hv, hne⟩ := hnull
        obtain rfl : found = some v := hv
        exact ⟨.tentative v, .supplies haccess hne⟩
    | _ => simp [Clause.isBare] at hbare

/-- A group that is judged without a failure has held as a whole, or one of its clauses ends it.
The induction is on the clauses; one that holds is added to the front of those that do. -/
theorem exists_held_of_judgeFrom {criterion : Criterion} {parts : Nat} {captured : Value}
    {s t : State σ} {verdict : Verdict}
    (h : judgeFrom S d parts captured criterion s = (.ok verdict, t)) :
    (∃ values, Held S d s criterion values t) ∨
      ∃ held clause after values u, criterion = held ++ clause :: after ∧
        Held S d s held values u ∧ Ends S d u clause verdict t := by
  induction criterion generalizing parts captured s with
  | nil =>
    obtain rfl : s = t := congrArg Prod.snd h
    exact Or.inl ⟨[], .nil⟩
  | cons clause rest ih =>
    have hfirst := h
    rw [judgeFrom_cons] at hfirst
    obtain ⟨found, u, hreach, -⟩ := bind_eq_ok hfirst
    rcases ends_or_holds hreach with ⟨verdict', hends⟩ | ⟨hbare, v, rfl⟩
    · rw [judgeFrom_of_ends hends, Prod.mk.injEq, Except.ok.injEq] at h
      obtain ⟨rfl, rfl⟩ := h
      exact Or.inr ⟨[], clause, rest, [], s, rfl, .nil, hends⟩
    · rw [judgeFrom_of_captures hreach, hbare, if_neg Bool.false_ne_true] at h
      rcases ih h with ⟨values, hheld⟩ | ⟨held, last, after, values, w, rfl, hheld, hends⟩
      · exact Or.inl ⟨v :: values, .cons hbare hreach hheld⟩
      · exact Or.inr ⟨clause :: held, last, after, v :: values, w, rfl,
          .cons hbare hreach hheld, hends⟩

theorem judge_of_held {criterion : Criterion} {values : List Value} {s t : State σ}
    (h : Held S d s criterion values t) :
    judge S d criterion s = (.ok (heldVerdict criterion values), t) := by
  have hrun := judgeFrom_of_held h 0 .null []
  rw [List.append_nil, Nat.zero_add] at hrun
  rw [judge, hrun, judgeFrom, heldVerdict]
  cases h with
  | nil => rfl
  | @cons _ _ _ clause v rest values _ _ _ =>
    simp [List.getLast?_cons, pure_apply]

theorem judge_of_ends {held : Criterion} {values : List Value} {clause : Clause}
    {verdict : Verdict} {s t u : State σ} (hheld : Held S d s held values u)
    (hends : Ends S d u clause verdict t) (after : Criterion) :
    judge S d (held ++ clause :: after) s = (.ok verdict, t) := by
  rw [judge, judgeFrom_of_held hheld, judgeFrom_of_ends hends]

/-- What an evaluation of a group comes to that does not fail. -/
theorem judge_eq_ok_iff {criterion : Criterion} {verdict : Verdict} {s t : State σ} :
    judge S d criterion s = (.ok verdict, t) ↔
      (∃ values, Held S d s criterion values t ∧ verdict = heldVerdict criterion values) ∨
      ∃ held clause after values u, criterion = held ++ clause :: after ∧
        Held S d s held values u ∧ Ends S d u clause verdict t := by
  constructor
  · intro h
    rcases exists_held_of_judgeFrom h with ⟨values, hheld⟩ | hends
    · rw [judge_of_held hheld, Prod.mk.injEq, Except.ok.injEq] at h
      exact Or.inl ⟨values, hheld, h.1.symm⟩
    · exact Or.inr hends
  · rintro (⟨values, hheld, rfl⟩ | ⟨held, clause, after, values, u, rfl, hheld, hends⟩)
    · exact judge_of_held hheld
    · exact judge_of_ends hheld hends after

def Holds (S : Setting σ) (d : Value → Resolution σ Value) (clause : Clause) : Prop :=
  clause.isBare = false ∧ ∀ s, ∃ v t, reach S d clause s = (.ok (some v), t)

def AllHold (S : Setting σ) (d : Value → Resolution σ Value) (criterion : Criterion) : Prop :=
  criterion ≠ [] ∧ ∀ clause ∈ criterion, Holds S d clause

/-- If what a clause comes to does not depend on what was evaluated before, clauses hold one after
the other if and only if each of them does. -/
theorem exists_held_iff (hreach : ∀ clause, Independent (fun _ => True) (reach S d clause))
    {criterion : Criterion} {s : State σ} :
    (∃ values t, Held S d s criterion values t) ↔ ∀ clause ∈ criterion, Holds S d clause := by
  constructor
  · rintro ⟨values, t, h⟩
    induction h with
    | nil => simp
    | @cons s t u clause v rest values hbare hfirst _ ih =>
      refine List.forall_mem_cons.mpr ⟨⟨hbare, fun s' => ?_⟩, ih⟩
      obtain ⟨result, share, hamounts, -⟩ := hreach clause
      have hresult := hamounts.result_eq s
      rw [hfirst] at hresult
      subst hresult
      exact ⟨v, _, hamounts.run_eq s'⟩
  · intro hall
    induction criterion generalizing s with
    | nil => exact ⟨[], s, .nil⟩
    | cons clause rest ih =>
      obtain ⟨⟨hbare, hholds⟩, hrest⟩ := List.forall_mem_cons.mp hall
      obtain ⟨v, t, hfirst⟩ := hholds s
      obtain ⟨values, u, hheld⟩ := ih (s := t) hrest
      exact ⟨v :: values, u, .cons hbare hfirst hheld⟩

/-- A group without bare addresses that is judged without a failure has matched with all its
clauses if there are some and all of them hold, and has failed otherwise. -/
theorem verdict_of_judge (hreach : ∀ clause, Independent (fun _ => True) (reach S d clause))
    {criterion : Criterion} (hbare : ∀ clause ∈ criterion, clause.isBare = false)
    {verdict : Verdict} {s t : State σ} (h : judge S d criterion s = (.ok verdict, t)) :
    (AllHold S d criterion → ∃ v, verdict = .matched criterion.length v) ∧
      (¬AllHold S d criterion → verdict = .failed) := by
  rcases judge_eq_ok_iff.mp h with
    ⟨values, hheld, rfl⟩ | ⟨held, clause, after, values, u, rfl, -, hends⟩
  · have hall := (exists_held_iff hreach).mp ⟨values, t, hheld⟩
    cases hheld with
    | nil => exact ⟨fun hne => absurd rfl hne.1, fun _ => rfl⟩
    | @cons _ _ _ clause v rest values _ _ _ =>
      refine ⟨fun _ => ⟨values.getLast?.getD v, ?_⟩, fun hnone => ?_⟩
      · simp [heldVerdict, List.getLast?_cons]
      · exact absurd ⟨List.cons_ne_nil clause rest, hall⟩ hnone
  · have hclause : clause ∈ held ++ clause :: after := by simp
    have hnot : ¬Holds S d clause := by
      rintro ⟨-, hholds⟩
      obtain ⟨v, w, hv⟩ := hholds u
      cases hends with
      | supplies | lacks => simpa [Clause.isBare] using hbare _ hclause
      | fails _ hnone => simp [hnone] at hv
    have hverdict : verdict = .failed := by
      cases hends with
      | supplies => simpa [Clause.isBare] using hbare _ hclause
      | lacks | fails => rfl
    exact ⟨fun hall => absurd (hall.2 clause hclause) hnot, fun _ => hverdict⟩

theorem allHold_perm {criterion other : Criterion} (h : criterion.Perm other) :
    AllHold S d criterion ↔ AllHold S d other := by
  simp only [AllHold, h.mem_iff, ne_eq, ← List.length_eq_zero_iff, h.length_eq]

theorem independent_reach {answer : Probe → Record → Value}
    (hanswer : ∀ probe args probes, (S.invoke probe args probes).1 = answer probe args)
    (levels : Nat) (clause : Clause) :
    Independent (fun _ => True) (reach S (descendWithin S levels) clause) := by
  have h := independent_invariant hanswer
  have hclause : Independent _ (reach S (descendWithin S levels) clause) :=
    (h.lockstep.level levels).reach clause
  exact h.mono hclause fun _ _ => trivial

/-- What a group of clauses comes to. If its evaluation does not fail, then either all its clauses
are calls and matches that hold one after the other, and it has matched with as many parts as it
has clauses and with what the last of them captures, or has failed because it has none; or some
clause is the first one that is not a call or a match that holds, and it says what the group comes
to. Each clause that holds captures a value that is not null. Nothing that stands after the first
clause that does not hold has any part in the run. If the answers of probes depend on their
arguments alone, then two groups of the same calls and matches in any order both match with all of
them or both fail, where neither evaluation fails. -/
theorem judge_first_end (S : Setting σ) (levels : Nat) :
    (∀ criterion verdict (s t : State σ),
      judge S (descendWithin S levels) criterion s = (.ok verdict, t) ↔
        (∃ values, Held S (descendWithin S levels) s criterion values t ∧
          verdict = heldVerdict criterion values) ∨
        ∃ held clause after values u, criterion = held ++ clause :: after ∧
          Held S (descendWithin S levels) s held values u ∧
          Ends S (descendWithin S levels) u clause verdict t) ∧
    (∀ criterion values (s t : State σ), Held S (descendWithin S levels) s criterion values t →
      values.length = criterion.length ∧ ∀ v ∈ values, v ≠ .null) ∧
    (∀ held clause values verdict (s t u : State σ),
      Held S (descendWithin S levels) s held values u →
      Ends S (descendWithin S levels) u clause verdict t →
      ∀ after, judge S (descendWithin S levels) (held ++ clause :: after) s = (.ok verdict, t)) ∧
    ∀ answer : Probe → Record → Value,
      (∀ probe args probes, (S.invoke probe args probes).1 = answer probe args) →
      ∀ criterion other verdict verdict' (s s' t t' : State σ), criterion.Perm other →
        (∀ clause ∈ criterion, clause.isBare = false) →
        judge S (descendWithin S levels) criterion s = (.ok verdict, t) →
        judge S (descendWithin S levels) other s' = (.ok verdict', t') →
        (∃ v v', verdict = .matched criterion.length v ∧ verdict' = .matched criterion.length v') ∨
          verdict = .failed ∧ verdict' = .failed := by
  refine ⟨fun _ _ _ _ => judge_eq_ok_iff, fun _ _ _ _ h => ⟨h.length_eq, h.ne_null⟩,
    fun _ _ _ _ _ _ _ hheld hends after => judge_of_ends hheld hends after, ?_⟩
  intro answer hanswer criterion other verdict verdict' s s' t t' hperm hbare hjudge hjudge'
  have hreach := independent_reach hanswer levels
  have hbare' : ∀ clause ∈ other, clause.isBare = false :=
    fun clause hclause => hbare clause (hperm.mem_iff.mpr hclause)
  obtain ⟨hmatched, hfailed⟩ := verdict_of_judge hreach hbare hjudge
  obtain ⟨hmatched', hfailed'⟩ := verdict_of_judge hreach hbare' hjudge'
  by_cases hall : AllHold S (descendWithin S levels) criterion
  · obtain ⟨v, hv⟩ := hmatched hall
    obtain ⟨v', hv'⟩ := hmatched' ((allHold_perm hperm).mp hall)
    exact Or.inl ⟨v, v', hv, hperm.length_eq ▸ hv'⟩
  · exact Or.inr ⟨hfailed hall, hfailed' fun hall' => hall ((allHold_perm hperm).mpr hall')⟩

def callAndMatch : Criterion :=
  [.call "@svc" ⟨"next", [("k", "@a.x")], "", "deep"⟩, .oneOf "@b.y" ["high", "deep"]]

theorem judge_first_end_reordered : ∃ (t t' u w : State Nat) (v' : Value),
    Held repeatingSetting (descendWithin repeatingSetting 2) { probes := 0 } callAndMatch
      [.string "deep", .string "deep"] t ∧
    judge repeatingSetting (descendWithin repeatingSetting 2) callAndMatch { probes := 0 } =
      (.ok (.matched 2 (.string "deep")), t) ∧
    judge repeatingSetting (descendWithin repeatingSetting 2) callAndMatch.reverse
      { probes := 7 } = (.ok (.matched 2 v'), t') ∧
    Ends repeatingSetting (descendWithin repeatingSetting 2) t (.bare "@b.y")
      (.tentative (.string "deep")) u ∧
    judge repeatingSetting (descendWithin repeatingSetting 2)
      (callAndMatch ++ .bare "@b.y" :: [.malformed "@svc" "next"]) { probes := 0 } =
      (.ok (.tentative (.string "deep")), w) := by
  obtain ⟨hiff, -, hafter, hperm⟩ := judge_first_end repeatingSetting 2
  obtain ⟨s, hcall⟩ : ∃ s, reach repeatingSetting (descendWithin repeatingSetting 2)
      (.call "@svc" ⟨"next", [("k", "@a.x")], "", "deep"⟩) { probes := 0 } =
        (.ok (some (.string "deep")), s) := ⟨_, Prod.ext rfl rfl⟩
  obtain ⟨t, hmatch⟩ : ∃ t, reach repeatingSetting (descendWithin repeatingSetting 2)
      (.oneOf "@b.y" ["high", "deep"]) s = (.ok (some (.string "deep")), t) :=
    ⟨_, Prod.ext rfl rfl⟩
  obtain ⟨u, hsupplies⟩ : ∃ u, access repeatingSetting (descendWithin repeatingSetting 2) "@b.y"
      (t.note (.reached (.bare "@b.y"))) = (.ok (some (.string "deep")), u) :=
    ⟨_, Prod.ext rfl rfl⟩
  have hheld : Held repeatingSetting (descendWithin repeatingSetting 2) { probes := 0 }
      callAndMatch [.string "deep", .string "deep"] t :=
    .cons rfl hcall (.cons rfl hmatch .nil)
  have hjudge := (hiff callAndMatch _ _ _).mpr (Or.inl ⟨_, hheld, rfl⟩)
  have hends : Ends repeatingSetting (descendWithin repeatingSetting 2) t (.bare "@b.y")
      (.tentative (.string "deep")) u := .supplies hsupplies (by simp)
  obtain ⟨verdict', hjudge'⟩ := exists_of_isOk
    (m := judge repeatingSetting (descendWithin repeatingSetting 2) callAndMatch.reverse)
    (s := { probes := 7 }) (by decide +kernel)
  have hbare : ∀ clause ∈ callAndMatch, clause.isBare = false := by
    simp [callAndMatch, Clause.isBare]
  rcases hperm (fun _ args => (Entries.get? args "k").getD .null) (fun _ _ _ => rfl) callAndMatch
    callAndMatch.reverse _ _ _ _ _ _ (List.reverse_perm _).symm hbare hjudge hjudge' with
    ⟨v, v', -, rfl⟩ | ⟨hfailed, -⟩
  · exact ⟨t, _, u, u, v', hheld, hjudge, hjudge', hends, hafter _ _ _ _ _ _ _ hheld hends _⟩
  · simp [heldVerdict, callAndMatch] at hfailed

end RuleTemplate.Resolution
