import RuleTemplate.Proofs.Resolution.Recursion
import RuleTemplate.Proofs.Resolution.Tally
import RuleTemplate.Proofs.Value.Equality

/-!
What the counters keep to. A criterion is counted before it can match, and a value before it can
be a rule. A level is opened by an address that was looked up or by a rule that was begun, and
each of them has at most one level open at a time, so there are never more levels open than
look-ups and rules counted. The counters of a run are therefore those before it and a balanced
share, also if it fails, where what was counted right before the run may balance it.
-/
namespace RuleTemplate

namespace Metrics

instance : LE Metrics where
  le a b := a.nodes ≤ b.nodes ∧ a.rules ≤ b.rules ∧ a.criteria ≤ b.criteria ∧
    a.matched ≤ b.matched ∧ a.probeCalls ≤ b.probeCalls ∧ a.lookups ≤ b.lookups ∧
    a.maxDepth ≤ b.maxDepth

theorem le_add_right (a b : Metrics) : a ≤ a + b := by
  refine ⟨?_, ?_, ?_, ?_, ?_, ?_, Nat.le_max_left _ _⟩ <;> exact Nat.le_add_right _ _

/-- Counters of a run that begins at a depth and opens at most so many levels. -/
structure Balanced (depth levels : Nat) (m : Metrics) : Prop where
  matched_le : m.matched ≤ m.criteria
  rules_le : m.rules ≤ m.nodes
  maxDepth_le : m.maxDepth ≤ depth + levels
  /-- Every level is opened by a look-up or by a rule. -/
  maxDepth_le_opening : m.maxDepth ≤ depth + (m.lookups + m.rules)

theorem balanced_iff {depth levels : Nat} {m : Metrics} :
    m.Balanced depth levels ↔ m.matched ≤ m.criteria ∧ m.rules ≤ m.nodes ∧
      m.maxDepth ≤ depth + levels ∧ m.maxDepth ≤ depth + (m.lookups + m.rules) :=
  ⟨fun h => ⟨h.1, h.2, h.3, h.4⟩, fun h => ⟨h.1, h.2.1, h.2.2.1, h.2.2.2⟩⟩

instance (depth levels : Nat) (m : Metrics) : Decidable (m.Balanced depth levels) :=
  decidable_of_iff _ balanced_iff.symm

theorem balanced_zero (depth levels : Nat) : (0 : Metrics).Balanced depth levels :=
  ⟨Nat.le_refl 0, Nat.le_refl 0, Nat.zero_le _, Nat.zero_le _⟩

theorem Balanced.add {depth levels : Nat} {a b : Metrics} (ha : a.Balanced depth levels)
    (hb : b.Balanced depth levels) : (a + b).Balanced depth levels := by
  obtain ⟨hmatched, hrules, hlevels, hopening⟩ := ha
  obtain ⟨hmatched', hrules', hlevels', hopening'⟩ := hb
  constructor <;> simp only [add_def] <;> omega

/-- What is balanced without any level is so at any depth. -/
theorem Balanced.lift {m : Metrics} (h : m.Balanced 0 0) (depth levels : Nat) :
    m.Balanced depth levels := by
  obtain ⟨hmatched, hrules, hlevels, hopening⟩ := h
  exact ⟨hmatched, hrules, by omega, by omega⟩

/-- One level deeper, which a look-up or a rule pays for that is counted before. -/
theorem Balanced.nested {depth levels : Nat} {paid share : Metrics} (hpaid : paid.Balanced 0 0)
    (hopening : 0 < paid.lookups + paid.rules) (h : share.Balanced (depth + 1) levels) :
    (paid + ({ maxDepth := depth + 1 } + share)).Balanced depth (levels + 1) := by
  obtain ⟨hmatched, hrules, hlevels, hopening'⟩ := h
  obtain ⟨hmatched', hrules', hlevels', -⟩ := hpaid
  constructor <;> simp only [add_def] <;> omega

end Metrics

namespace Resolution

open Metrics (Balanced)

variable {σ α β : Type}

/-- The run comes back to the depth where it began, and its counters, with those that were paid
right before it, are balanced. It opens at most so many levels. -/
def Covered (paid : Metrics) (levels : Nat) (m : Resolution σ α) : Prop :=
  ∀ s, (m s).2.depth = s.depth ∧
    ∃ share, (m s).2.metrics = s.metrics + share ∧ (paid + share).Balanced s.depth levels

def Counts (part : Metrics) (m : Resolution σ α) : Prop :=
  ∀ s, ∃ a t, m s = (.ok a, t) ∧ t.depth = s.depth ∧ t.metrics = s.metrics + part

theorem counts_note (event : Event) : Counts 0 (note event : Resolution σ Unit) :=
  fun s => ⟨(), s.note event, rfl, rfl, (add_zero s.metrics).symm⟩

theorem counts_count {part : Metrics} {change : Metrics → Metrics}
    (h : ∀ m, change m = m + part) : Counts part (count change : Resolution σ Unit) :=
  fun s => ⟨(), s.count change, rfl, rfl, h s.metrics⟩

theorem counts_lookup (address : String) (found : Bool) :
    Counts { lookups := 1 } (noteLookup address found : Resolution σ Unit) :=
  fun s => ⟨(), (noteLookup address found s).2, rfl, rfl, by simp [noteLookup, Metrics.add_def]⟩

theorem counts_call (S : Setting σ) (cause : Cause) (probe : Probe) (args : Record) :
    Counts { probeCalls := 1 } (call S cause probe args) :=
  fun s => ⟨(S.invoke probe args s.probes).1, (call S cause probe args s).2, rfl, rfl,
    by simp [call, Metrics.add_def]⟩

theorem counts_visit : Counts { nodes := 1 } (visit : Resolution σ Unit) :=
  counts_count fun m => by simp [Metrics.add_def]

variable {paid part : Metrics} {levels : Nat}

theorem covered_pure (hpaid : paid.Balanced 0 0) (a : α) :
    Covered paid levels (pure a : Resolution σ α) :=
  fun s => ⟨rfl, 0, (add_zero s.metrics).symm, by
    rw [add_zero]
    exact hpaid.lift s.depth levels⟩

theorem covered_refuse (hpaid : paid.Balanced 0 0) (limit : Nat) :
    Covered paid levels (refuse limit : Resolution σ α) :=
  fun s => ⟨rfl, 0, (add_zero s.metrics).symm, by
    rw [add_zero]
    exact hpaid.lift s.depth levels⟩

/-- What a step counts is paid for the run that follows it. -/
theorem Counts.bind {m : Resolution σ α} {f : α → Resolution σ β} (hm : Counts part m)
    (hf : ∀ a, Covered (paid + part) levels (f a)) : Covered paid levels (m >>= f) := by
  intro s
  obtain ⟨a, t, hrun, hdepth, hmetrics⟩ := hm s
  obtain ⟨hdepth', share, hshare, hbalanced⟩ := hf a t
  rw [bind_of_ok hrun]
  refine ⟨hdepth'.trans hdepth, part + share, ?_, ?_⟩
  · rw [hshare, hmetrics, add_assoc]
  · rw [← add_assoc, ← hdepth]
    exact hbalanced

theorem Covered.noted {m : Resolution σ α} (hm : Covered paid levels m) (event : Event) :
    Covered paid levels (note event >>= fun _ => m) :=
  (counts_note event).bind fun _ => by rwa [add_zero]

theorem Covered.after {m : Resolution σ α} (hm : Covered 0 levels m) (hpaid : paid.Balanced 0 0) :
    Covered paid levels m := by
  intro s
  obtain ⟨hdepth, share, hshare, hbalanced⟩ := hm s
  rw [zero_add] at hbalanced
  exact ⟨hdepth, share, hshare, (hpaid.lift s.depth levels).add hbalanced⟩

/-- If the first run fails, what was paid for the second one is left over. -/
theorem Covered.bind {m : Resolution σ α} {f : α → Resolution σ β} (hm : Covered 0 levels m)
    (hpaid : paid.Balanced 0 0) (hf : ∀ a, Covered paid levels (f a)) :
    Covered paid levels (m >>= f) := by
  intro s
  obtain ⟨hdepth, share, hshare, hbalanced⟩ := hm s
  rw [zero_add] at hbalanced
  rcases hrun : m s with ⟨result, t⟩
  rw [hrun] at hdepth hshare
  cases result with
  | error e =>
    rw [bind_of_error hrun]
    exact ⟨hdepth, share, hshare, (hpaid.lift s.depth levels).add hbalanced⟩
  | ok a =>
    rw [bind_of_ok hrun]
    obtain ⟨hdepth', share', hshare', hbalanced'⟩ := hf a t
    have hdepth : t.depth = s.depth := hdepth
    refine ⟨hdepth'.trans hdepth, share + share', ?_, ?_⟩
    · rw [hshare', hshare, add_assoc]
    · rw [hdepth] at hbalanced'
      rw [add_left_comm]
      exact hbalanced.add hbalanced'

theorem Covered.map {m : Resolution σ α} (hm : Covered paid levels m) (g : α → β) :
    Covered paid levels (g <$> m) := by
  intro s
  have hstate : ((g <$> m) s).2 = (m s).2 := by
    rw [map_eq_pure_bind, bind_apply]
    rcases m s with ⟨_ | _, _⟩ <;> rfl
  rw [hstate]
  exact hm s

theorem Covered.mapM {ι : Type} {f : ι → Resolution σ β} {xs : List ι}
    (hf : ∀ x ∈ xs, Covered 0 levels (f x)) : Covered 0 levels (xs.mapM f) := by
  have hzero := Metrics.balanced_zero 0 0
  induction xs with
  | nil => exact covered_pure hzero []
  | cons x rest ih =>
    rw [List.mapM_cons]
    refine (hf x List.mem_cons_self).bind hzero fun b => ?_
    exact (ih fun y hy => hf y (List.mem_cons_of_mem _ hy)).bind hzero fun bs =>
      covered_pure hzero (b :: bs)

/-- One level deeper. The look-up or the rule that leads there has been counted. -/
theorem Covered.nested {m : Resolution σ α} (hm : Covered 0 levels m) (hpaid : paid.Balanced 0 0)
    (hopening : 0 < paid.lookups + paid.rules) : Covered paid (levels + 1) (nested m) := by
  intro s
  obtain ⟨hdepth, share, hshare, hbalanced⟩ := hm s.enter
  rw [zero_add] at hbalanced
  rw [nested_apply]
  refine ⟨?_, { maxDepth := s.depth + 1 } + share, ?_, hpaid.nested hopening hbalanced⟩
  · rw [State.leave_depth, hdepth, State.enter_depth, Nat.add_sub_cancel]
  · rw [State.leave_metrics, hshare, State.enter_metrics, add_assoc]

def Charged (levels : Nat) (d : Value → Resolution σ Value) : Prop :=
  ∀ paid : Metrics, paid.Balanced 0 0 → 0 < paid.lookups + paid.rules →
    ∀ v, Covered paid levels (d v)

variable {S : Setting σ} {d : Value → Resolution σ Value}

theorem covered_access (hd : Charged levels d) (address : String) :
    Covered 0 levels (access S d address) := by
  unfold access
  refine (counts_lookup address _).bind fun _ => ?_
  have hpaid : ((0 : Metrics) + { lookups := 1 }).Balanced 0 0 := by decide
  cases Address.lookup S.root address with
  | none => exact covered_pure hpaid none
  | some v => exact (hd _ hpaid (by decide) v).map some

/-- What a run comes to is covered if the run is and nothing more is counted. -/
theorem Covered.then_pure {m : Resolution σ α} (hm : Covered 0 levels m) (g : α → β) :
    Covered 0 levels (m >>= fun a => pure (g a)) :=
  hm.bind (Metrics.balanced_zero 0 0) fun a => covered_pure (Metrics.balanced_zero 0 0) (g a)

theorem covered_argument (hd : Charged levels d) (text : String) :
    Covered 0 levels (argument S d text) := by
  unfold argument
  by_cases hsigil : hasSigil text = true
  · rw [if_pos hsigil]
    exact (covered_access hd text).then_pure fun found => found.getD .null
  · rw [if_neg hsigil]
    exact covered_pure (Metrics.balanced_zero 0 0) _

theorem covered_bindArgs (hd : Charged levels d) (args : List (String × String))
    (bound : Record) : Covered 0 levels (bindArgs S d args bound) := by
  induction args generalizing bound with
  | nil => exact covered_pure (Metrics.balanced_zero 0 0) bound
  | cons arg rest ih =>
    obtain ⟨name, text⟩ := arg
    exact (covered_argument hd text).bind (Metrics.balanced_zero 0 0) fun v => ih _

theorem covered_callClause (hd : Charged levels d) (target : String) (spec : CallSpec) :
    Covered 0 levels (callClause S d target spec) := by
  have hzero := Metrics.balanced_zero 0 0
  refine Covered.noted ?_ _
  cases targetProbe S target spec.name with
  | none => exact covered_pure hzero none
  | some probe =>
    refine (covered_bindArgs hd spec.args []).bind hzero fun args => ?_
    refine (counts_call S _ probe args).bind fun returned => Covered.noted ?_ _
    exact covered_pure (by decide) _

theorem covered_capture (hd : Charged levels d) (clause : Clause) :
    Covered 0 levels (capture S d clause) := by
  cases clause with
  | bare address => exact (covered_access hd address).then_pure _
  | oneOf address alternatives => exact (covered_access hd address).then_pure _
  | call target spec => exact covered_callClause hd target spec
  | malformed target signature =>
    exact (covered_pure (Metrics.balanced_zero 0 0) none).noted _

theorem covered_judgeFrom (hd : Charged levels d) (criterion : Criterion) (parts : Nat)
    (captured : Value) : Covered 0 levels (judgeFrom S d parts captured criterion) := by
  have hzero := Metrics.balanced_zero 0 0
  induction criterion generalizing parts captured with
  | nil => exact covered_pure hzero _
  | cons clause rest ih =>
    refine Covered.noted ((covered_capture hd clause).bind hzero fun found => ?_) _
    cases found with
    | none => exact covered_pure hzero _
    | some v =>
      dsimp only
      by_cases hbare : clause.isBare = true
      · rw [if_pos hbare]
        exact covered_pure hzero _
      · rw [if_neg hbare]
        exact ih (parts + 1) v

def verdictShare : Verdict → Metrics
  | .matched _ _ => { matched := 1 }
  | _ => 0

theorem counts_verdict (verdict : Verdict) :
    Counts (verdictShare verdict) (count (countVerdict · verdict) : Resolution σ Unit) := by
  refine counts_count fun m => ?_
  cases verdict with
  | matched parts captured => simp [countVerdict, verdictShare, Metrics.add_def]
  | _ => exact (add_zero m).symm

theorem counts_criterion :
    Counts { criteria := 1 }
      (count fun m => { m with criteria := m.criteria + 1 } : Resolution σ Unit) :=
  counts_count fun m => by simp [Metrics.add_def]

/-- A criterion is counted before the verdict on it. -/
theorem covered_select (hd : Charged levels d) (branches : List Branch) (selection : Selection) :
    Covered 0 levels (select S d branches selection) := by
  induction branches generalizing selection with
  | nil => exact covered_pure (Metrics.balanced_zero 0 0) selection
  | cons branch rest ih =>
    refine counts_criterion.bind fun _ => ?_
    refine (covered_judgeFrom hd branch.criterion 0 .null).bind (by decide) fun verdict => ?_
    have hpaid : (0 + { criteria := 1 } + verdictShare verdict).Balanced 0 0 := by
      unfold verdictShare
      split <;> decide
    exact (counts_verdict verdict).bind fun _ => ((ih _).after hpaid).noted _

theorem covered_settle (hd : Charged levels d) (hpaid : paid.Balanced 0 0)
    (hopening : 0 < paid.lookups + paid.rules) (chosen : Option Value) :
    Covered paid levels (settle S d chosen) := by
  cases chosen with
  | none => exact covered_pure hpaid Value.null
  | some v =>
    unfold settle
    dsimp only
    by_cases hcollapse : (S.options.collapseFalsy && !v.isTruthy) = true
    · rw [if_pos hcollapse]
      exact covered_pure hpaid Value.null
    · rw [if_neg hcollapse]
      by_cases hliteral : v.isLiteral = true
      · rw [if_pos hliteral]
        exact covered_pure hpaid v
      · rw [if_neg hliteral]
        exact hd paid hpaid hopening v

theorem covered_seed (S : Setting σ) (fallback : Option Value) :
    Covered 0 levels (fallback.mapM (seed S)) := by
  have hzero := Metrics.balanced_zero 0 0
  cases fallback with
  | none => exact covered_pure hzero none
  | some v =>
    refine Covered.map (m := seed S v) ?_ some
    cases v with
    | probe p =>
      have hcall : Covered 0 levels (call S .fallback p [("contexts", S.root)] >>= pure) :=
        (counts_call S _ p _).bind fun answer => covered_pure (by decide) answer
      rwa [bind_pure] at hcall
    | _ => exact covered_pure hzero _

/-- A rule pays for the level of its outcome, and the value that it is was counted before. -/
theorem covered_resolveRule (hd : Charged levels d) (rule : Rule) :
    Covered { nodes := 1 } levels (resolveRule S d rule) := by
  have hrule : Counts { rules := 1 }
      (count fun m => { m with rules := m.rules + 1 } : Resolution σ Unit) :=
    counts_count Metrics.rule_counted
  refine hrule.bind fun _ => Covered.noted ?_ _
  refine (covered_seed S rule.fallback).bind (by decide) fun fallback => ?_
  exact (covered_select hd rule.branches (.start fallback)).bind (by decide) fun selection =>
    covered_settle hd (by decide) (by decide) selection.chosen

/-- The induction is on the value, whose parts are resolved on the same level. -/
theorem covered_walk (hd : Charged levels d) (v : Value) : Covered 0 levels (walk S d v) := by
  -- A visit counts a node only, and nothing has to pay for it.
  have hpaid : ((0 : Metrics) + { nodes := 1 }).Balanced 0 0 := by decide
  induction v using Value.induction with
  | string text =>
    rw [walk]
    refine counts_visit.bind fun _ => ?_
    by_cases hsigil : hasSigil text = true
    · rw [if_pos hsigil]
      exact ((covered_access hd text).then_pure fun found => found.getD .null).after hpaid
    · rw [if_neg hsigil]
      exact covered_pure hpaid _
  | array items ih =>
    rw [walk, walkItems_eq_mapM]
    exact counts_visit.bind fun _ => ((Covered.mapM ih).then_pure Value.array).after hpaid
  | object members ih =>
    rw [walk, walkMembers_eq_mapM]
    refine counts_visit.bind fun _ => ?_
    by_cases hrule : isRule members = true
    · rw [if_pos hrule]
      exact covered_resolveRule hd (.ofMembers members)
    · rw [if_neg hrule]
      have hmembers := Covered.mapM fun member hmember => (ih member hmember).map (member.1, ·)
      exact (hmembers.then_pure Value.object).after hpaid
  | null => exact counts_visit.bind fun _ => covered_pure hpaid _
  | bool b => exact counts_visit.bind fun _ => covered_pure hpaid _
  | number n => exact counts_visit.bind fun _ => covered_pure hpaid _
  | probe p => exact counts_visit.bind fun _ => covered_pure hpaid _

/-- The induction is on the levels that may be opened. -/
theorem charged_descendWithin (S : Setting σ) (levels : Nat) :
    Charged levels (descendWithin S levels) := by
  induction levels with
  | zero => exact fun paid hpaid _ _ => covered_refuse hpaid S.options.maxDepth
  | succ levels ih =>
    intro paid hpaid hopening v
    change Covered paid (levels + 1) (nested (resolveWithin S levels v))
    rw [resolveWithin_eq]
    exact (covered_walk ih v).nested hpaid hopening

theorem covered_resolveValue (S : Setting σ) (v : Value) :
    Covered 0 S.options.maxDepth (resolveValue S v) := by
  rw [resolveValue, resolveWithin_eq]
  exact covered_walk (charged_descendWithin S _) v

theorem covered_resolveAddress (S : Setting σ) (address : String) :
    Covered 0 S.options.maxDepth (resolveAddress S address) :=
  covered_access (charged_descendWithin S _) address

def DepthCounted (s : State σ) : Prop := s.depth ≤ s.metrics.maxDepth

/-- The single steps. No state comes between the one where a step begins and the one where it
ends, and both are on one level. -/
inductive IsStep (S : Setting σ) : {α : Type} → Resolution σ α → Prop
  | pure {α : Type} (a : α) : IsStep S (pure a)
  | note (event : Event) : IsStep S (note event)
  | count (change : Metrics → Metrics) : IsStep S (count change)
  | lookup (address : String) (found : Bool) : IsStep S (noteLookup address found)
  | call (cause : Cause) (probe : Probe) (args : Record) : IsStep S (call S cause probe args)
  | refuse {α : Type} (limit : Nat) : IsStep S (refuse limit : Resolution σ α)
  | finish : IsStep S (update fun s => s.note (.finished s.metrics))

/-- All states of the run from a state have the property, however deep they are: a run is a step,
a run after another one that succeeds, or a run one level deeper. -/
inductive Throughout (S : Setting σ) (I : State σ → Prop) :
    {α : Type} → Resolution σ α → State σ → Prop
  | step {α : Type} {m : Resolution σ α} {s : State σ} (hm : IsStep S m) (hbegin : I s)
      (hend : I (m s).2) : Throughout S I m s
  | bind {α β : Type} {m : Resolution σ α} {f : α → Resolution σ β} {s : State σ}
      (hm : Throughout S I m s) (hf : ∀ a t, m s = (.ok a, t) → Throughout S I (f a) t) :
      Throughout S I (m >>= f) s
  | nested {α : Type} {m : Resolution σ α} {s : State σ} (hbegin : I s)
      (hm : Throughout S I m s.enter) (hend : I (m s.enter).2.leave) : Throughout S I (nested m) s

theorem Throughout.ends {I : State σ → Prop} {m : Resolution σ α} {s : State σ}
    (h : Throughout S I m s) : I s ∧ I (m s).2 := by
  induction h with
  | step _ hbegin hend => exact ⟨hbegin, hend⟩
  | @bind α β m f s _ _ hm hf =>
    refine ⟨hm.1, ?_⟩
    rcases hrun : m s with ⟨result, t⟩
    cases result with
    | error e =>
      rw [bind_of_error hrun]
      simpa [hrun] using hm.2
    | ok a =>
      rw [bind_of_ok hrun]
      exact (hf a t hrun).2
  | nested hbegin _ hend => exact ⟨hbegin, hend⟩

def StaysCounted (S : Setting σ) (Φ : α → Prop) (m : Resolution σ α) : Prop :=
  ∀ s, DepthCounted s → Throughout S DepthCounted m s ∧ ∀ a, (m s).1 = .ok a → Φ a

/-- A step stays on its level, and what it counts does not make the deepest level less deep. -/
theorem staysCounted_step {m : Resolution σ α} (hm : IsStep S m)
    (hmetrics : ∀ s, s.metrics.maxDepth ≤ (m s).2.metrics.maxDepth) :
    StaysCounted S (fun _ => True) m := by
  intro s hs
  have hdepth : (m s).2.depth = s.depth := by
    cases hm <;> rfl
  refine ⟨.step hm hs ?_, fun _ _ => trivial⟩
  rw [DepthCounted, hdepth]
  exact Nat.le_trans hs (hmetrics s)

theorem StaysCounted.bind {Φ : α → Prop} {Ψ : β → Prop} {m : Resolution σ α}
    {f : α → Resolution σ β} (hm : StaysCounted S Φ m)
    (hf : ∀ a, Φ a → StaysCounted S Ψ (f a)) : StaysCounted S Ψ (m >>= f) := by
  intro s hs
  obtain ⟨hrun, hresult⟩ := hm s hs
  have hnext (a : α) (t : State σ) (h : m s = (.ok a, t)) :
      Throughout S DepthCounted (f a) t ∧ ∀ b, (f a t).1 = .ok b → Ψ b := by
    have ht : DepthCounted (m s).2 := hrun.ends.2
    rw [h] at ht
    exact hf a (hresult a (by rw [h])) t ht
  refine ⟨.bind hrun fun a t h => (hnext a t h).1, fun b hb => ?_⟩
  obtain ⟨a, t, h, hrest⟩ := bind_eq_ok (Prod.ext hb rfl)
  exact (hnext a t h).2 b (congrArg Prod.fst hrest)

/-- A level that is entered is counted at once. -/
theorem StaysCounted.nested {Φ : α → Prop} {m : Resolution σ α} (hm : StaysCounted S Φ m) :
    StaysCounted S Φ (nested m) := by
  intro s hs
  have henter : DepthCounted s.enter := Nat.le_max_right _ _
  obtain ⟨hinside, hresult⟩ := hm s.enter henter
  have hleave : DepthCounted (m s.enter).2.leave := Nat.le_trans (Nat.sub_le _ 1) hinside.ends.2
  exact ⟨.nested hs hinside hleave, hresult⟩

theorem staysCounted_congruence (S : Setting σ) :
    Congruence fun _ Φ (m _ : Resolution σ _) => StaysCounted S Φ m where
  pure ha s hs := ⟨(staysCounted_step (.pure _) (fun _ => Nat.le_refl _) s hs).1,
    fun _ hb => Except.ok.inj hb ▸ ha⟩
  bind := StaysCounted.bind
  note event _ := staysCounted_step (.note event) fun _ => Nat.le_refl _
  count change htally := by
    obtain ⟨share, -, -, -, -, hchange⟩ := htally
    refine staysCounted_step (.count change) fun s => ?_
    change s.metrics.maxDepth ≤ (change s.metrics).maxDepth
    rw [hchange]
    exact Nat.le_max_left _ _

theorem staysCounted_invariant (S : Setting σ) :
    Invariant S (fun _ => True) (fun _ => True) fun _ Φ m => StaysCounted S Φ m where
  aligned := (staysCounted_congruence S).aligned closed_trivial rfl trivial rfl
    (staysCounted_step (.count _) fun _ => Nat.le_refl _)
    (fun event _ => staysCounted_step (.note event) fun _ => Nat.le_refl _)
    (fun address found => staysCounted_step (.lookup address found) fun _ => Nat.le_refl _)
    fun cause probe args _ _ => staysCounted_step (.call cause probe args) fun _ => Nat.le_refl _
  refuse := staysCounted_step (.refuse _) fun _ => Nat.le_refl _
  nested _ hm := hm.nested
  finish := staysCounted_step .finish fun _ => Nat.le_refl _

inductive Request
  | value (v : Value)
  | address (address : String)

def Request.serve (S : Setting σ) : Request → Resolution σ (Option Value)
  | .value v => some <$> resolveValue S v
  | .address a => resolveAddress S a

def serveAll (S : Setting σ) (requests : List Request) (s : State σ) : State σ :=
  requests.foldl (fun s request => (request.serve S s).2) s

theorem covered_serve (S : Setting σ) (request : Request) :
    Covered 0 S.options.maxDepth (request.serve S) := by
  cases request with
  | value v => exact (covered_resolveValue S v).map some
  | address a => exact covered_resolveAddress S a

/-- The counters between requests, at depth zero. -/
theorem serveAll_balanced (S : Setting σ) (requests : List Request) (probes : σ) :
    (serveAll S requests { probes }).depth = 0 ∧
      (serveAll S requests { probes }).metrics.Balanced 0 S.options.maxDepth := by
  induction requests using List.reverseRecOn with
  | nil => exact ⟨rfl, Metrics.balanced_zero 0 _⟩
  | append_singleton rest request ih =>
    obtain ⟨hdepth, hbalanced⟩ := ih
    obtain ⟨hkeeps, share, hshare, hpart⟩ := covered_serve S request (serveAll S rest { probes })
    rw [serveAll, List.foldl_append]
    change (request.serve S (serveAll S rest { probes })).2.depth = 0 ∧
      (request.serve S (serveAll S rest { probes })).2.metrics.Balanced 0 S.options.maxDepth
    rw [zero_add, hdepth] at hpart
    rw [hkeeps, hshare]
    exact ⟨hdepth, hbalanced.add hpart⟩

theorem throughout_serve (S : Setting σ) (request : Request) {s : State σ}
    (hs : DepthCounted s) : Throughout S DepthCounted (request.serve S) s := by
  have h := staysCounted_invariant S
  cases request with
  | value v =>
    have hserve : StaysCounted S (fun _ => True) (some <$> resolveValue S v) := by
      rw [map_eq_pure_bind]
      exact (h.resolveValue v trivial).bind fun w _ => h.aligned.pure (a := some w) trivial
    exact (hserve s hs).1
  | address a => exact (h.resolveAddress a s hs).1

/-- Whatever is asked for, and whether it fails or not: the depth is kept and no counter goes down.
Where requests are served one after the other from a fresh state, the depth is zero after each, the
deepest level is within the limit and within what was looked up and begun as a rule, no more
criteria matched than were evaluated, and no more rules were begun than values visited. While
a request is served, the depth never passes the deepest level that is counted. -/
theorem serve_keeps_invariants (S : Setting σ) :
    (∀ (request : Request) (s : State σ), (request.serve S s).2.depth = s.depth ∧
      s.metrics ≤ (request.serve S s).2.metrics) ∧
    (∀ (requests : List Request) (probes : σ),
      let s := serveAll S requests { probes }
      s.depth = 0 ∧ s.metrics.maxDepth ≤ S.options.maxDepth ∧
        s.metrics.matched ≤ s.metrics.criteria ∧ s.metrics.rules ≤ s.metrics.nodes ∧
        s.metrics.maxDepth ≤ s.metrics.lookups + s.metrics.rules) ∧
    ∀ (requests : List Request) (probes : σ) (request : Request),
      Throughout S (fun t => t.depth ≤ t.metrics.maxDepth) (request.serve S)
        (serveAll S requests { probes }) := by
  refine ⟨fun request s => ?_, fun requests probes => ?_, fun requests probes request => ?_⟩
  · obtain ⟨hdepth, share, hshare, -⟩ := covered_serve S request s
    rw [hshare]
    exact ⟨hdepth, s.metrics.le_add_right share⟩
  · obtain ⟨hdepth, hmatched, hrules, hlimit, hopening⟩ := serveAll_balanced S requests probes
    rw [Nat.zero_add] at hlimit hopening
    exact ⟨hdepth, hlimit, hmatched, hrules, hopening⟩
  · have hzero := (serveAll_balanced S requests probes).1
    refine throughout_serve S request ?_
    rw [DepthCounted, hzero]
    exact Nat.zero_le _

/-- Two look-ups and no rule pay for two levels, so the bound is reached. -/
example : (serveAll countingSetting [.value (.string "@a.x")] { probes := 0 }).metrics =
    { nodes := 3, lookups := 2, maxDepth := 2 } := by
  decide +kernel

end Resolution
end RuleTemplate
