import RuleTemplate.Proofs.Resolution.Evaluation
import RuleTemplate.Proofs.Resolution.Relation
import RuleTemplate.Resolution.Run

/-!
What a run returns has a derivation. The derivation is put together step by step as the run
goes on: a run that reaches the end of a step has found a premise for each of its parts.
-/
namespace RuleTemplate.Resolution

variable {σ : Type} {S : Setting σ} {E : Environment} {d : Value → Resolution σ Value}

theorem returns_call (hS : S.Realizes E) (cause : Cause) (probe : Probe) (args : Record) :
    Returns (· = E.answer probe args) (call S cause probe args) := by
  intro s v t hrun
  simp only [call, Prod.mk.injEq, Except.ok.injEq] at hrun
  rw [← hrun.1, hS.answer]

theorem returns_finds (hS : S.Realizes E) (hd : ∀ v, Returns (Evaluates E v) (d v))
    (a : String) : Returns (Finds E a) (access S d a) := by
  unfold access
  refine Returns.after fun _ => ?_
  rw [hS.root]
  cases hfound : Address.lookup E.root a with
  | none => exact returns_pure (.absent hfound)
  | some v =>
    refine Returns.bind (hd v) ?_
    intro r hr
    exact returns_pure (.present hfound hr)

theorem returns_binds (hS : S.Realizes E) (hd : ∀ v, Returns (Evaluates E v) (d v))
    (args : List (String × String)) (bound : Record) :
    Returns (Binds E args bound) (bindArgs S d args bound) := by
  induction args generalizing bound with
  | nil => exact returns_pure .nil
  | cons arg rest ih =>
    obtain ⟨name, text⟩ := arg
    simp only [bindArgs, argument]
    cases htext : hasSigil text with
    | true =>
      simp only [ite_true, bind_assoc, pure_bind]
      refine (returns_finds hS hd text).bind ?_
      intro found hfound
      refine (ih _).mono ?_
      intro args hargs
      exact .address htext hfound hargs
    | false =>
      simp only [Bool.false_eq_true, ite_false, pure_bind]
      refine (ih _).mono ?_
      intro args hargs
      exact .text htext hargs

theorem returns_captures (hS : S.Realizes E) (hd : ∀ v, Returns (Evaluates E v) (d v))
    (clause : Clause) : Returns (Captures E clause) (capture S d clause) := by
  cases clause with
  | bare a =>
    refine (returns_finds hS hd a).bind ?_
    intro found hfound
    exact returns_pure (.bare hfound)
  | oneOf a alternatives =>
    refine (returns_finds hS hd a).bind ?_
    intro found hfound
    exact returns_pure (.oneOf hfound)
  | malformed target signature =>
    refine Returns.after fun _ => ?_
    exact returns_pure .malformed
  | call target spec =>
    refine Returns.after fun _ => ?_
    cases hprobe : targetProbe S target spec.name with
    | none =>
      have hnone := (targetProbe_eq_none_iff hS).mp hprobe
      exact returns_pure (.noProbe hnone)
    | some probe =>
      have hfound := (targetProbe_eq_some_iff hS).mp hprobe
      refine (returns_binds hS hd spec.args []).bind ?_
      intro args hargs
      refine (returns_call hS _ probe args).bind ?_
      rintro returned rfl
      refine Returns.after fun _ => ?_
      exact returns_pure (.call hfound hargs)

theorem returns_judges (hS : S.Realizes E) (hd : ∀ v, Returns (Evaluates E v) (d v))
    (criterion : Criterion) (parts : Nat) (captured : Value) :
    Returns (Judges E parts captured criterion) (judgeFrom S d parts captured criterion) := by
  induction criterion generalizing parts captured with
  | nil =>
    refine returns_pure ?_
    cases parts with
    | zero => exact .empty
    | succ parts => exact .held
  | cons clause rest ih =>
    refine Returns.after fun _ => ?_
    refine (returns_captures hS hd clause).bind ?_
    intro found hfound
    cases found with
    | none => exact returns_pure (.fails hfound)
    | some v =>
      cases hbare : clause.isBare with
      | true => exact returns_pure (.supplies hbare hfound)
      | false =>
        refine (ih (parts + 1) v).mono ?_
        intro verdict hverdict
        exact .holds hbare hfound hverdict

/-- Every branch is judged, also one that cannot win any more. -/
theorem returns_selects (hS : S.Realizes E) (hd : ∀ v, Returns (Evaluates E v) (d v))
    (branches : List Branch) (selection : Selection) :
    Returns (fun last => Selects E branches selection.best selection.chosen last.chosen)
      (select S d branches selection) := by
  induction branches generalizing selection with
  | nil => exact returns_pure .nil
  | cons branch rest ih =>
    refine Returns.after fun _ => ?_
    refine (returns_judges hS hd branch.criterion 0 .null).bind ?_
    intro verdict hverdict
    refine Returns.after fun _ => ?_
    refine Returns.after fun _ => ?_
    refine (ih (selection.consider branch verdict)).mono ?_
    intro last hlast
    cases verdict with
    | matched parts captured =>
      by_cases hparts : parts < selection.best
      · simp only [Selection.consider, hparts, ite_true] at hlast
        exact .loses hverdict hparts hlast
      · have hle := Nat.le_of_not_lt hparts
        simp only [Selection.consider, hparts, ite_false] at hlast
        by_cases hmark : branch.outcome = .string "@value"
        · rw [Branch.result_of_mark hmark] at hlast
          exact .winsCaptured hverdict hle hmark hlast
        · rw [Branch.result_of_ne hmark] at hlast
          exact .wins hverdict hle hmark hlast
    | tentative v => exact .supplied hverdict hlast
    | failed => exact .failed hverdict hlast

theorem returns_settles (hS : S.Realizes E) (hd : ∀ v, Returns (Evaluates E v) (d v))
    (chosen : Option Value) : Returns (Settles E chosen) (settle S d chosen) := by
  cases chosen with
  | none => exact returns_pure .none
  | some v =>
    rw [settle_some hS]
    cases hcollapses : E.collapses v with
    | true => exact returns_pure (.collapsed hcollapses)
    | false =>
      cases hliteral : v.isLiteral with
      | true => exact returns_pure (.literal hcollapses hliteral)
      | false =>
        refine (hd v).mono ?_
        intro r hr
        exact .again hcollapses hliteral hr

theorem returns_seed (hS : S.Realizes E) (v : Value) : Returns (· = E.seed v) (seed S v) := by
  cases v with
  | probe p =>
    simp only [seed, hS.root]
    exact returns_call hS _ p _
  | _ => exact returns_pure rfl

theorem returns_fallback (hS : S.Realizes E) (fallback : Option Value) :
    Returns (· = fallback.map E.seed) (fallback.mapM (seed S)) := by
  cases fallback with
  | none => exact returns_pure rfl
  | some v =>
    refine (returns_seed hS v).bind ?_
    rintro w rfl
    exact returns_pure rfl

theorem returns_rule (hS : S.Realizes E) (hd : ∀ v, Returns (Evaluates E v) (d v))
    {members : Record} (hrule : isRule members = true) :
    Returns (Evaluates E (.object members)) (resolveRule S d (.ofMembers members)) := by
  refine Returns.after fun _ => ?_
  refine Returns.after fun _ => ?_
  refine (returns_fallback hS (Rule.fallbackOf members)).bind ?_
  rintro fallback rfl
  refine (returns_selects hS hd (Rule.branchesOf members) _).bind ?_
  intro selection hselection
  refine (returns_settles hS hd selection.chosen).mono ?_
  intro r hr
  exact .rule hrule hselection hr

theorem returns_literal {v : Value} (hv : v.isLiteral = true) :
    Returns (Evaluates E v) (visit >>= fun _ => pure v : Resolution σ Value) := by
  refine Returns.after fun _ => ?_
  exact returns_pure (.literal hv)

mutual

/-- A walk returns what the value comes to, if so does every step one level deeper. -/
theorem returns_walk (hS : S.Realizes E) (hd : ∀ v, Returns (Evaluates E v) (d v)) :
    ∀ v, Returns (Evaluates E v) (walk S d v)
  | .string s => by
    simp only [walk]
    cases hs : hasSigil s with
    | true =>
      refine Returns.after fun _ => ?_
      refine (returns_finds hS hd s).bind ?_
      intro found hfound
      exact returns_pure (.address hs hfound)
    | false => exact returns_literal (by simp [Value.isLiteral, hs])
  | .array items => by
    simp only [walk]
    refine Returns.after fun _ => ?_
    refine (returns_walkItems hS hd items).bind ?_
    intro results hresults
    exact returns_pure (.list hresults)
  | .object members => by
    simp only [walk]
    refine Returns.after fun _ => ?_
    cases hrule : isRule members with
    | true => exact returns_rule hS hd hrule
    | false =>
      refine (returns_walkMembers hS hd members).bind ?_
      intro results hresults
      exact returns_pure (.object hrule hresults)
  | .null => returns_literal rfl
  | .bool _ => returns_literal rfl
  | .number _ => returns_literal rfl
  | .probe _ => returns_literal rfl
termination_by structural v => v

theorem returns_walkItems (hS : S.Realizes E) (hd : ∀ v, Returns (Evaluates E v) (d v)) :
    ∀ items, Returns (EvaluatesItems E items) (walkItems S d items)
  | [] => returns_pure .nil
  | item :: rest => by
    refine (returns_walk hS hd item).bind ?_
    intro r hr
    refine (returns_walkItems hS hd rest).bind ?_
    intro results hresults
    exact returns_pure (.cons hr hresults)
termination_by structural items => items

theorem returns_walkMembers (hS : S.Realizes E) (hd : ∀ v, Returns (Evaluates E v) (d v)) :
    ∀ members : List (String × Value),
      Returns (EvaluatesMembers E members) (walkMembers S d members)
  | [] => returns_pure .nil
  | (_, value) :: rest => by
    refine (returns_walk hS hd value).bind ?_
    intro r hr
    refine (returns_walkMembers hS hd rest).bind ?_
    intro results hresults
    exact returns_pure (.cons hr hresults)
termination_by structural members => members

end

/-- The induction is on the levels: one level deeper there is one less to open. -/
theorem returns_resolveWithin (hS : S.Realizes E) (levels : Nat) (v : Value) :
    Returns (Evaluates E v) (resolveWithin S levels v) := by
  induction levels generalizing v with
  | zero =>
    refine returns_walk hS ?_ v
    intro w s r t hrun
    simp [refuse] at hrun
  | succ levels ih =>
    refine returns_walk hS ?_ v
    intro w s r t hrun
    obtain ⟨u, hinner, -⟩ := nested_eq hrun
    exact ih w s.enter r u hinner

end RuleTemplate.Resolution
