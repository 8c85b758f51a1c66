import RuleTemplate.Proofs.Resolution.Evaluation
import RuleTemplate.Resolution.Run

/-!
What has a derivation is found as soon as enough levels may be opened. Each premise needs
some number of levels; a derivation has finitely many premises, so the largest number is
enough for all of them, and a premise one level deeper needs one more.
-/
namespace RuleTemplate.Resolution

variable {σ α β : Type} {S : Setting σ} {E : Environment} {d : Value → Resolution σ Value}

def Gives (m : Resolution σ α) (a : α) : Prop := ∀ s, ∃ t, m s = (.ok a, t)

theorem Gives.bind {m : Resolution σ α} {f : α → Resolution σ β} {a : α} {b : β}
    (hm : Gives m a) (hf : Gives (f a) b) : Gives (m >>= f) b := by
  intro s
  obtain ⟨t, hfirst⟩ := hm s
  obtain ⟨u, hsecond⟩ := hf t
  exact ⟨u, by rw [bind_of_ok hfirst, hsecond]⟩

theorem gives_update (change : State σ → State σ) : Gives (update change) () :=
  fun _ => ⟨_, rfl⟩

theorem gives_call (hS : S.Realizes E) (cause : Cause) (probe : Probe) (args : Record) :
    Gives (call S cause probe args) (E.answer probe args) := by
  intro s
  rw [← hS.answer probe args s.probes]
  exact ⟨_, rfl⟩

theorem Gives.nested {m : Resolution σ α} {a : α} (hm : Gives m a) : Gives (nested m) a := by
  intro s
  obtain ⟨t, hrun⟩ := hm s.enter
  exact ⟨t.leave, nested_of_eq hrun⟩

/-- In every setting of the environment the resolution returns the result from every state,
as soon as so many levels may be opened. -/
def Attains (E : Environment) (m : Setting σ → Nat → Resolution σ α) (a : α) : Prop :=
  ∃ enough, ∀ S levels, S.Realizes E → enough ≤ levels → Gives (m S levels) a

namespace Attains

variable {m n : Setting σ → Nat → Resolution σ α} {a : α}

theorem of_gives (h : ∀ S levels, S.Realizes E → Gives (m S levels) a) : Attains E m a :=
  ⟨0, fun S levels hS _ => h S levels hS⟩

theorem pure (a : α) : Attains (σ := σ) E (fun _ _ => pure a) a :=
  of_gives fun _ _ _ s => ⟨s, rfl⟩

theorem update (change : State σ → State σ) : Attains E (fun _ _ => update change) () :=
  of_gives fun _ _ _ => gives_update change

theorem noteLookup (address : String) (found : Bool) :
    Attains (σ := σ) E (fun _ _ => noteLookup address found) () :=
  of_gives fun _ _ _ _ => ⟨_, rfl⟩

theorem congr (hn : Attains E n a) (h : ∀ S levels, S.Realizes E → m S levels = n S levels) :
    Attains E m a := by
  obtain ⟨enough, hn⟩ := hn
  refine ⟨enough, fun S levels hS hlevels => ?_⟩
  rw [h S levels hS]
  exact hn S levels hS hlevels

theorem bind {f : Setting σ → Nat → α → Resolution σ β} {b : β} (hm : Attains E m a)
    (hf : Attains E (fun S levels => f S levels a) b) :
    Attains E (fun S levels => m S levels >>= f S levels) b := by
  obtain ⟨enough, hm⟩ := hm
  obtain ⟨more, hf⟩ := hf
  refine ⟨max enough more, fun S levels hS hlevels => ?_⟩
  exact (hm S levels hS (by omega)).bind (hf S levels hS (by omega))

theorem after {change : State σ → State σ} (hm : Attains E m a) :
    Attains E (fun S levels => Resolution.update change >>= fun _ => m S levels) a :=
  (update change).bind hm

theorem map {g : α → β} (hm : Attains E m a) :
    Attains E (fun S levels => g <$> m S levels) (g a) := by
  simp only [map_eq_pure_bind]
  exact hm.bind (.pure (g a))

theorem call (cause : Cause) (probe : Probe) (args : Record) :
    Attains (σ := σ) E (fun S _ => call S cause probe args) (E.answer probe args) :=
  of_gives fun _ _ hS => gives_call hS cause probe args

theorem located {target name : String} {probe? : Option Probe}
    {f : Setting σ → Nat → Option Probe → Resolution σ α}
    (hprobe : ∀ S : Setting σ, S.Realizes E → targetProbe S target name = probe?)
    (hf : Attains E (fun S levels => f S levels probe?) a) :
    Attains E (fun S levels => note (.located target name (targetProbe S target name)) >>=
      fun _ => f S levels (targetProbe S target name)) a := by
  refine congr (n := fun S levels => note (.located target name probe?) >>= fun _ =>
    f S levels probe?) hf.after fun S levels hS => ?_
  rw [hprobe S hS]

/-- A branch takes its verdict, and the branches after it take the choice from there. -/
theorem branch {branch : Branch} {rest : List Branch} {selection last : Selection}
    {verdict : Verdict}
    (hjudge : Attains (σ := σ) E (fun S levels =>
      judgeFrom S (descendWithin S levels) 0 .null branch.criterion) verdict)
    (hrest : Attains (σ := σ) E (fun S levels =>
      select S (descendWithin S levels) rest (selection.consider branch verdict)) last) :
    Attains (σ := σ) E (fun S levels =>
      select S (descendWithin S levels) (branch :: rest) selection) last := by
  have hverdict := hjudge.bind (f := fun S levels verdict => do
    Resolution.count (countVerdict · verdict)
    note (selection.event branch.key verdict)
    select S (descendWithin S levels) rest (selection.consider branch verdict)) hrest.after.after
  exact hverdict.after

/-- One level deeper one level more has to be open. -/
theorem descend {v r : Value} (h : Attains (σ := σ) E
    (fun S levels => walk S (descendWithin S levels) v) r) :
    Attains (σ := σ) E (fun S levels => descendWithin S levels v) r := by
  obtain ⟨enough, h⟩ := h
  refine ⟨enough + 1, fun S levels hS hlevels => ?_⟩
  obtain ⟨levels, rfl⟩ : ∃ fewer, levels = fewer + 1 := ⟨levels - 1, by omega⟩
  have hwithin : Gives (walk S (descendWithin S levels) v) r := h S levels hS (by omega)
  rw [← resolveWithin_eq] at hwithin
  exact hwithin.nested

end Attains

theorem attains_seed (fallback : Option Value) :
    Attains (σ := σ) E (fun S _ => fallback.mapM (seed S)) (fallback.map E.seed) := by
  refine .of_gives fun S _ hS => ?_
  cases fallback with
  | none => exact fun s => ⟨s, rfl⟩
  | some v =>
    have hseed : Gives (seed S v) (E.seed v) := by
      cases v with
      | probe p =>
        simp only [seed, hS.root]
        exact gives_call hS _ p _
      | _ => exact fun s => ⟨s, rfl⟩
    exact hseed.bind fun s => ⟨s, rfl⟩

mutual

/-- Whatever has a derivation is found. The recursion is on the derivation. -/
theorem attains_walk : ∀ {v r : Value}, Evaluates E v r →
    Attains (σ := σ) E (fun S levels => walk S (descendWithin S levels) v) r
  | v, _, .literal hv => by
    simp only [walk_of_isLiteral hv]
    exact (Attains.pure v).after
  | _, _, .address ha hfound => by
    have haccess := attains_access hfound
    simp only [walk, ha, ite_true]
    refine Attains.after ?_
    exact haccess.bind (.pure _)
  | _, _, .list hitems => by
    have hwalk := attains_walkItems hitems
    simp only [walk]
    refine Attains.after ?_
    exact hwalk.bind (.pure _)
  | _, _, .object hrule hmembers => by
    have hwalk := attains_walkMembers hmembers
    simp only [walk, hrule]
    refine Attains.after ?_
    exact hwalk.bind (.pure _)
  | _, _, .rule hrule hselects hsettles => by
    obtain ⟨most, hselect⟩ := attains_select hselects
    have hsettle := attains_settle hsettles
    simp only [walk, hrule, ite_true]
    refine Attains.after (Attains.after (Attains.after ?_))
    exact (attains_seed _).bind (hselect.bind hsettle)
termination_by structural _ _ h => h

theorem attains_walkItems : ∀ {items results : List Value}, EvaluatesItems E items results →
    Attains (σ := σ) E (fun S levels => walkItems S (descendWithin S levels) items) results
  | _, _, .nil => .pure _
  | _, _, .cons hitem hrest => by
    have hfirst := attains_walk hitem
    have hothers := attains_walkItems hrest
    exact hfirst.bind (hothers.bind (.pure _))
termination_by structural _ _ h => h

theorem attains_walkMembers : ∀ {members results : Record},
    EvaluatesMembers E members results →
    Attains (σ := σ) E (fun S levels => walkMembers S (descendWithin S levels) members) results
  | _, _, .nil => .pure _
  | _, _, .cons hvalue hrest => by
    have hfirst := attains_walk hvalue
    have hothers := attains_walkMembers hrest
    exact hfirst.bind (hothers.bind (.pure _))
termination_by structural _ _ h => h

theorem attains_access : ∀ {a : String} {found : Option Value}, Finds E a found →
    Attains (σ := σ) E (fun S levels => access S (descendWithin S levels) a) found
  | a, _, .absent hlookup => by
    have hrun : Attains (σ := σ) E
        (fun _ _ => noteLookup a false >>= fun _ => pure none) (none : Option Value) :=
      (Attains.noteLookup a false).bind (.pure none)
    apply hrun.congr
    intro S levels hS
    simp only [access, hS.root, hlookup]
    rfl
  | a, _, .present (v := v) hlookup hv => by
    have hdescend := (attains_walk hv).descend
    have hrun := (Attains.noteLookup a true).bind
      (f := fun S levels _ => some <$> descendWithin S levels v) hdescend.map
    apply hrun.congr
    intro S levels hS
    simp only [access, hS.root, hlookup]
    rfl
termination_by structural _ _ h => h

theorem attains_bindArgs : ∀ {args : List (String × String)} {bound record : Record},
    Binds E args bound record →
    Attains (σ := σ) E (fun S levels => bindArgs S (descendWithin S levels) args bound) record
  | _, _, _, .nil => .pure _
  | _, _, _, .text htext hrest => by
    have hothers := attains_bindArgs hrest
    simp only [bindArgs, argument, htext, Bool.false_eq_true, ite_false, pure_bind]
    exact hothers
  | _, _, _, .address ha hfound hrest => by
    have haccess := attains_access hfound
    have hothers := attains_bindArgs hrest
    simp only [bindArgs, argument, ha, ite_true, bind_assoc, pure_bind]
    exact haccess.bind hothers
termination_by structural _ _ _ h => h

theorem attains_capture : ∀ {clause : Clause} {captured : Option Value},
    Captures E clause captured →
    Attains (σ := σ) E (fun S levels => capture S (descendWithin S levels) clause) captured
  | _, _, .bare hfound => (attains_access hfound).bind (.pure _)
  | _, _, .oneOf hfound => (attains_access hfound).bind (.pure _)
  | _, _, .malformed => (Attains.pure _).after
  | .call target spec, _, .noProbe hnone => by
    have hprobe (S : Setting σ) (hS : S.Realizes E) : targetProbe S target spec.name = none :=
      (targetProbe_eq_none_iff hS).mpr hnone
    exact Attains.located hprobe (.pure none)
  | .call target spec, _, .call (p := p) hfound hargs => by
    have hprobe (S : Setting σ) (hS : S.Realizes E) : targetProbe S target spec.name = some p :=
      (targetProbe_eq_some_iff hS).mpr hfound
    have hbind := attains_bindArgs hargs
    refine Attains.located hprobe (hbind.bind ?_)
    exact (Attains.call _ _ _).bind (Attains.pure _).after
termination_by structural _ _ h => h

theorem attains_judgeFrom : ∀ {parts : Nat} {captured : Value} {criterion : Criterion}
    {verdict : Verdict}, Judges E parts captured criterion verdict →
    Attains (σ := σ) E
      (fun S levels => judgeFrom S (descendWithin S levels) parts captured criterion) verdict
  | _, _, _, _, .empty => .pure _
  | _, _, _, _, .held => .pure _
  | _, _, _, _, .fails hclause => by
    have hcapture := attains_capture hclause
    refine Attains.after ?_
    exact hcapture.bind (.pure _)
  | _, _, _, _, .supplies hbare hclause => by
    have hcapture := attains_capture hclause
    refine Attains.after (hcapture.bind ?_)
    simp only [hbare, ite_true]
    exact .pure _
  | _, _, _, _, .holds hbare hclause hrest => by
    have hcapture := attains_capture hclause
    have hothers := attains_judgeFrom hrest
    refine Attains.after (hcapture.bind ?_)
    simp only [hbare]
    exact hothers
termination_by structural _ _ _ _ h => h

theorem attains_select : ∀ {branches : List Branch} {best : Nat} {chosen last : Option Value},
    Selects E branches best chosen last → ∃ most, Attains (σ := σ) E
      (fun S levels => select S (descendWithin S levels) branches ⟨best, chosen⟩) ⟨most, last⟩
  | _, best, _, _, .nil => ⟨best, .pure _⟩
  | _, _, _, _, .wins hverdict hparts hother hrest => by
    have hjudge := attains_judgeFrom hverdict
    obtain ⟨most, hselect⟩ := attains_select hrest
    refine ⟨most, hjudge.branch ?_⟩
    simpa [Selection.consider, Nat.not_lt.mpr hparts, Branch.result_of_ne hother] using hselect
  | _, _, _, _, .winsCaptured hverdict hparts hmark hrest => by
    have hjudge := attains_judgeFrom hverdict
    obtain ⟨most, hselect⟩ := attains_select hrest
    refine ⟨most, hjudge.branch ?_⟩
    simpa [Selection.consider, Nat.not_lt.mpr hparts, Branch.result_of_mark hmark] using hselect
  | _, _, _, _, .loses hverdict hparts hrest => by
    have hjudge := attains_judgeFrom hverdict
    obtain ⟨most, hselect⟩ := attains_select hrest
    refine ⟨most, hjudge.branch ?_⟩
    simpa [Selection.consider, hparts] using hselect
  | _, _, _, _, .supplied hverdict hrest => by
    have hjudge := attains_judgeFrom hverdict
    obtain ⟨most, hselect⟩ := attains_select hrest
    exact ⟨most, hjudge.branch hselect⟩
  | _, _, _, _, .failed hverdict hrest => by
    have hjudge := attains_judgeFrom hverdict
    obtain ⟨most, hselect⟩ := attains_select hrest
    exact ⟨most, hjudge.branch hselect⟩
termination_by structural _ _ _ _ h => h

theorem attains_settle : ∀ {chosen : Option Value} {r : Value}, Settles E chosen r →
    Attains (σ := σ) E (fun S levels => settle S (descendWithin S levels) chosen) r
  | _, _, .none => .pure _
  | _, _, .collapsed hcollapses => by
    refine (Attains.pure _).congr fun S levels hS => ?_
    simp [settle_some hS, hcollapses]
  | _, _, .literal hcollapses hliteral => by
    refine (Attains.pure _).congr fun S levels hS => ?_
    simp [settle_some hS, hcollapses, hliteral]
  | _, _, .again hcollapses hliteral hv => by
    have hdescend := (attains_walk hv).descend
    refine hdescend.congr fun S levels hS => ?_
    simp [settle_some hS, hcollapses, hliteral]
termination_by structural _ _ h => h

end

end RuleTemplate.Resolution
