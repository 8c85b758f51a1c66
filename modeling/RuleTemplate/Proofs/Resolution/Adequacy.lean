import RuleTemplate.Proofs.Resolution.Completeness
import RuleTemplate.Proofs.Resolution.DepthLimit
import RuleTemplate.Proofs.Resolution.Soundness

/-!
Resolution with a limit finds what evaluation without one says, and nothing else.
-/
namespace RuleTemplate

theorem Setting.Realizes.withLimit {σ : Type} {S : Setting σ} {E : Environment}
    (h : S.Realizes E) (limit : Nat) : (S.withLimit limit).Realizes E :=
  ⟨h.root, h.collapseFalsy, h.answer⟩

namespace Resolution

variable {σ : Type} {S : Setting σ} {E : Environment}

theorem exists_limit_of_evaluates (hS : S.Realizes E) {v r : Value} (h : Evaluates E v r)
    (s : State σ) : ∃ enough, ∀ limit, enough ≤ limit →
      ∃ t, resolveValue (S.withLimit limit) v s = (.ok r, t) := by
  obtain ⟨enough, hattains⟩ := attains_walk (σ := σ) h
  refine ⟨enough, fun limit hlimit => ?_⟩
  obtain ⟨t, hrun⟩ := hattains (S.withLimit limit) limit (hS.withLimit limit) hlimit s
  exact ⟨t, by rw [resolveValue, resolveWithin_eq]; exact hrun⟩

/-- If what a probe returns is a function of its arguments, a value comes to a result without
a limit if and only if some limit lets it be resolved to that result. So it comes to one
result at most, and it is refused at every limit if and only if it comes to none. -/
theorem evaluates_iff_exists_limit (S : Setting σ) (answer : Probe → Record → Value)
    (hanswer : ∀ probe args probes, (S.invoke probe args probes).1 = answer probe args)
    (probes : σ) (v : Value) :
    (∀ r, Evaluates (S.environment answer) v r ↔
      ∃ limit t, resolveValue (S.withLimit limit) v { probes } = (.ok r, t)) ∧
    (∀ r r', Evaluates (S.environment answer) v r → Evaluates (S.environment answer) v r' →
      r = r') ∧
    ((∀ limit, ∃ e t, resolveValue (S.withLimit limit) v { probes } = (.error e, t)) ↔
      ¬∃ r, Evaluates (S.environment answer) v r) := by
  have hS : S.Realizes (S.environment answer) := ⟨rfl, rfl, hanswer⟩
  have hsound {limit : Nat} {r : Value} {t : State σ}
      (hrun : resolveValue (S.withLimit limit) v { probes } = (.ok r, t)) :
      Evaluates (S.environment answer) v r :=
    returns_resolveWithin (hS.withLimit limit) limit v _ r t hrun
  refine ⟨fun r => ⟨fun h => ?_, fun ⟨_, _, hrun⟩ => hsound hrun⟩, fun r r' h h' => ?_, ?_, ?_⟩
  · obtain ⟨enough, hfound⟩ := exists_limit_of_evaluates hS h { probes }
    obtain ⟨t, hrun⟩ := hfound enough (Nat.le_refl _)
    exact ⟨enough, t, hrun⟩
  -- A limit that is enough for both derivations gives one run.
  · obtain ⟨enough, hfound⟩ := exists_limit_of_evaluates hS h { probes }
    obtain ⟨enough', hfound'⟩ := exists_limit_of_evaluates hS h' { probes }
    obtain ⟨t, hrun⟩ := hfound (max enough enough') (by omega)
    obtain ⟨t', hrun'⟩ := hfound' (max enough enough') (by omega)
    rw [hrun, Prod.mk.injEq, Except.ok.injEq] at hrun'
    exact hrun'.1
  · rintro hfails ⟨r, h⟩
    obtain ⟨enough, hfound⟩ := exists_limit_of_evaluates hS h { probes }
    obtain ⟨t, hrun⟩ := hfound enough (Nat.le_refl _)
    obtain ⟨e, t', hrun'⟩ := hfails enough
    simp [hrun] at hrun'
  · intro hnone limit
    cases hrun : resolveValue (S.withLimit limit) v { probes } with
    | mk result t =>
      cases result with
      | error e => exact ⟨e, t, rfl⟩
      | ok r => exact absurd ⟨r, hsound hrun⟩ hnone

def echoSetting : Setting Nat where
  store := Store.ofRecord [
    ("@a", .object [("x", .object [("default", .string "low"), ("@b.y:gold", .string "@b.y")])]),
    ("@b", .object [("y", .string "gold")]),
    ("@svc", .object [("echo", .probe ⟨0⟩)])]
  options := {}
  invoke := fun _ args calls => ((Entries.get? args "k").getD .null, calls + 1)

def echoRule : Value :=
  .object [("default", .probe ⟨0⟩), ("@svc::echo[k:@a.x]:gold", .array [.string "@a.x"])]

theorem evaluates_iff_exists_limit_echo : ∃ r t,
    resolveValue (echoSetting.withLimit 4) echoRule { probes := 0 } = (.ok r, t) ∧
    Evaluates (echoSetting.environment fun _ args => (Entries.get? args "k").getD .null)
      echoRule r := by
  obtain ⟨r, hrun⟩ := exists_of_isOk (m := resolveValue (echoSetting.withLimit 4) echoRule)
    (s := { probes := 0 }) (by decide +kernel)
  obtain ⟨hiff, -, -⟩ := evaluates_iff_exists_limit echoSetting
    (fun _ args => (Entries.get? args "k").getD .null) (fun _ _ _ => rfl) 0 echoRule
  exact ⟨r, _, hrun, (hiff r).mpr ⟨4, _, hrun⟩⟩

end Resolution
end RuleTemplate
