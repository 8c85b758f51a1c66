import RuleTemplate.Resolution.Rules

/-!
Evaluation without a limit: what a value comes to, given what its parts and the addresses
in it come to. There are no levels, no states and no counters; a value that leads back to
itself has no derivation. All criteria of a rule are judged, from the first to the last, and
a group of clauses is judged up to the first clause that settles it. A setting realizes the
environment in which it looks up and its probes answer.
-/
namespace RuleTemplate

/-- What evaluation takes as given. The answer of a probe depends on its arguments alone. -/
structure Environment where
  root : Value
  /-- Is a falsy result of a rule replaced by null? -/
  collapseFalsy : Bool
  answer : Probe → Record → Value

namespace Environment

def seed (E : Environment) : Value → Value
  | .probe p => E.answer p [("contexts", E.root)]
  | v => v

def collapses (E : Environment) (v : Value) : Bool := E.collapseFalsy && !v.isTruthy

def HasProbe (E : Environment) (target name : String) (probe : Probe) : Prop :=
  ∃ found, Address.lookup E.root target = some found ∧
    Address.lookup found name = some (.probe probe)

end Environment

mutual

inductive Evaluates (E : Environment) : Value → Value → Prop
  | literal {v : Value} : v.isLiteral = true → Evaluates E v v
  | address {a : String} {found : Option Value} : hasSigil a = true → Finds E a found →
      Evaluates E (.string a) (found.getD .null)
  | list {items results : List Value} : EvaluatesItems E items results →
      Evaluates E (.array items) (.array results)
  | object {members results : Record} : isRule members = false →
      EvaluatesMembers E members results → Evaluates E (.object members) (.object results)
  | rule {members : Record} {chosen : Option Value} {r : Value} : isRule members = true →
      Selects E (Rule.branchesOf members) 0 ((Rule.fallbackOf members).map E.seed) chosen →
      Settles E chosen r → Evaluates E (.object members) r

inductive EvaluatesItems (E : Environment) : List Value → List Value → Prop
  | nil : EvaluatesItems E [] []
  | cons {item r : Value} {rest results : List Value} : Evaluates E item r →
      EvaluatesItems E rest results → EvaluatesItems E (item :: rest) (r :: results)

inductive EvaluatesMembers (E : Environment) : Record → Record → Prop
  | nil : EvaluatesMembers E [] []
  | cons {key : String} {value r : Value} {rest results : Record} : Evaluates E value r →
      EvaluatesMembers E rest results →
      EvaluatesMembers E ((key, value) :: rest) ((key, r) :: results)

inductive Finds (E : Environment) : String → Option Value → Prop
  | absent {a : String} : Address.lookup E.root a = none → Finds E a none
  | present {a : String} {v r : Value} : Address.lookup E.root a = some v → Evaluates E v r →
      Finds E a (some r)

/-- Binding the arguments of a call, after those that are bound, makes the record. -/
inductive Binds (E : Environment) : List (String × String) → Record → Record → Prop
  | nil {args : Record} : Binds E [] args args
  | text {name text : String} {rest : List (String × String)} {bound args : Record} :
      hasSigil text = false → Binds E rest (Entries.insert name (.string text) bound) args →
      Binds E ((name, text) :: rest) bound args
  | address {name a : String} {found : Option Value} {rest : List (String × String)}
      {bound args : Record} : hasSigil a = true → Finds E a found →
      Binds E rest (Entries.insert name (found.getD .null) bound) args →
      Binds E ((name, a) :: rest) bound args

/-- The clause captures the value, or fails and captures none. -/
inductive Captures (E : Environment) : Clause → Option Value → Prop
  | bare {a : String} {found : Option Value} : Finds E a found →
      Captures E (.bare a) (found.filter fun v => !v.isNull)
  | oneOf {a : String} {alternatives : List String} {found : Option Value} : Finds E a found →
      Captures E (.oneOf a alternatives)
        (found.filter fun v => !v.isNull && v.isOneOf alternatives)
  | call {target : String} {spec : CallSpec} {p : Probe} {args : Record} :
      E.HasProbe target spec.name p → Binds E spec.args [] args →
      Captures E (.call target spec)
        ((Address.lookup (E.answer p args) spec.property).filter fun v =>
          !v.isNull && v.passes spec.matcher)
  | noProbe {target : String} {spec : CallSpec} :
      (∀ probe, ¬E.HasProbe target spec.name probe) → Captures E (.call target spec) none
  | malformed {target signature : String} : Captures E (.malformed target signature) none

/-- The rest of a group comes to the verdict, after so many clauses that held, the last of
which captured the value. -/
inductive Judges (E : Environment) : Nat → Value → Criterion → Verdict → Prop
  | empty {captured : Value} : Judges E 0 captured [] .failed
  | held {parts : Nat} {captured : Value} :
      Judges E (parts + 1) captured [] (.matched (parts + 1) captured)
  | fails {parts : Nat} {captured : Value} {clause : Clause} {rest : Criterion} :
      Captures E clause none → Judges E parts captured (clause :: rest) .failed
  | supplies {parts : Nat} {captured v : Value} {clause : Clause} {rest : Criterion} :
      clause.isBare = true → Captures E clause (some v) →
      Judges E parts captured (clause :: rest) (.tentative v)
  | holds {parts : Nat} {captured v : Value} {clause : Clause} {rest : Criterion}
      {verdict : Verdict} : clause.isBare = false → Captures E clause (some v) →
      Judges E (parts + 1) v rest verdict → Judges E parts captured (clause :: rest) verdict

/-- The branches that are left lead from the most parts so far and the choice so far to the
last choice. -/
inductive Selects (E : Environment) :
    List Branch → Nat → Option Value → Option Value → Prop
  | nil {best : Nat} {chosen : Option Value} : Selects E [] best chosen chosen
  | wins {branch : Branch} {rest : List Branch} {best parts : Nat} {captured : Value}
      {chosen last : Option Value} :
      Judges E 0 .null branch.criterion (.matched parts captured) → best ≤ parts →
      branch.outcome ≠ .string "@value" → Selects E rest parts (some branch.outcome) last →
      Selects E (branch :: rest) best chosen last
  /-- The outcome `@value` stands for the captured value. -/
  | winsCaptured {branch : Branch} {rest : List Branch} {best parts : Nat} {captured : Value}
      {chosen last : Option Value} :
      Judges E 0 .null branch.criterion (.matched parts captured) → best ≤ parts →
      branch.outcome = .string "@value" → Selects E rest parts (some captured) last →
      Selects E (branch :: rest) best chosen last
  | loses {branch : Branch} {rest : List Branch} {best parts : Nat} {captured : Value}
      {chosen last : Option Value} :
      Judges E 0 .null branch.criterion (.matched parts captured) → parts < best →
      Selects E rest best chosen last → Selects E (branch :: rest) best chosen last
  | supplied {branch : Branch} {rest : List Branch} {best : Nat} {v : Value}
      {chosen last : Option Value} : Judges E 0 .null branch.criterion (.tentative v) →
      Selects E rest best (some v) last → Selects E (branch :: rest) best chosen last
  | failed {branch : Branch} {rest : List Branch} {best : Nat} {chosen last : Option Value} :
      Judges E 0 .null branch.criterion .failed → Selects E rest best chosen last →
      Selects E (branch :: rest) best chosen last

inductive Settles (E : Environment) : Option Value → Value → Prop
  | none : Settles E none .null
  | collapsed {v : Value} : E.collapses v = true → Settles E (some v) .null
  | literal {v : Value} : E.collapses v = false → v.isLiteral = true → Settles E (some v) v
  | again {v r : Value} : E.collapses v = false → v.isLiteral = false → Evaluates E v r →
      Settles E (some v) r

end

/-- The setting looks up in the environment, and its probes answer as the environment says,
whatever their states. -/
structure Setting.Realizes {σ : Type} (S : Setting σ) (E : Environment) : Prop where
  root : S.root = E.root
  collapseFalsy : S.options.collapseFalsy = E.collapseFalsy
  answer : ∀ probe args probes, (S.invoke probe args probes).1 = E.answer probe args

def Setting.environment {σ : Type} (S : Setting σ) (answer : Probe → Record → Value) :
    Environment := ⟨S.root, S.options.collapseFalsy, answer⟩

namespace Resolution

variable {σ : Type} {S : Setting σ} {E : Environment} {d : Value → Resolution σ Value}

theorem targetProbe_eq_some_iff (hS : S.Realizes E) {target name : String} {probe : Probe} :
    targetProbe S target name = some probe ↔ E.HasProbe target name probe := by
  have hprobe (v : Value) : v.probe? = some probe ↔ v = .probe probe := by
    cases v <;> simp [Value.probe?]
  simp only [targetProbe, hS.root, Environment.HasProbe, Option.bind_eq_bind,
    Option.bind_eq_some_iff, hprobe, exists_eq_right]

theorem targetProbe_eq_none_iff (hS : S.Realizes E) {target name : String} :
    targetProbe S target name = none ↔ ∀ probe, ¬E.HasProbe target name probe := by
  simp only [Option.eq_none_iff_forall_ne_some, ne_eq, targetProbe_eq_some_iff hS]

theorem settle_some (hS : S.Realizes E) (v : Value) :
    settle S d (some v) =
      if E.collapses v then pure .null else if v.isLiteral then pure v else d v := by
  rw [Environment.collapses, settle, hS.collapseFalsy]

end Resolution
end RuleTemplate
