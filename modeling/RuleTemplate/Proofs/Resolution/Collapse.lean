import RuleTemplate.Proofs.Resolution.BranchChoice
import RuleTemplate.Proofs.Resolution.Resolved

/-!
Falsy results of rules where they are replaced by null. What a rule chooses is tested before it is
resolved any further, so a rule comes to null or to something truthy, unless its choice leads on
to an address: what stands there is the result, falsy or not.
-/
namespace RuleTemplate

variable {σ : Type}

def State.HasJustFound (S : Setting σ) (t : State σ) (v : Value) : Prop :=
  ∃ address earlier, t.journal = .lookedUp address true :: earlier ∧
    Address.lookup S.root address = some v

def Value.IsCollapsed (v : Value) : Prop := v = .null ∨ v.isTruthy = true

namespace Resolution

variable {S : Setting σ} {d : Value → Resolution σ Value}

/-- Null or truthy, unless the last step has found it in the store. -/
def Collapsed (S : Setting σ) (r : Value) (t : State σ) : Prop :=
  r.IsCollapsed ∨ t.HasJustFound S r

/-- What is known of a step one level deeper: it leaves literals alone, and what it returns for
another value is collapsed. -/
structure CollapsesBelow (S : Setting σ) (d : Value → Resolution σ Value) : Prop where
  literal : ∀ {v r : Value} {s t : State σ}, v.isLiteral = true → d v s = (.ok r, t) →
    r = v ∧ t.journal = s.journal
  other : ∀ {v r : Value} {s t : State σ}, v.isLiteral = false → d v s = (.ok r, t) →
    Collapsed S r t

/-- What an address stands for is null if nothing stands there, the literal that stands there, or
what another value comes to that stands there. -/
theorem CollapsesBelow.access (hd : CollapsesBelow S d) {address : String}
    {found : Option Value} {s t : State σ} (h : access S d address s = (.ok found, t)) :
    Collapsed S (found.getD .null) t := by
  cases hlookup : Address.lookup S.root address with
  | none =>
    have hnone : found = none := by
      unfold Resolution.access at h
      rw [hlookup] at h
      exact (Except.ok.inj (congrArg Prod.fst h)).symm
    exact Or.inl (Or.inl (by rw [hnone, Option.getD_none]))
  | some v =>
    rw [access_of_lookup hlookup, map_eq_pure_bind] at h
    obtain ⟨r, u, hbelow, hpure⟩ := bind_eq_ok h
    rw [pure_apply, Prod.mk.injEq, Except.ok.injEq] at hpure
    obtain ⟨rfl, rfl⟩ := hpure
    cases hliteral : v.isLiteral with
    | true =>
      obtain ⟨rfl, hjournal⟩ := hd.literal hliteral hbelow
      exact Or.inr ⟨address, s.journal, hjournal, hlookup⟩
    | false => exact hd.other hliteral hbelow

/-- A choice that is a literal is null or truthy after the test. Any other choice is resolved one
level deeper and not tested again. -/
theorem isCollapsed_or_deeper (hflag : S.options.collapseFalsy = true) {chosen : Option Value}
    {r : Value} {s t : State σ} (h : settle S d chosen s = (.ok r, t)) :
    r.IsCollapsed ∨
      ∃ v, chosen = some v ∧ v.isLiteral = false ∧ d v s = (.ok r, t) := by
  cases chosen with
  | none => exact Or.inl (Or.inl (Except.ok.inj (congrArg Prod.fst h)).symm)
  | some v =>
    rw [settle, hflag, Bool.true_and] at h
    cases htruthy : v.isTruthy with
    | false =>
      rw [htruthy] at h
      exact Or.inl (Or.inl (Except.ok.inj (congrArg Prod.fst h)).symm)
    | true =>
      rw [htruthy] at h
      cases hliteral : v.isLiteral with
      | true =>
        rw [hliteral] at h
        obtain rfl : v = r := Except.ok.inj (congrArg Prod.fst h)
        exact Or.inl (Or.inr htruthy)
      | false =>
        rw [hliteral] at h
        exact Or.inr ⟨v, rfl, hliteral, h⟩

/-- A rule that resolves has evaluated its criteria and settled on a choice. -/
theorem exists_choice_of_walk {members : Record} (hrule : isRule members = true) {r : Value}
    {s t : State σ} (h : walk S d (.object members) s = (.ok r, t)) :
    ∃ seeded selection u w, visitRule S (Rule.fallbackOf members) s = (.ok seeded, u) ∧
      select S d (Rule.branchesOf members) (.start seeded) u = (.ok selection, w) ∧
      settle S d selection.chosen w = (.ok r, t) := by
  rw [walk_of_isRule hrule] at h
  obtain ⟨seeded, u, hopen, hrest⟩ := bind_eq_ok h
  obtain ⟨selection, w, hselect, hsettle⟩ := bind_eq_ok hrest
  exact ⟨seeded, selection, u, w, hopen, hselect, hsettle⟩

/-- Lists and plain objects come to lists and objects. -/
theorem isTruthy_of_walk {v r : Value} {s t : State σ} (hliteral : v.isLiteral = false)
    (hopen : v.isOpen = false) (h : walk S d v s = (.ok r, t)) : r.isTruthy = true := by
  cases v with
  | string text => simp_all [Value.isLiteral, Value.isOpen]
  | array items =>
    obtain ⟨⟨⟩, u, -, hitems⟩ := bind_eq_ok h
    obtain ⟨resolved, w, -, hpure⟩ := bind_eq_ok hitems
    obtain rfl : Value.array resolved = r := Except.ok.inj (congrArg Prod.fst hpure)
    rfl
  | object members =>
    have hrule : isRule members = false := hopen
    rw [walk, hrule] at h
    obtain ⟨⟨⟩, u, -, hmembers⟩ := bind_eq_ok h
    obtain ⟨resolved, w, -, hpure⟩ := bind_eq_ok hmembers
    obtain rfl : Value.object resolved = r := Except.ok.inj (congrArg Prod.fst hpure)
    rfl
  | _ => simp [Value.isLiteral] at hliteral

theorem CollapsesBelow.walk (hd : CollapsesBelow S d) (hflag : S.options.collapseFalsy = true)
    {v r : Value} {s t : State σ} (hliteral : v.isLiteral = false)
    (h : walk S d v s = (.ok r, t)) : Collapsed S r t := by
  cases hopen : v.isOpen with
  | false => exact Or.inl (Or.inr (isTruthy_of_walk hliteral hopen h))
  | true =>
    cases v with
    | string text =>
      have hsigil : hasSigil text = true := hopen
      rw [Resolution.walk, hsigil] at h
      obtain ⟨⟨⟩, u, -, hrest⟩ := bind_eq_ok h
      obtain ⟨found, w, haccess, hpure⟩ := bind_eq_ok hrest
      obtain ⟨rfl, rfl⟩ : found.getD .null = r ∧ w = t :=
        ⟨Except.ok.inj (congrArg Prod.fst hpure), congrArg Prod.snd hpure⟩
      exact hd.access haccess
    | object members =>
      obtain ⟨-, selection, -, w, -, -, hsettle⟩ := exists_choice_of_walk hopen h
      rcases isCollapsed_or_deeper hflag hsettle with hcollapsed | ⟨v, -, hchosen, hbelow⟩
      · exact Or.inl hcollapsed
      · exact hd.other hchosen hbelow
    | _ => simp [Value.isOpen] at hopen

/-- The induction is on the levels: what is known one level deeper is known of a walk. -/
theorem collapsesBelow_descendWithin (hflag : S.options.collapseFalsy = true) (levels : Nat) :
    CollapsesBelow S (descendWithin S levels) := by
  induction levels with
  | zero => exact ⟨fun _ h => by simp [descendWithin, refuse] at h,
      fun _ h => by simp [descendWithin, refuse] at h⟩
  | succ levels ih =>
    refine ⟨fun hliteral h => ?_, fun hliteral h => ?_⟩
    · obtain ⟨u, hinner, rfl⟩ := nested_eq h
      rw [resolveWithin_eq, walk_of_isLiteral hliteral] at hinner
      obtain ⟨⟨⟩, w, hvisit, hpure⟩ := bind_eq_ok hinner
      obtain rfl : _ = w := congrArg Prod.snd hvisit
      rw [pure_apply, Prod.mk.injEq, Except.ok.injEq] at hpure
      obtain ⟨rfl, rfl⟩ := hpure
      exact ⟨rfl, rfl⟩
    · obtain ⟨u, hinner, rfl⟩ := nested_eq h
      rw [resolveWithin_eq] at hinner
      have hcollapsed : Collapsed S _ u := ih.walk hflag hliteral hinner
      exact hcollapsed

theorem isTruthy_of_descendWithin {levels : Nat} {v r : Value} {s t : State σ}
    (hliteral : v.isLiteral = false) (hopen : v.isOpen = false)
    (h : descendWithin S levels v s = (.ok r, t)) : r.isTruthy = true := by
  cases levels with
  | zero => simp [descendWithin, refuse] at h
  | succ levels =>
    obtain ⟨u, hinner, -⟩ := nested_eq h
    rw [resolveWithin_eq] at hinner
    exact isTruthy_of_walk hliteral hopen hinner

/-- Where falsy results of rules are replaced, a rule that resolves comes to null or to something
truthy. There is one exception: its choice is an address or a rule, which is resolved after the
test, and the last step of that is to look up an address where the result stands in the store. -/
theorem collapsed_result (S : Setting σ) (hflag : S.options.collapseFalsy = true) (levels : Nat)
    {members : Record} (hrule : isRule members = true) {s t : State σ} {r : Value}
    (hrun : resolveWithin S levels (.object members) s = (.ok r, t)) :
    ∃ seeded selection u w, visitRule S (Rule.fallbackOf members) s = (.ok seeded, u) ∧
      select S (descendWithin S levels) (Rule.branchesOf members) (.start seeded) u =
        (.ok selection, w) ∧
      settle S (descendWithin S levels) selection.chosen w = (.ok r, t) ∧
      (r.IsCollapsed ∨
        (∃ v, selection.chosen = some v ∧ v.isOpen = true) ∧ t.HasJustFound S r) := by
  rw [resolveWithin_eq] at hrun
  obtain ⟨seeded, selection, u, w, hvisit, hselect, hsettle⟩ := exists_choice_of_walk hrule hrun
  refine ⟨seeded, selection, u, w, hvisit, hselect, hsettle, ?_⟩
  rcases isCollapsed_or_deeper hflag hsettle with hcollapsed | ⟨v, hchosen, hliteral, hbelow⟩
  · exact Or.inl hcollapsed
  · cases hisOpen : v.isOpen with
    | false => exact Or.inl (Or.inr (isTruthy_of_descendWithin hliteral hisOpen hbelow))
    | true =>
      refine ((collapsesBelow_descendWithin hflag levels).other hliteral hbelow).imp_right ?_
      exact fun hfound => ⟨⟨v, hchosen, hisOpen⟩, hfound⟩

def cartSetting : Setting Unit where
  store := Store.ofRecord [("@cart", .object [("items", .number (.int 0))])]
  options := { collapseFalsy := true }
  invoke := fun _ _ _ => (.null, ())

def capturingRule : Record :=
  [("default", .string "@cart"), ("@cart.items:0", .string "@value")]

theorem collapsed_result_captured : ∃ r s t seeded selection u w,
    cartSetting.options.collapseFalsy = true ∧ isRule capturingRule = true ∧
    resolveWithin cartSetting 2 (.object capturingRule) s = (.ok r, t) ∧ r = .null ∧
    visitRule cartSetting (Rule.fallbackOf capturingRule) s = (.ok seeded, u) ∧
    select cartSetting (descendWithin cartSetting 2) (Rule.branchesOf capturingRule)
      (.start seeded) u = (.ok selection, w) ∧
    settle cartSetting (descendWithin cartSetting 2) selection.chosen w = (.ok r, t) := by
  have hnull : (resolveWithin cartSetting 2 (.object capturingRule)
      { probes := () }).1.toOption.any Value.isNull = true := by decide +kernel
  obtain ⟨r, hrun⟩ := exists_of_isOk (m := resolveWithin cartSetting 2 (.object capturingRule))
    (s := { probes := () }) (by decide +kernel)
  rw [hrun] at hnull
  have hrule : isRule capturingRule = true := by decide +kernel
  obtain ⟨seeded, selection, u, w, hvisit, hselect, hsettle, -⟩ :=
    collapsed_result cartSetting rfl 2 hrule hrun
  exact ⟨r, _, _, seeded, selection, u, w, rfl, hrule, hrun, Value.isNull_iff.mp hnull, hvisit,
    hselect, hsettle⟩

/-- The result of a rule may be falsy: an address is no falsy choice, but a falsy number may stand
there. -/
theorem not_isCollapsed_of_address : ¬∀ (S : Setting Unit) (levels : Nat) (members : Record)
    (s t : State Unit) (r : Value), S.options.collapseFalsy = true → isRule members = true →
    resolveWithin S levels (.object members) s = (.ok r, t) → r.IsCollapsed := by
  intro hall
  have hfalsy : (resolveWithin cartSetting 2 (.object [("default", .string "@cart.items")])
      { probes := () }).1.toOption.any (fun r => !r.isNull && !r.isTruthy) = true := by
    decide +kernel
  obtain ⟨r, hrun⟩ := exists_of_isOk
    (m := resolveWithin cartSetting 2 (.object [("default", .string "@cart.items")]))
    (s := { probes := () }) (by decide +kernel)
  rw [hrun] at hfalsy
  rcases hall cartSetting 2 _ _ _ r rfl (by decide +kernel) hrun with rfl | htruthy
  · simp [Except.toOption, Value.isNull] at hfalsy
  · simp [Except.toOption, htruthy] at hfalsy

end Resolution
end RuleTemplate
