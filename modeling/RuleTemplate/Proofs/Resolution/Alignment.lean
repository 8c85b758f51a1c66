import RuleTemplate.Proofs.Resolution.Relation
import RuleTemplate.Resolution.Run

/-!
Relations between resolutions that hold of whole runs because they hold of every step. Two
settings are aligned by a congruence that holds of the steps at which they meet the store,
the options and the probes. Then it holds of resolving a value, a rule and a template in
them, as long as it holds one level deeper.
-/
namespace RuleTemplate

/-- A value that a call clause may bind: a resolved one, or a text without the sigil. -/
def Value.IsBound (done : Value → Prop) (v : Value) : Prop :=
  done v ∨ ∃ text, hasSigil text = false ∧ v = .string text

namespace Resolution

variable {σ τ : Type}

/-- What holds of raw values holds of their parts, and what holds of resolved values holds
of everything that is put together from them. -/
structure Closed (raw done : Value → Prop) : Prop where
  item : ∀ {items : List Value}, raw (.array items) → ∀ item ∈ items, raw item
  member : ∀ {members : Record}, raw (.object members) → ∀ member ∈ members, raw member.2
  raw_of_done : ∀ {v : Value}, done v → raw v
  null : done .null
  literal : ∀ {v : Value}, raw v → v.isLiteral = true → done v
  array : ∀ {items : List Value}, (∀ item ∈ items, done item) → done (.array items)
  object : ∀ {members : Record}, isRule members = false →
    (∀ member ∈ members, done member.2) → done (.object members)

def openRule (S : Setting σ) (fallback : Option Value) : Resolution σ (Option Value) := do
  count fun m => { m with rules := m.rules + 1 }
  note (.opened fallback)
  fallback.mapM (seed S)

theorem resolveRule_eq (S : Setting σ) (d : Value → Resolution σ Value) (rule : Rule) :
    resolveRule S d rule = (do
      let fallback ← openRule S rule.fallback
      let selection ← select S d rule.branches (.start fallback)
      settle S d selection.chosen) := by
  simp only [resolveRule, openRule, bind_assoc]

def reachCall (S : Setting σ) (d : Value → Resolution σ Value) (target : String)
    (spec : CallSpec) : Resolution σ (Option Value) := do
  note (.reached (.call target spec))
  callClause S d target spec

/-- Two settings whose steps are related, whatever is one level deeper. What they look up, the
calls of their probes and whether they collapse a value may differ as far as the relation
allows. -/
structure Aligned (S : Setting σ) (T : Setting τ) (raw done : Value → Prop)
    (R : Relation σ τ) : Prop extends Congruence R, Closed raw done where
  access : ∀ {d : Value → Resolution σ Value} {e : Value → Resolution τ Value},
    (∀ v, raw v → R done (d v) (e v)) → ∀ address,
      R (fun found => ∀ v ∈ found, done v) (access S d address) (access T e address)
  openRule : ∀ fallback : Option Value, (∀ v ∈ fallback, raw v) →
    R (fun seeded => ∀ v ∈ seeded, raw v) (openRule S fallback) (openRule T fallback)
  reachCall : ∀ {d : Value → Resolution σ Value} {e : Value → Resolution τ Value} (target spec),
    R (fun bound => ∀ arg ∈ bound, arg.2.IsBound done) (bindArgs S d spec.args [])
      (bindArgs T e spec.args []) →
    R (fun found => ∀ v ∈ found, raw v) (reachCall S d target spec) (reachCall T e target spec)
  collapse : ∀ v, raw v → v = .null ∨
    (S.options.collapseFalsy && !v.isTruthy) = (T.options.collapseFalsy && !v.isTruthy)

/-- The steps are related on a level where `d` and `e` are what goes one level deeper. -/
structure LevelAligned (S : Setting σ) (T : Setting τ) (raw done : Value → Prop)
    (R : Relation σ τ) (d : Value → Resolution σ Value) (e : Value → Resolution τ Value) : Prop
    extends Congruence R, Closed raw done where
  descend : ∀ v, raw v → R done (d v) (e v)
  access : ∀ address, R (fun found => ∀ v ∈ found, done v) (access S d address)
    (access T e address)
  openRule : ∀ fallback : Option Value, (∀ v ∈ fallback, raw v) →
    R (fun seeded => ∀ v ∈ seeded, raw v) (openRule S fallback) (openRule T fallback)
  reachCall : ∀ target spec,
    R (fun bound => ∀ arg ∈ bound, arg.2.IsBound done) (bindArgs S d spec.args [])
      (bindArgs T e spec.args []) →
    R (fun found => ∀ v ∈ found, raw v) (reachCall S d target spec) (reachCall T e target spec)
  collapse : ∀ v, raw v → v = .null ∨
    (S.options.collapseFalsy && !v.isTruthy) = (T.options.collapseFalsy && !v.isTruthy)

theorem Aligned.level {S : Setting σ} {T : Setting τ} {raw done : Value → Prop} {R : Relation σ τ}
    (h : Aligned S T raw done R) {d : Value → Resolution σ Value} {e : Value → Resolution τ Value}
    (hd : ∀ v, raw v → R done (d v) (e v)) : LevelAligned S T raw done R d e where
  toCongruence := h.toCongruence
  toClosed := h.toClosed
  descend := hd
  access := h.access hd
  openRule := h.openRule
  reachCall := h.reachCall
  collapse := h.collapse

theorem Closed.follow {raw done : Value → Prop} (h : Closed raw done) {path : List String}
    {v w : Value} (hv : raw v) (hw : Address.follow v path = some w) : raw w := by
  induction path generalizing v with
  | nil => exact Option.some.inj hw ▸ hv
  | cons segment rest ih =>
    rw [Address.follow_cons, Option.bind_eq_some_iff] at hw
    obtain ⟨next, hstep, hrest⟩ := hw
    refine ih ?_ hrest
    cases v with
    | object members => exact h.member hv _ (Entries.mem_of_get? hstep)
    | array items =>
      obtain ⟨i, -, hi⟩ := Option.bind_eq_some_iff.mp hstep
      exact h.item hv _ (List.mem_of_getElem? hi)
    | _ => simp [Address.step] at hstep

theorem Closed.lookup {raw done : Value → Prop} (h : Closed raw done) {path : String}
    {v w : Value} (hv : raw v) (hw : Address.lookup v path = some w) : raw w :=
  h.follow hv hw

theorem Closed.targetProbe {raw done : Value → Prop} (h : Closed raw done) {S : Setting σ}
    (hroot : raw S.root) {target name : String} {probe : Probe}
    (hprobe : Resolution.targetProbe S target name = some probe) : raw (.probe probe) := by
  obtain ⟨found, hfound, hnamed⟩ := Option.bind_eq_some_iff.mp hprobe
  obtain ⟨named, hlookup, hvalue⟩ := Option.bind_eq_some_iff.mp hnamed
  have hraw : raw named := h.lookup (h.lookup hroot hfound) hlookup
  cases named with
  | probe p => exact Option.some.inj hvalue ▸ hraw
  | _ => simp [Value.probe?] at hvalue

theorem closed_trivial : Closed (fun _ => True) (fun _ => True) := by
  constructor <;> intros <;> trivial

namespace LevelAligned

variable {S : Setting σ} {T : Setting τ} {raw done : Value → Prop} {R : Relation σ τ}
  {d : Value → Resolution σ Value} {e : Value → Resolution τ Value}

/-- What an address stands for: null where it stands for nothing. -/
theorem accessD (h : LevelAligned S T raw done R d e) (address : String) :
    R done (do return (← Resolution.access S d address).getD .null)
      (do return (← Resolution.access T e address).getD .null) := by
  refine h.bind (h.access address) fun found hfound => h.pure ?_
  cases found with
  | none => exact h.null
  | some v => exact hfound v rfl

theorem argument (h : LevelAligned S T raw done R d e) (text : String) :
    R (·.IsBound done) (Resolution.argument S d text) (Resolution.argument T e text) := by
  unfold Resolution.argument
  cases htext : hasSigil text with
  | true =>
    simp only [ite_true]
    exact h.mono (h.accessD text) fun v hv => Or.inl hv
  | false =>
    simp only [Bool.false_eq_true, ite_false]
    exact h.pure (Or.inr ⟨text, htext, rfl⟩)

theorem bindArgs (h : LevelAligned S T raw done R d e) (args : List (String × String))
    {bound : Record} (hbound : ∀ arg ∈ bound, arg.2.IsBound done) :
    R (fun bound => ∀ arg ∈ bound, arg.2.IsBound done) (Resolution.bindArgs S d args bound)
      (Resolution.bindArgs T e args bound) := by
  induction args generalizing bound with
  | nil => exact h.pure hbound
  | cons arg rest ih =>
    obtain ⟨name, text⟩ := arg
    refine h.bind (h.argument text) fun v hv => ih ?_
    intro other hother
    rcases Entries.eq_or_mem_of_mem_insert hother with rfl | hold
    · exact hv
    · exact hbound other hold

/-- What a clause captures is resolved or comes out of a probe, so it is raw. -/
theorem reach (h : LevelAligned S T raw done R d e) (clause : Clause) :
    R (fun found => ∀ v ∈ found, raw v)
      (Resolution.note (.reached clause) >>= fun _ => Resolution.capture S d clause)
      (Resolution.note (.reached clause) >>= fun _ => Resolution.capture T e clause) := by
  cases clause with
  | bare address =>
    exact h.remark rfl (h.bind (h.access address) fun found hfound =>
      h.pure fun v hv => h.raw_of_done (hfound v (Option.mem_filter_iff.mp hv).1))
  | oneOf address alternatives =>
    exact h.remark rfl (h.bind (h.access address) fun found hfound =>
      h.pure fun v hv => h.raw_of_done (hfound v (Option.mem_filter_iff.mp hv).1))
  | call target spec => exact h.reachCall target spec (h.bindArgs spec.args (by simp))
  | malformed target signature => exact h.remark rfl (h.remark rfl (h.pure (by simp)))

theorem judgeFrom (h : LevelAligned S T raw done R d e) (criterion : Criterion)
    (parts : Nat) {captured : Value} (hcaptured : raw captured) :
    R (fun verdict => ∀ v ∈ verdict.value?, raw v)
      (Resolution.judgeFrom S d parts captured criterion)
      (Resolution.judgeFrom T e parts captured criterion) := by
  induction criterion generalizing parts captured with
  | nil =>
    refine h.pure ?_
    by_cases hparts : parts = 0 <;> simp [hparts, Verdict.value?, hcaptured]
  | cons clause rest ih =>
    simp only [Resolution.judgeFrom]
    rw [← bind_assoc, ← bind_assoc]
    refine h.bind (h.reach clause) fun found hfound => ?_
    cases found with
    | none => exact h.pure (by simp [Verdict.value?])
    | some v =>
      have hv : raw v := hfound v rfl
      cases hbare : clause.isBare with
      | true =>
        simp only [ite_true]
        exact h.pure (by simp [Verdict.value?, hv])
      | false =>
        simp only [Bool.false_eq_true, ite_false]
        exact ih (parts + 1) hv

theorem select (h : LevelAligned S T raw done R d e) (branches : List Branch)
    (hbranches : ∀ branch ∈ branches, raw branch.outcome) {selection : Selection}
    (hchosen : ∀ v ∈ selection.chosen, raw v) :
    R (fun selection => ∀ v ∈ selection.chosen, raw v)
      (Resolution.select S d branches selection)
      (Resolution.select T e branches selection) := by
  induction branches generalizing selection with
  | nil => exact h.pure hchosen
  | cons branch rest ih =>
    refine h.bind (h.count _ Metrics.isTally_criterion) fun _ _ => ?_
    refine h.bind (h.judgeFrom branch.criterion 0 (h.raw_of_done h.null))
      fun verdict hverdict => ?_
    refine h.bind (h.count _ (Metrics.isTally_verdict verdict)) fun _ _ => h.remark ?_ ?_
    · exact selection.isRemark_event branch.key verdict
    · refine ih (fun b hb => hbranches b (List.mem_cons_of_mem _ hb)) fun v hv => ?_
      rcases selection.mem_consider hv with hold | hresult | hverdict'
      · exact hchosen v hold
      · exact hresult ▸ hbranches branch List.mem_cons_self
      · exact hverdict v hverdict'

theorem settle (h : LevelAligned S T raw done R d e) {chosen : Option Value}
    (hchosen : ∀ v ∈ chosen, raw v) :
    R done (Resolution.settle S d chosen) (Resolution.settle T e chosen) := by
  cases chosen with
  | none => exact h.pure h.null
  | some v =>
    have hv : raw v := hchosen v rfl
    simp only [Resolution.settle]
    rcases h.collapse v hv with rfl | hsame
    · have hnull := h.pure h.null
      simpa [Value.isLiteral] using hnull
    · rw [hsame]
      split
      · exact h.pure h.null
      · split
        · next hliteral => exact h.pure (h.literal hv hliteral)
        · exact h.descend v hv

theorem resolveRule (h : LevelAligned S T raw done R d e) {members : Record}
    (hmembers : raw (.object members)) :
    R done (Resolution.resolveRule S d (.ofMembers members))
      (Resolution.resolveRule T e (.ofMembers members)) := by
  rw [resolveRule_eq, resolveRule_eq]
  refine h.bind (h.openRule _ fun v hv => ?_) fun fallback hfallback => ?_
  · exact h.member hmembers _ (Rule.mem_of_fallbackOf hv).choose_spec
  · refine h.bind (h.select _ (fun branch hbranch => ?_) hfallback) fun selection hchosen =>
      h.settle hchosen
    exact h.member hmembers _ (Rule.mem_of_mem_branchesOf hbranch)

mutual

/-- Related ways to go one level deeper make the walks of a value related. -/
theorem walk (h : LevelAligned S T raw done R d e) :
    ∀ v, raw v → R done (Resolution.walk S d v) (Resolution.walk T e v)
  | .string s, hv => by
    simp only [Resolution.walk]
    refine h.bind h.visit fun _ _ => ?_
    cases hs : hasSigil s with
    | true =>
      simp only [ite_true]
      exact h.accessD s
    | false =>
      simp only [Bool.false_eq_true, ite_false]
      exact h.pure (h.literal hv (by simp [Value.isLiteral, hs]))
  | .array items, hv => by
    simp only [Resolution.walk]
    refine h.bind h.visit fun _ _ => h.bind (walkItems h items (h.item hv)) ?_
    exact fun resolved hresolved => h.pure (h.array hresolved)
  | .object members, hv => by
    simp only [Resolution.walk]
    refine h.bind h.visit fun _ _ => ?_
    cases hrule : isRule members with
    | true =>
      simp only [ite_true]
      exact h.resolveRule hv
    | false =>
      simp only [Bool.false_eq_true, ite_false]
      refine h.bind (walkMembers h members (h.member hv)) fun resolved hresolved => ?_
      refine h.pure (h.object ?_ hresolved.2)
      rw [isRule_eq_of_keys_eq hresolved.1, hrule]
  | .null, hv => h.bind h.visit fun _ _ => h.pure (h.literal hv rfl)
  | .bool _, hv => h.bind h.visit fun _ _ => h.pure (h.literal hv rfl)
  | .number _, hv => h.bind h.visit fun _ _ => h.pure (h.literal hv rfl)
  | .probe _, hv => h.bind h.visit fun _ _ => h.pure (h.literal hv rfl)
termination_by structural v => v

theorem walkItems (h : LevelAligned S T raw done R d e) :
    ∀ items, (∀ item ∈ items, raw item) →
      R (fun resolved => ∀ item ∈ resolved, done item) (Resolution.walkItems S d items)
        (Resolution.walkItems T e items)
  | [], _ => h.pure (by simp)
  | item :: rest, hitems => by
    refine h.bind (walk h item (hitems item List.mem_cons_self)) fun v hv => ?_
    refine h.bind (walkItems h rest fun i hi => hitems i (List.mem_cons_of_mem _ hi)) ?_
    exact fun resolved hresolved => h.pure (List.forall_mem_cons.mpr ⟨hv, hresolved⟩)
termination_by structural items => items

theorem walkMembers (h : LevelAligned S T raw done R d e) :
    ∀ members : List (String × Value), (∀ member ∈ members, raw member.2) →
      R (fun resolved => Entries.keys resolved = Entries.keys members ∧
          ∀ member ∈ resolved, done member.2)
        (Resolution.walkMembers S d members) (Resolution.walkMembers T e members)
  | [], _ => h.pure (by simp [Entries.keys])
  | (key, value) :: rest, hmembers => by
    refine h.bind (walk h value (hmembers _ List.mem_cons_self)) fun v hv => ?_
    refine h.bind (walkMembers h rest fun m hm => hmembers m (List.mem_cons_of_mem _ hm)) ?_
    intro resolved hresolved
    refine h.pure ⟨?_, List.forall_mem_cons.mpr ⟨hv, hresolved.2⟩⟩
    simpa [Entries.keys] using hresolved.1
termination_by structural members => members

end

end LevelAligned

/-- Relations of two runs, one for each number of levels that may be opened, that hold at
the limit and are carried one level deeper. -/
theorem descendWithin_related {S : Setting σ} {T : Setting τ} {raw done : Value → Prop}
    {R : Nat → Relation σ τ}
    (h : ∀ levels, (∀ v, raw v →
        R levels done (descendWithin S levels v) (descendWithin T levels v)) →
      LevelAligned S T raw done (R levels) (descendWithin S levels) (descendWithin T levels))
    (hrefuse : R 0 done (refuse S.options.maxDepth) (refuse T.options.maxDepth))
    (hnested : ∀ levels m n, R levels done m n → R (levels + 1) done (nested m) (nested n))
    (levels : Nat) : ∀ v, raw v →
      R levels done (descendWithin S levels v) (descendWithin T levels v) := by
  induction levels with
  | zero => exact fun _ _ => hrefuse
  | succ levels ih =>
    intro v hv
    refine hnested levels _ _ ?_
    rw [resolveWithin_eq, resolveWithin_eq]
    exact (h levels ih).walk v hv

namespace Congruence

variable {S : Setting σ} {T : Setting τ} {raw done : Value → Prop} {R : Relation σ τ}

/-- Settings with one store look up alike, one level deeper too. -/
theorem access (h : Congruence R) (hclosed : Closed raw done) (hstore : S.store = T.store)
    (hroot : raw S.root)
    (hlookup : ∀ address found,
      R (fun _ => True) (noteLookup address found) (noteLookup address found))
    {d : Value → Resolution σ Value} {e : Value → Resolution τ Value}
    (hd : ∀ v, raw v → R done (d v) (e v)) (address : String) :
    R (fun found => ∀ v ∈ found, done v) (Resolution.access S d address)
      (Resolution.access T e address) := by
  have hsame : S.root = T.root := congrArg Store.toValue hstore
  unfold Resolution.access
  rw [← hsame]
  refine h.bind (hlookup _ _) fun _ _ => ?_
  cases hfound : Address.lookup S.root address with
  | none => exact h.pure (by simp)
  | some v =>
    have hv : raw v := hclosed.lookup hroot hfound
    exact h.map (hd v hv) fun w hw u hu => Option.some.inj hu ▸ hw

/-- Settings with one store are aligned by every congruence that holds of the steps that meet
the store and the probes, and of what surrounds these, if they collapse the same raw values. -/
theorem aligned_of_collapse (h : Congruence R) (hclosed : Closed raw done)
    (hstore : S.store = T.store) (hroot : raw S.root)
    (hcollapse : ∀ v, raw v → v = .null ∨
      (S.options.collapseFalsy && !v.isTruthy) = (T.options.collapseFalsy && !v.isTruthy))
    (hrule : R (fun _ => True) (Resolution.count fun m => { m with rules := m.rules + 1 })
      (Resolution.count fun m => { m with rules := m.rules + 1 }))
    (hcue : ∀ event : Event, event.isCue = true →
      R (fun _ => True) (Resolution.note event) (Resolution.note event))
    (hlookup : ∀ address found,
      R (fun _ => True) (noteLookup address found) (noteLookup address found))
    (hcall : ∀ cause probe args, raw (.probe probe) →
      (cause = .fallback ∨ ∀ arg ∈ args, arg.2.IsBound done) →
      R raw (call S cause probe args) (call T cause probe args)) :
    Aligned S T raw done R where
  toCongruence := h
  toClosed := hclosed
  access hd address := h.access hclosed hstore hroot hlookup hd address
  openRule fallback hfallback := by
    have hsame : S.root = T.root := congrArg Store.toValue hstore
    refine h.bind hrule fun _ _ => h.bind (hcue _ rfl) fun _ _ => ?_
    cases fallback with
    | none => exact h.pure (by simp)
    | some v =>
      have hv : raw v := hfallback v rfl
      refine h.map (Φ := raw) ?_ fun w hw u hu => Option.some.inj hu ▸ hw
      cases v with
      | probe p =>
        simp only [seed, ← hsame]
        exact hcall _ _ _ hv (Or.inl rfl)
      | _ => exact h.pure hv
  reachCall target spec hbind := by
    have hsame : targetProbe S target spec.name = targetProbe T target spec.name := by
      unfold targetProbe Setting.root
      rw [hstore]
    unfold Resolution.reachCall callClause
    rw [← hsame]
    refine h.bind (hcue _ rfl) fun _ _ => h.bind (hcue _ rfl) fun _ _ => ?_
    cases hprobe : targetProbe S target spec.name with
    | none => exact h.pure (by simp)
    | some probe =>
      -- The probe stands in the store.
      have hraw : raw (.probe probe) := hclosed.targetProbe hroot hprobe
      refine h.bind hbind fun args hargs => ?_
      refine h.bind (hcall _ _ _ hraw (Or.inr hargs)) fun returned hreturned => ?_
      refine h.bind (hcue _ rfl) fun _ _ => h.pure fun v hv => ?_
      exact hclosed.lookup hreturned (Option.mem_filter_iff.mp hv).1
  collapse := hcollapse

/-- Settings with one store and one way to collapse are aligned by every congruence that
holds of the steps that meet the store and the probes, and of what surrounds these. -/
theorem aligned (h : Congruence R) (hclosed : Closed raw done) (hstore : S.store = T.store)
    (hroot : raw S.root) (hcollapse : S.options.collapseFalsy = T.options.collapseFalsy)
    (hrule : R (fun _ => True) (Resolution.count fun m => { m with rules := m.rules + 1 })
      (Resolution.count fun m => { m with rules := m.rules + 1 }))
    (hcue : ∀ event : Event, event.isCue = true →
      R (fun _ => True) (Resolution.note event) (Resolution.note event))
    (hlookup : ∀ address found,
      R (fun _ => True) (noteLookup address found) (noteLookup address found))
    (hcall : ∀ cause probe args, raw (.probe probe) →
      (cause = .fallback ∨ ∀ arg ∈ args, arg.2.IsBound done) →
      R raw (call S cause probe args) (call T cause probe args)) :
    Aligned S T raw done R :=
  h.aligned_of_collapse hclosed hstore hroot (fun _ _ => Or.inr (by rw [hcollapse])) hrule hcue
    hlookup hcall

/-- Related resolutions of values make the resolutions of a template related. -/
theorem resolveTemplate (h : Congruence R) (hclosed : Closed raw done)
    (hv : ∀ v, raw v → R done (resolveValue S v) (resolveValue T v))
    (hfinish : R (fun _ => True) (update fun s => s.note (.finished s.metrics))
      (update fun s => s.note (.finished s.metrics)))
    (template : Record) (htemplate : ∀ property ∈ template, raw property.2) :
    R (fun resolved => Entries.keys resolved = Entries.keys template ∧
        ∀ property ∈ resolved, done property.2)
      (Resolution.resolveTemplate S template) (Resolution.resolveTemplate T template) := by
  refine h.bind (Φ := fun resolved => Entries.keys resolved = Entries.keys template ∧
      ∀ property ∈ resolved, done property.2) ?_ fun resolved hresolved =>
    h.bind hfinish fun _ _ => h.pure hresolved
  induction template with
  | nil => exact h.pure (by simp [Entries.keys])
  | cons property rest ih =>
    obtain ⟨key, value⟩ := property
    have hvalue : raw value := htemplate _ List.mem_cons_self
    have hrest := ih fun p hp => htemplate p (List.mem_cons_of_mem _ hp)
    refine h.bind (Φ := done) (h.remark rfl ?_) fun v hv => h.bind hrest ?_
    · cases value with
      | probe p => exact h.pure (hclosed.literal hvalue rfl)
      | _ => exact hv _ hvalue
    · intro resolved hresolved
      refine h.pure ⟨?_, List.forall_mem_cons.mpr ⟨hv, hresolved.2⟩⟩
      simpa [Entries.keys] using hresolved.1

end Congruence

/-- Aligned settings with one limit, and what their runs need besides to stay related to the
end: refusals are related, and so is what runs one level deeper. -/
structure Lockstep (S : Setting σ) (T : Setting τ) (raw done : Value → Prop)
    (R : Relation σ τ) : Prop where
  aligned : Aligned S T raw done R
  limit : T.options.maxDepth = S.options.maxDepth
  refuse : R done (refuse S.options.maxDepth) (refuse S.options.maxDepth)
  nested : ∀ m n, R done m n → R done (nested m) (nested n)
  finish : R (fun _ => True) (update fun s => s.note (.finished s.metrics))
    (update fun s => s.note (.finished s.metrics))

namespace Lockstep

variable {S : Setting σ} {T : Setting τ} {raw done : Value → Prop} {R : Relation σ τ}

theorem descendWithin (h : Lockstep S T raw done R) (levels : Nat) :
    ∀ v, raw v →
      R done (Resolution.descendWithin S levels v) (Resolution.descendWithin T levels v) :=
  descendWithin_related (fun _ hd => h.aligned.level hd) (h.limit ▸ h.refuse)
    (fun _ => h.nested) levels

theorem level (h : Lockstep S T raw done R) (levels : Nat) :
    LevelAligned S T raw done R (Resolution.descendWithin S levels)
      (Resolution.descendWithin T levels) :=
  h.aligned.level (h.descendWithin levels)

theorem resolveWithin (h : Lockstep S T raw done R) (levels : Nat) (v : Value) (hv : raw v) :
    R done (Resolution.resolveWithin S levels v) (Resolution.resolveWithin T levels v) := by
  rw [resolveWithin_eq, resolveWithin_eq]
  exact (h.level levels).walk v hv

theorem resolveAddress (h : Lockstep S T raw done R) (address : String) :
    R (fun found => ∀ v ∈ found, done v) (Resolution.resolveAddress S address)
      (Resolution.resolveAddress T address) := by
  unfold Resolution.resolveAddress
  rw [h.limit]
  exact (h.level S.options.maxDepth).access address

theorem resolveTemplate (h : Lockstep S T raw done R) (template : Record)
    (htemplate : ∀ property ∈ template, raw property.2) :
    R (fun resolved => Entries.keys resolved = Entries.keys template ∧
        ∀ property ∈ resolved, done property.2)
      (Resolution.resolveTemplate S template) (Resolution.resolveTemplate T template) := by
  refine h.aligned.toCongruence.resolveTemplate h.aligned.toClosed (fun v hv => ?_) h.finish
    template htemplate
  unfold resolveValue
  rw [h.limit]
  exact h.resolveWithin S.options.maxDepth v hv

end Lockstep
end Resolution
end RuleTemplate
