import RuleTemplate.Proofs.Resolution.DepthLimit
import RuleTemplate.Proofs.Resolution.Dues
import RuleTemplate.Proofs.Resolution.Resolved

/-!
A resolution calls a probe only when the call is due, and makes every call that is due, unless
it fails while the arguments are being bound. The journal tells which calls were made, in
which order; the counters agree with it, and nothing else changes the states of the probes.
The levels that are left are tracked, because the record of a call holds what its arguments come
to where so many are left.
-/
namespace RuleTemplate
namespace Resolution

variable {σ α β : Type} {S : Setting σ} {start : State σ} {levels : Nat}

/-- What a run from `s` comes to: its steps are recorded, whatever came before and was due, they
are the steps that are due, and if it succeeds, nothing new is left to do. -/
structure Disciplined (S : Setting σ) (start : State σ) (Φ : α → Prop) (s : State σ)
    (run : Except DepthExceeded α × State σ) : Prop where
  result : ∀ a, run.1 = .ok a → Φ a
  depth_eq : run.2.depth = s.depth
  trace : ∃ events unmade, Recorded S s events run.2 ∧
    (run.1.isOk = true → unmade = []) ∧
    ∀ earlier calls, Recorded S start earlier s →
      Dues.Steps S start earlier ⟨.any, calls⟩ events ⟨.any, unmade ++ calls⟩

def RunsDisciplined (S : Setting σ) (start : State σ) (levels : Nat) (Φ : α → Prop)
    (m : Resolution σ α) : Prop :=
  ∀ s, s.depth + levels = S.options.maxDepth → Disciplined S start Φ s (m s)

theorem RunsDisciplined.bind {Φ : α → Prop} {Ψ : β → Prop} {m : Resolution σ α}
    {f : α → Resolution σ β} (hm : RunsDisciplined S start levels Φ m)
    (hf : ∀ a, Φ a → RunsDisciplined S start levels Ψ (f a)) :
    RunsDisciplined S start levels Ψ (m >>= f) := by
  intro s hs
  obtain ⟨hresult, hdepth, events, unmade, hrecorded, hmade, hsteps⟩ := hm s hs
  rcases hrun : m s with ⟨result, t⟩
  rw [hrun] at hresult hdepth hrecorded hmade
  cases result with
  | error e =>
    rw [bind_of_error hrun]
    exact ⟨fun b hb => by simp at hb, hdepth, events, unmade, hrecorded, fun hok => hmade hok,
      hsteps⟩
  | ok a =>
    rw [bind_of_ok hrun]
    obtain rfl : unmade = [] := hmade rfl
    have ht : t.depth + levels = S.options.maxDepth := by rw [← hs, ← hdepth]
    obtain ⟨hresult', hdepth', events', unmade', hrecorded', hmade', hsteps'⟩ :=
      hf a (hresult a rfl) t ht
    exact ⟨hresult', hdepth'.trans hdepth, events ++ events', unmade',
      hrecorded.append hrecorded', hmade', fun earlier calls hearlier =>
        (hsteps earlier calls hearlier).append (hsteps' _ calls (hearlier.append hrecorded))⟩

/-- A run that takes one step which may come at any time. -/
theorem disciplined_other {Φ : α → Prop} {s : State σ}
    {run : Except DepthExceeded α × State σ} (event : Event) (hcue : event.isCue = false)
    (hcall : event.isCall = false) (hrecorded : Recorded S s [event] run.2)
    (hdepth : run.2.depth = s.depth) (hresult : ∀ a, run.1 = .ok a → Φ a) :
    Disciplined S start Φ s run :=
  ⟨hresult, hdepth, [event], [], hrecorded, fun _ => rfl,
    fun _ _ _ => (Dues.Step.other hcue hcall).steps⟩

/-- A step that is only noted. -/
theorem recorded_note {event : Event} (hcall : event.isCall = false)
    (hopening : event.isOpening = false) (s : State σ) :
    Recorded S s [event] (s.note event) where
  journal_eq := rfl
  probes_eq := by cases event <;> simp_all [State.note, Setting.replay, Event.isCall]
  probeCalls_eq := by simp [State.note, hcall]
  rules_eq := by simp [State.note, hopening]

theorem disciplined_congruence (S : Setting σ) (start : State σ) (levels : Nat) :
    Congruence fun _ Φ (m _ : Resolution σ _) => RunsDisciplined S start levels Φ m where
  pure ha s _ := ⟨fun _ hb => Except.ok.inj hb ▸ ha, rfl, [], [], .refl s, fun _ => rfl,
    fun earlier calls _ => .nil earlier ⟨.any, calls⟩⟩
  bind := RunsDisciplined.bind
  note event hremark s _ := by
    have hcue : event.isCue = false := by
      cases event with
      | reached clause => cases clause <;> simp_all [Event.isRemark, Event.isCue]
      | _ => simp_all [Event.isRemark, Event.isCue]
    have hcall : event.isCall = false := by
      cases event <;> simp_all [Event.isRemark, Event.isCall]
    have hopening : event.isOpening = false := by
      cases event <;> simp_all [Event.isRemark, Event.isOpening]
    exact disciplined_other event hcue hcall (recorded_note hcall hopening s) rfl
      fun _ _ => trivial
  count change htally s _ := by
    obtain ⟨share, hrules, -, hcalls, -, hchange⟩ := htally
    refine ⟨fun _ _ => trivial, rfl, [], [], ⟨rfl, rfl, ?_, ?_⟩, fun _ => rfl,
      fun earlier calls _ => .nil earlier ⟨.any, calls⟩⟩
    · have hsum : change s.metrics = s.metrics + share := hchange s.metrics
      simp [count, update, State.count, hsum, Metrics.add_def, hcalls]
    · have hsum : change s.metrics = s.metrics + share := hchange s.metrics
      simp [count, update, State.count, hsum, Metrics.add_def, hrules]

theorem recorded_call (cause : Cause) (probe : Probe) (args : Record) (s : State σ) :
    Recorded S s [.invoked cause probe args] (call S cause probe args s).2 :=
  ⟨rfl, rfl, rfl, rfl⟩

theorem recorded_opening (fallback : Option Value) (s : State σ) :
    Recorded S s [.opened fallback]
      ((s.count fun m => { m with rules := m.rules + 1 }).note (.opened fallback)) :=
  ⟨rfl, rfl, rfl, rfl⟩

/-- Where a rule begins, its fallback probe is called next, and nothing is where it has none. -/
theorem disciplined_openRule (S : Setting σ) (start : State σ) (fallback : Option Value)
    (s : State σ) :
    Disciplined S start (fun seeded => ∀ v ∈ seeded, True) s (openRule S fallback s) := by
  have hother (hfallback : ∀ probe, fallback ≠ some (.probe probe))
      (hrun : openRule S fallback s = (.ok fallback,
        (s.count fun m => { m with rules := m.rules + 1 }).note (.opened fallback))) :
      Disciplined S start (fun seeded => ∀ v ∈ seeded, True) s (openRule S fallback s) := by
    rw [hrun]
    exact ⟨by simp, rfl, [.opened fallback], [], recorded_opening fallback s, fun _ => rfl,
      fun _ _ _ => (Dues.Step.openOther hfallback).steps⟩
  cases fallback with
  | none => exact hother (by simp) rfl
  | some v =>
    cases v with
    | probe p =>
      refine ⟨by simp, rfl,
        [.opened (some (.probe p)), .invoked .fallback p [("contexts", S.root)]], [],
        (recorded_opening _ s).append (recorded_call _ p _ _), fun _ => rfl,
        fun earlier calls _ => ?_⟩
      exact (Dues.Step.openProbe p).steps.append (Dues.Step.seed p).steps
    | _ => exact hother (by simp) rfl

/-- Arguments that are bound where so many levels are left were resolved at the depth where the
state is. -/
theorem binds_of_bindArgs {spec : CallSpec} {s t : State σ} {record : Record}
    (hs : s.depth + levels = S.options.maxDepth)
    (h : bindArgs S (descendWithin S levels) spec.args [] s = (.ok record, t)) :
    spec.Binds S s record t := by
  obtain rfl : levels = S.options.maxDepth - s.depth := by omega
  have hlevel := (agreesAt_aligned S s.depth).level fun w _ => agreesAt_descendWithin S s.depth w
  have hnone : ∀ arg ∈ ([] : Record), arg.2.IsBound fun _ => True := by simp
  have hagrees := (hlevel.bindArgs spec.args hnone s rfl).1
  exact bindArgs_eq_ok (hagrees.trans h)

/-- A call that is due is made as soon as its arguments are bound. If binding them fails it is
left due, under the calls that were due for its arguments. -/
theorem steps_callLocated {Φ : Record → Prop} (target : String) (spec : CallSpec) (probe : Probe)
    (hbind : RunsDisciplined S start levels Φ (bindArgs S (descendWithin S levels) spec.args []))
    (begun : State σ) (hbegun : begun.depth + levels = S.options.maxDepth) :
    let run := callLocated S (descendWithin S levels) target spec (some probe) begun
    run.2.depth = begun.depth ∧ ∃ events unmade, Recorded S begun events run.2 ∧
      (run.1.isOk = true → unmade = []) ∧
      ∀ earlier calls, Recorded S start earlier begun →
        Dues.Steps S start earlier ⟨.any, ⟨target, spec, probe, begun⟩ :: calls⟩ events
          ⟨.any, unmade ++ calls⟩ := by
  intro run
  obtain ⟨-, hdepth, events, unmade, hrecorded, hmade, hsteps⟩ := hbind begun hbegun
  rcases hbound : bindArgs S (descendWithin S levels) spec.args [] begun with ⟨result, u⟩
  rw [hbound] at hdepth hrecorded hmade
  cases result with
  | error e =>
    have hrun : run = (.error e, u) := bind_of_error hbound _
    rw [hrun]
    -- What is left due for the arguments lies above this call.
    refine ⟨hdepth, events, unmade ++ [⟨target, spec, probe, begun⟩], hrecorded,
      fun hok => by simp [Except.isOk, Except.toBool] at hok, fun earlier calls hearlier => ?_⟩
    rw [List.append_assoc]
    exact hsteps earlier _ hearlier
  | ok args =>
    obtain rfl : unmade = [] := hmade rfl
    have hbinds : spec.Binds S begun args u := binds_of_bindArgs hbegun hbound
    have hrun : run = (.ok (extract spec (S.invoke probe args u.probes).1),
        (call S (.clause target spec) probe args u).2.note
          (.compared target spec (extract spec (S.invoke probe args u.probes).1))) :=
      bind_of_ok hbound _
    have hcompared : Recorded S u
        [.invoked (.clause target spec) probe args,
          .compared target spec (extract spec (S.invoke probe args u.probes).1)] run.2 := by
      rw [hrun]
      exact ⟨rfl, rfl, rfl, rfl⟩
    refine ⟨by rw [hrun]; exact hdepth, _, [], hrecorded.append hcompared, fun _ => rfl,
      fun earlier calls hearlier => ?_⟩
    exact (hsteps earlier _ hearlier).append
      (.cons (.call hbinds (hearlier.append hrecorded)) (Dues.Step.compare _).steps)

/-- Where a call clause finds a probe, the call is due while the arguments are being bound. -/
theorem disciplined_reachCall {Φ : Record → Prop} (target : String) (spec : CallSpec)
    (hbind : RunsDisciplined S start levels Φ (bindArgs S (descendWithin S levels) spec.args [])) :
    RunsDisciplined S start levels (fun found => ∀ v ∈ found, True)
      (reachCall S (descendWithin S levels) target spec) := by
  intro s hs
  have hreached : Recorded S s
      [.reached (.call target spec),
        .located target spec.name (targetProbe S target spec.name)]
      ((s.note (.reached (.call target spec))).note
        (.located target spec.name (targetProbe S target spec.name))) :=
    ⟨rfl, rfl, rfl, rfl⟩
  have hrun : reachCall S (descendWithin S levels) target spec s =
      callLocated S (descendWithin S levels) target spec (targetProbe S target spec.name)
        ((s.note (.reached (.call target spec))).note
          (.located target spec.name (targetProbe S target spec.name))) := rfl
  rw [hrun]
  cases hprobe : targetProbe S target spec.name with
  | none =>
    rw [hprobe] at hreached
    refine ⟨by simp, rfl, _, [], hreached, fun _ => rfl, fun earlier calls _ => ?_⟩
    exact .cons (.reach target spec) (Dues.Step.locateNone hprobe).steps
  | some probe =>
    rw [hprobe] at hreached
    obtain ⟨hdepth, events, unmade, hrecorded, hmade, hsteps⟩ :=
      steps_callLocated target spec probe hbind
        ((s.note (.reached (.call target spec))).note (.located target spec.name (some probe))) hs
    refine ⟨by simp, hdepth, _, unmade, hreached.append hrecorded, hmade,
      fun earlier calls hearlier => ?_⟩
    have hbegun := hearlier.append hreached
    have hdue : Dues.Step S start (earlier ++ [.reached (.call target spec)])
        ⟨.location target spec, calls⟩ (.located target spec.name (some probe))
        ⟨.any, ⟨target, spec, probe, _⟩ :: calls⟩ :=
      .locateProbe hprobe (by rwa [List.append_assoc])
    exact (Dues.Steps.cons (.reach target spec) hdue.steps).append (hsteps _ calls hbegun)

theorem disciplined_levelAligned (S : Setting σ) (start : State σ) (levels : Nat)
    (hd : ∀ v, True → RunsDisciplined S start levels (fun _ => True) (descendWithin S levels v)) :
    LevelAligned S S (fun _ => True) (fun _ => True)
      (fun _ Φ m _ => RunsDisciplined S start levels Φ m) (descendWithin S levels)
      (descendWithin S levels) where
  toCongruence := disciplined_congruence S start levels
  toClosed := closed_trivial
  descend := hd
  access address := (disciplined_congruence S start levels).access closed_trivial rfl trivial
    (fun address found _ _ => disciplined_other (.lookedUp address found) rfl rfl
      ⟨rfl, rfl, rfl, rfl⟩ rfl fun _ _ => trivial)
    (e := descendWithin S levels) hd address
  openRule fallback _ s _ := disciplined_openRule S start fallback s
  reachCall := disciplined_reachCall
  collapse _ _ := Or.inr rfl

/-- One level deeper one level less is left. -/
theorem RunsDisciplined.nested {Φ : α → Prop} {m : Resolution σ α}
    (hm : RunsDisciplined S start levels Φ m) :
    RunsDisciplined S start (levels + 1) Φ (nested m) := by
  intro s hs
  have henter : s.enter.depth + levels = S.options.maxDepth := by
    rw [State.enter_depth]
    omega
  obtain ⟨hresult, hdepth, events, unmade, ⟨hjournal, hprobes, hcalls, hrules⟩, hmade, hsteps⟩ :=
    hm s.enter henter
  refine ⟨hresult, ?_, events, unmade, ⟨hjournal, hprobes, hcalls, hrules⟩, hmade,
    fun earlier calls hearlier => hsteps earlier calls ?_⟩
  · rw [nested_apply, State.leave_depth, hdepth, State.enter_depth, Nat.add_sub_cancel]
  · exact ⟨hearlier.journal_eq, hearlier.probes_eq, hearlier.probeCalls_eq, hearlier.rules_eq⟩

theorem disciplined_descendWithin (S : Setting σ) (start : State σ) (levels : Nat) :
    ∀ v, True → RunsDisciplined S start levels (fun _ => True) (descendWithin S levels v) :=
  descendWithin_related (S := S) (T := S)
    (R := fun levels _ Φ m _ => RunsDisciplined S start levels Φ m)
    (disciplined_levelAligned S start)
    (fun s _ => disciplined_other (.refused S.options.maxDepth s.lastAddress) rfl rfl
      (recorded_note rfl rfl s) rfl fun a ha => by simp [refuse] at ha)
    (fun _ _ _ hm => hm.nested) levels

theorem disciplined_resolveTemplate (S : Setting σ) (start : State σ) (template : Record) :
    RunsDisciplined S start S.options.maxDepth
      (fun out => Entries.keys out = Entries.keys template ∧ ∀ property ∈ out, True)
      (resolveTemplate S template) := by
  have hlevel := disciplined_levelAligned S start S.options.maxDepth
    (disciplined_descendWithin S start S.options.maxDepth)
  refine hlevel.toCongruence.resolveTemplate (T := S) closed_trivial (fun v _ => ?_)
    (fun s _ => disciplined_other (.finished s.metrics) rfl rfl (recorded_note rfl rfl s) rfl
      fun _ _ => trivial) template fun _ _ => trivial
  rw [resolveValue, resolveWithin_eq]
  exact hlevel.walk v trivial

/-- Whatever the probes are, and whether the run fails or not: the calls that are counted are
those in the journal, and they are all that is made of the probes. The steps are those that
were due. So a rule calls its fallback probe once, with the store, as soon as it begins; a call
clause calls the probe that it finds once, as soon as the arguments are bound; of the calls
that were made due only those are not made whose arguments were being bound when the run
failed; and no probe is called otherwise. The record of a clause's call has the names of the
arguments once each, in the order in which they first come, and under each name what the last
argument of this name came to when it was resolved, after the look-up of the target and right
before the call. A probe that stands in a value, as a property or as an outcome stays there and
is not called. -/
theorem resolveTemplate_calls_due (S : Setting σ) (template : Record) (probes : σ) :
    let run := resolveTemplate S template { probes }
    let events := run.2.journal.reverse
    run.2.metrics.probeCalls = events.countP Event.isCall ∧
    run.2.metrics.rules = events.countP Event.isOpening ∧
    run.2.probes = S.replay events probes ∧
    (∃ unmade, Dues.Steps S { probes } [] ⟨.any, []⟩ events ⟨.any, unmade⟩ ∧
      (run.1.isOk = true → unmade = []) ∧
      events.countP Event.isCall + unmade.length = events.countP Event.makesDue) ∧
    (∀ before after probe args, events = before ++ .invoked .fallback probe args :: after →
      args = [("contexts", S.root)] ∧
      ∃ front, before = front ++ [.opened (some (.probe probe))]) ∧
    (∀ before after target spec probe args,
      events = before ++ .invoked (.clause target spec) probe args :: after →
      ∃ begun bindings bound, DueCall.LocatedIn S { probes } before ⟨target, spec, probe, begun⟩ ∧
        ResolvesArgs S (deeper S (resolveHere S)) begun spec.args bindings bound ∧
        Recorded S { probes } before bound ∧
        args.keys = (spec.args.map Prod.fst).eraseDups ∧
        ∀ name, args.get? name = Entries.get? bindings.reverse name) ∧
    (∀ levels (v : Value), v.Resolved → Copies (resolveWithin S levels v) v) ∧
    (∀ key probe, Copies (resolveProperty S key (.probe probe)) (.probe probe)) ∧
    ∀ d probe, Copies (settle S d (some (.probe probe))) (.probe probe) := by
  intro run events
  obtain ⟨-, -, events', unmade, hrecorded, hmade, hsteps⟩ :=
    disciplined_resolveTemplate S { probes } template { probes } (Nat.zero_add _)
  obtain rfl : events' = events := by
    have hjournal : run.2.journal = events'.reverse ++ [] := hrecorded.journal_eq
    rw [show events = run.2.journal.reverse from rfl, hjournal, List.append_nil,
      List.reverse_reverse]
  have hsteps := hsteps [] [] (.refl _)
  rw [List.append_nil] at hsteps
  refine ⟨?_, ?_, hrecorded.probes_eq, ⟨unmade, hsteps, hmade, hsteps.countP_isCall⟩,
    fun before after probe args hcall => ?_, fun before after target spec probe args hcall => ?_,
    fun levels v hv => ?_, fun key probe => ?_, fun d probe => ?_⟩
  · rw [hrecorded.probeCalls_eq, Nat.zero_add]
  · rw [hrecorded.rules_eq, Nat.zero_add]
  · rw [hcall] at hsteps
    exact hsteps.seed_call
  · rw [hcall] at hsteps
    obtain ⟨begun, bound, hlocated, ⟨bindings, hbindings, rfl⟩, hbound⟩ := hsteps.clause_call
    exact ⟨begun, bindings, bound, hlocated, hbindings, hbound, hbindings.keys_ofList,
      Entries.get?_ofList bindings⟩
  · rw [resolveWithin_eq]
    exact copies_walk S _ v hv
  · exact (copies_note _).bind (copies_pure _)
  · have hsettle : settle S d (some (.probe probe)) = pure (.probe probe) := by
      simp [settle, Value.isTruthy, Value.isLiteral]
    rw [hsettle]
    exact copies_pure _

/-- The name is bound to a text first, and then to what the address comes to. -/
example :
    let template : Record := [("v", .object [("@svc::next[k:plain,k:@a.x]:1", .null)])]
    let calls :=
      (resolveTemplate countingSetting template { probes := 0 }).2.journal.filterMap Event.call?
    calls.map (fun call => (call.2.keys, (call.2.get? "k").bind Value.string?)) =
      [(["k"], some "deep")] := by
  decide +kernel

/-- The fallback is called and the criterion finds its probe, but one level is too little to
bind the argument: the run fails with one call made and one due. -/
theorem resolveTemplate_calls_due_cut_off : ∃ unmade,
    (resolveTemplate (countingSetting.withLimit 1) countingTemplate
      { probes := 0 }).1.isOk = false ∧
    (resolveTemplate (countingSetting.withLimit 1) countingTemplate
      { probes := 0 }).2.metrics.probeCalls = 1 ∧
    Dues.Steps (countingSetting.withLimit 1) { probes := 0 } [] ⟨.any, []⟩
      (resolveTemplate (countingSetting.withLimit 1) countingTemplate
        { probes := 0 }).2.journal.reverse ⟨.any, unmade⟩ ∧ unmade.length = 1 := by
  obtain ⟨hcalls, -, -, ⟨unmade, hsteps, -, hcount⟩, -⟩ :=
    resolveTemplate_calls_due (countingSetting.withLimit 1) countingTemplate 0
  have hprobeCalls : (resolveTemplate (countingSetting.withLimit 1) countingTemplate
      { probes := 0 }).2.metrics.probeCalls = 1 := by decide +kernel
  have hdue : (resolveTemplate (countingSetting.withLimit 1) countingTemplate
      { probes := 0 }).2.journal.reverse.countP Event.makesDue = 2 := by decide +kernel
  refine ⟨unmade, by decide +kernel, hprobeCalls, hsteps, ?_⟩
  omega

end Resolution
end RuleTemplate
