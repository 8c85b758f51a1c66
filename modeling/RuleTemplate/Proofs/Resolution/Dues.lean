import RuleTemplate.Proofs.Entries
import RuleTemplate.Proofs.Resolution.Recursion

/-!
What a resolution owes to its probes, read off its steps. A rule whose fallback is a probe calls
it at once. A call clause whose target is a probe calls it once its arguments are bound, with what
resolving them has returned; while they are being bound other calls may become due and are made,
so the calls that are due form a stack. Nothing else calls a probe.
-/
namespace RuleTemplate

def Event.isCall : Event → Bool
  | .invoked _ _ _ => true
  | _ => false

def Event.isOpening : Event → Bool
  | .opened _ => true
  | _ => false

/-- The step makes a call due: a rule begins that has a probe for a fallback, or a call
clause finds a probe at its target. -/
def Event.makesDue : Event → Bool
  | .opened (some (.probe _)) | .located _ _ (some _) => true
  | _ => false

def Setting.replay {σ : Type} (setting : Setting σ) (events : List Event) (probes : σ) : σ :=
  events.foldl (fun probes event =>
    match event with
    | .invoked _ probe args => (setting.invoke probe args probes).2
    | _ => probes) probes

namespace Resolution

variable {σ : Type} {S : Setting σ} {d : Value → Resolution σ Value}

/-- The steps, the earliest first, lead from one state to the other: they are noted, the calls
among them made and counted, and so are the rules that they begin. -/
structure Recorded (S : Setting σ) (s : State σ) (events : List Event) (t : State σ) : Prop where
  journal_eq : t.journal = events.reverse ++ s.journal
  probes_eq : t.probes = S.replay events s.probes
  probeCalls_eq : t.metrics.probeCalls = s.metrics.probeCalls + events.countP Event.isCall
  rules_eq : t.metrics.rules = s.metrics.rules + events.countP Event.isOpening

theorem Recorded.refl (s : State σ) : Recorded S s [] s := ⟨rfl, rfl, rfl, rfl⟩

theorem Recorded.append {s t u : State σ} {events events' : List Event}
    (h : Recorded S s events t) (h' : Recorded S t events' u) :
    Recorded S s (events ++ events') u where
  journal_eq := by rw [h'.journal_eq, h.journal_eq, List.reverse_append, List.append_assoc]
  probes_eq := by
    rw [h'.probes_eq, h.probes_eq, Setting.replay, Setting.replay, Setting.replay,
      List.foldl_append]
  probeCalls_eq := by
    rw [h'.probeCalls_eq, h.probeCalls_eq, List.countP_append, Nat.add_assoc]
  rules_eq := by rw [h'.rules_eq, h.rules_eq, List.countP_append, Nat.add_assoc]

/-- The arguments come to these bindings, each resolved in the state that the one before it has
left. A text that is no address is bound as it is, an address is bound to what resolving it
returns, and to null where nothing stands. -/
inductive ResolvesArgs (S : Setting σ) (d : Value → Resolution σ Value) :
    State σ → List (String × String) → Record → State σ → Prop
  | nil (s : State σ) : ResolvesArgs S d s [] [] s
  | text {s t : State σ} {name text : String} {rest : List (String × String)}
      {bindings : Record} (htext : hasSigil text = false)
      (hrest : ResolvesArgs S d s rest bindings t) :
      ResolvesArgs S d s ((name, text) :: rest) ((name, .string text) :: bindings) t
  | address {s t u : State σ} {name address : String} {found : Option Value}
      {rest : List (String × String)} {bindings : Record} (hsigil : hasSigil address = true)
      (hfound : access S d address s = (.ok found, t))
      (hrest : ResolvesArgs S d t rest bindings u) :
      ResolvesArgs S d s ((name, address) :: rest) ((name, found.getD .null) :: bindings) u

theorem ResolvesArgs.keys_eq {s t : State σ} {args : List (String × String)} {bindings : Record}
    (h : ResolvesArgs S d s args bindings t) : bindings.keys = args.map Prod.fst := by
  induction h with
  | nil => rfl
  | text _ _ ih => exact congrArg (List.cons _) ih
  | address _ _ _ ih => exact congrArg (List.cons _) ih

theorem ResolvesArgs.keys_ofList {s t : State σ} {args : List (String × String)}
    {bindings : Record} (h : ResolvesArgs S d s args bindings t) :
    (Entries.ofList bindings).keys = (args.map Prod.fst).eraseDups := by
  rw [Entries.keys_ofList, h.keys_eq]

/-- What is bound in the end was resolved in order. -/
theorem bindArgs_eq_ok {args : List (String × String)} {bound record : Record} {s t : State σ}
    (h : bindArgs S d args bound s = (.ok record, t)) :
    ∃ bindings, ResolvesArgs S d s args bindings t ∧
      record = Entries.insertAll bound bindings := by
  induction args generalizing bound s with
  | nil =>
    simp only [bindArgs, pure_apply, Prod.mk.injEq, Except.ok.injEq] at h
    obtain ⟨rfl, rfl⟩ := h
    exact ⟨[], .nil s, rfl⟩
  | cons arg rest ih =>
    obtain ⟨name, text⟩ := arg
    obtain ⟨v, u, hfirst, hrest⟩ := bind_eq_ok h
    obtain ⟨bindings, hbindings, rfl⟩ := ih hrest
    unfold argument at hfirst
    cases htext : hasSigil text with
    | false =>
      simp only [htext, Bool.false_eq_true, if_false, pure_apply, Prod.mk.injEq,
        Except.ok.injEq] at hfirst
      obtain ⟨rfl, rfl⟩ := hfirst
      exact ⟨_, .text htext hbindings, rfl⟩
    | true =>
      rw [htext, if_pos rfl] at hfirst
      obtain ⟨found, w, hfound, hpure⟩ := bind_eq_ok hfirst
      simp only [pure_apply, Prod.mk.injEq, Except.ok.injEq] at hpure
      obtain ⟨rfl, rfl⟩ := hpure
      exact ⟨_, .address htext hfound hbindings, rfl⟩

end Resolution

open Resolution (Recorded ResolvesArgs deeper resolveHere)

/-- Resolving the arguments of the call, at the depth where the state is, leads from one state to
the other and comes to the record. Names stand in it in the order in which they first come, each
with the value that was bound to it last. -/
def CallSpec.Binds {σ : Type} (S : Setting σ) (spec : CallSpec) (s : State σ) (record : Record)
    (t : State σ) : Prop :=
  ∃ bindings, ResolvesArgs S (deeper S (resolveHere S)) s spec.args bindings t ∧
    record = Entries.ofList bindings

structure DueCall (σ : Type) where
  target : String
  spec : CallSpec
  probe : Probe
  /-- The state in which its arguments begin to be bound. -/
  begun : State σ

/-- Among the steps the target of the call has been looked up and the probe found there, and its
arguments began to be bound right after that. -/
def DueCall.LocatedIn {σ : Type} (S : Setting σ) (start : State σ) (events : List Event)
    (due : DueCall σ) : Prop :=
  Resolution.targetProbe S due.target due.spec.name = some due.probe ∧
  ∃ front back, events = front ++ .located due.target due.spec.name (some due.probe) :: back ∧
    Recorded S start (front ++ [.located due.target due.spec.name (some due.probe)]) due.begun

/-- What has to be the very next step, if anything has to. -/
inductive NextStep
  | any
  /-- The fallback of the rule that has begun is called. -/
  | seed (probe : Probe)
  /-- The target of the call clause that has been reached is looked up. -/
  | location (target : String) (spec : CallSpec)
  /-- The result of the call is compared. -/
  | comparison (target : String) (spec : CallSpec)

structure Dues (σ : Type) where
  next : NextStep
  /-- The calls whose arguments are being bound, the innermost first. -/
  calls : List (DueCall σ)

namespace Dues

variable {σ : Type}

def count (dues : Dues σ) : Nat :=
  match dues.next with
  | .seed _ => dues.calls.length + 1
  | _ => dues.calls.length

variable (S : Setting σ) (start : State σ)

/-- The steps that may come next, after the earlier ones from the start, where so much is due, and
what is due then. The arguments of a call are resolved from the state in which its target has been
located to the one in which it is called. -/
inductive Step (earlier : List Event) : Dues σ → Event → Dues σ → Prop
  | openProbe {calls : List (DueCall σ)} (probe : Probe) :
      Step earlier ⟨.any, calls⟩ (.opened (some (.probe probe))) ⟨.seed probe, calls⟩
  | openOther {calls : List (DueCall σ)} {fallback : Option Value}
      (hother : ∀ probe, fallback ≠ some (.probe probe)) :
      Step earlier ⟨.any, calls⟩ (.opened fallback) ⟨.any, calls⟩
  | seed {calls : List (DueCall σ)} (probe : Probe) :
      Step earlier ⟨.seed probe, calls⟩ (.invoked .fallback probe [("contexts", S.root)])
        ⟨.any, calls⟩
  | reach {calls : List (DueCall σ)} (target : String) (spec : CallSpec) :
      Step earlier ⟨.any, calls⟩ (.reached (.call target spec)) ⟨.location target spec, calls⟩
  | locateNone {calls : List (DueCall σ)} {target : String} {spec : CallSpec}
      (hprobe : Resolution.targetProbe S target spec.name = none) :
      Step earlier ⟨.location target spec, calls⟩ (.located target spec.name none) ⟨.any, calls⟩
  | locateProbe {calls : List (DueCall σ)} {target : String} {spec : CallSpec} {probe : Probe}
      {begun : State σ} (hprobe : Resolution.targetProbe S target spec.name = some probe)
      (hbegun : Recorded S start (earlier ++ [.located target spec.name (some probe)]) begun) :
      Step earlier ⟨.location target spec, calls⟩ (.located target spec.name (some probe))
        ⟨.any, ⟨target, spec, probe, begun⟩ :: calls⟩
  | call {calls : List (DueCall σ)} {target : String} {spec : CallSpec} {probe : Probe}
      {begun bound : State σ} {args : Record} (hbinds : spec.Binds S begun args bound)
      (hbound : Recorded S start earlier bound) :
      Step earlier ⟨.any, ⟨target, spec, probe, begun⟩ :: calls⟩
        (.invoked (.clause target spec) probe args) ⟨.comparison target spec, calls⟩
  | compare {calls : List (DueCall σ)} {target : String} {spec : CallSpec}
      (captured : Option Value) :
      Step earlier ⟨.comparison target spec, calls⟩ (.compared target spec captured) ⟨.any, calls⟩
  | other {calls : List (DueCall σ)} {event : Event} (hcue : event.isCue = false)
      (hcall : event.isCall = false) : Step earlier ⟨.any, calls⟩ event ⟨.any, calls⟩

inductive Steps : List Event → Dues σ → List Event → Dues σ → Prop
  | nil (earlier : List Event) (dues : Dues σ) : Steps earlier dues [] dues
  | cons {earlier : List Event} {first second last : Dues σ} {event : Event}
      {events : List Event} : Step S start earlier first event second →
      Steps (earlier ++ [event]) second events last → Steps earlier first (event :: events) last

variable {S start} {earlier events events' : List Event} {event : Event} {dues dues' : Dues σ}

theorem Step.steps (h : Step S start earlier dues event dues') :
    Steps S start earlier dues [event] dues' := .cons h (.nil _ dues')

theorem Steps.append {first second last : Dues σ} (h : Steps S start earlier first events second)
    (h' : Steps S start (earlier ++ events) second events' last) :
    Steps S start earlier first (events ++ events') last := by
  induction h with
  | nil => rwa [List.append_nil] at h'
  | cons hstep _ ih =>
    refine .cons hstep (ih ?_)
    rwa [List.append_assoc]

/-- Calls are made for what was due, or was made due. What is not made of it is due still. -/
theorem Steps.countP_isCall (h : Steps S start earlier dues events dues') :
    events.countP Event.isCall + dues'.count = events.countP Event.makesDue + dues.count := by
  induction h with
  | nil => rfl
  | @cons earlier first second last event events hstep _ ih =>
    -- What is due grows by the calls that a step makes due, and shrinks by those it makes.
    have hevent : (if event.isCall then 1 else 0) + second.count =
        (if event.makesDue then 1 else 0) + first.count := by
      cases hstep with
      | openProbe probe => simp [count, Event.isCall, Event.makesDue]; omega
      | @openOther calls fallback hother =>
        cases fallback with
        | none => simp [count, Event.isCall, Event.makesDue]
        | some v =>
          cases v with
          | probe p => exact absurd rfl (hother p)
          | _ => simp [count, Event.isCall, Event.makesDue]
      | seed probe => simp [count, Event.isCall, Event.makesDue]; omega
      | locateProbe => simp [count, Event.isCall, Event.makesDue]; omega
      | call => simp [count, Event.isCall, Event.makesDue]; omega
      | other hcue hcall =>
        cases event <;> simp_all [count, Event.isCall, Event.makesDue, Event.isCue]
      | _ => simp [count, Event.isCall, Event.makesDue]
    simp only [List.countP_cons]
    omega

/-- Any of the steps may come next where the ones before it have led. -/
theorem Steps.exists_step
    (h : Steps S start earlier dues (events ++ event :: events') dues') :
    ∃ before after, Steps S start earlier dues events before ∧
      Step S start (earlier ++ events) before event after := by
  induction events generalizing earlier dues with
  | nil =>
    cases h with
    | cons hstep _ => exact ⟨dues, _, .nil earlier dues, by rwa [List.append_nil]⟩
  | cons first rest ih =>
    cases h with
    | cons hfirst hrest =>
      obtain ⟨before, after, hbefore, hstep⟩ := ih hrest
      rw [List.append_assoc] at hstep
      exact ⟨before, after, .cons hfirst hbefore, hstep⟩

/-- A fallback is due right after its rule has begun. -/
theorem Steps.opened_of_seed (h : Steps S start earlier dues events dues') {probe : Probe}
    (hnext : dues'.next = .seed probe) :
    (events = [] ∧ dues.next = .seed probe) ∨
      ∃ front, events = front ++ [.opened (some (.probe probe))] := by
  induction h with
  | nil => exact Or.inl ⟨rfl, hnext⟩
  | @cons earlier first second last event events hstep _ ih =>
    rcases ih hnext with ⟨rfl, hsecond⟩ | ⟨front, rfl⟩
    -- No other step comes before a fallback that is due, so it has just become due.
    · cases hstep with
      | openProbe p =>
        obtain rfl : p = probe := NextStep.seed.inj hsecond
        exact Or.inr ⟨[], rfl⟩
      | _ => simp at hsecond
    · exact Or.inr ⟨event :: front, rfl⟩

/-- A call of a clause that is due was due from the beginning, or the steps have located it. -/
theorem Steps.locatedIn (h : Steps S start earlier dues events dues') {due : DueCall σ}
    (hdue : due ∈ dues'.calls) :
    due ∈ dues.calls ∨ due.LocatedIn S start (earlier ++ events) := by
  induction h with
  | nil => exact Or.inl hdue
  | @cons earlier first second last event events hstep _ ih =>
    rcases ih hdue with hsecond | hlocated
    · cases hstep with
      | locateProbe hprobe hbegun =>
        rcases List.mem_cons.mp hsecond with rfl | hold
        · exact Or.inr ⟨hprobe, earlier, events, rfl, hbegun⟩
        · exact Or.inl hold
      | call => exact Or.inl (List.mem_cons_of_mem _ hsecond)
      | _ => exact Or.inl hsecond
    · rw [List.append_assoc] at hlocated
      exact Or.inr hlocated

/-- From where nothing is due a fallback is called with the store, as soon as its rule begins. -/
theorem Steps.seed_call {probe : Probe} {args : Record}
    (h : Steps S start [] ⟨.any, []⟩ (events ++ .invoked .fallback probe args :: events') dues') :
    args = [("contexts", S.root)] ∧
      ∃ front, events = front ++ [.opened (some (.probe probe))] := by
  obtain ⟨before, after, hbefore, hstep⟩ := h.exists_step
  cases hstep with
  | seed probe =>
    rcases hbefore.opened_of_seed rfl with ⟨-, hnone⟩ | hfront
    · simp at hnone
    · exact ⟨rfl, hfront⟩
  | other hcue hcall => simp [Event.isCall] at hcall

/-- From where nothing is due a clause calls the probe that it has found, with what resolving its
arguments has come to since then. -/
theorem Steps.clause_call {target : String} {spec : CallSpec} {probe : Probe} {args : Record}
    (h : Steps S start [] ⟨.any, []⟩
      (events ++ .invoked (.clause target spec) probe args :: events') dues') :
    ∃ begun bound, DueCall.LocatedIn S start events ⟨target, spec, probe, begun⟩ ∧
      spec.Binds S begun args bound ∧ Recorded S start events bound := by
  obtain ⟨before, after, hbefore, hstep⟩ := h.exists_step
  cases hstep with
  | @call calls _ _ _ begun bound _ hbinds hbound =>
    rcases hbefore.locatedIn List.mem_cons_self with hnone | hlocated
    · simp at hnone
    · exact ⟨begun, bound, hlocated, hbinds, hbound⟩
  | other hcue hcall => simp [Event.isCall] at hcall

end Dues
end RuleTemplate
