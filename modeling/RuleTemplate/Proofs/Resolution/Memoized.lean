import Mathlib.Logic.Function.Basic
import RuleTemplate.Memo
import RuleTemplate.Proofs.Resolution.Resolved

/-!
Where all probes are memoized, resolving is repeatable. A second run asks the same questions as
the first one, and each of them is answered from what the first one has left in the caches. The
two runs are kept in step: the caches of the second one keep all that the first one will ever
keep. Only memoized probes are ever called, because values that come out of them hold no
probes.
-/
namespace RuleTemplate

/-- The state of memoized probes: a cache for each of them, and a state of the inner probes. -/
structure Memos (τ : Type) where
  caches : Probe → Cache
  inner : τ

namespace Memos

variable {τ : Type}

def kept (s : Memos τ) (probe : Probe) (key : String) : Option Value := (s.caches probe).get? key

def setCache (probe : Probe) (cache : Cache) (s : Memos τ) : Memos τ :=
  { s with caches := Function.update s.caches probe cache }

def call (inner : Record → Memos τ → Value × Memos τ) (probe : Probe) :
    Record → Memos τ → Value × Memos τ :=
  memoizeIn (fun s => s.caches probe) (setCache probe) inner

def KeptBy (s later : Memos τ) : Prop :=
  ∀ probe key v, s.kept probe key = some v → later.kept probe key = some v

def Clean (s : Memos τ) : Prop := ∀ probe key v, s.kept probe key = some v → v.ProbeFree

/-- What an inner probe may do: it returns values without probes. It may call memoized probes,
itself among them, but results that they keep are not lost. -/
structure Discreet (inner : Record → Memos τ → Value × Memos τ) : Prop where
  probeFree : ∀ (args : Record) (s : Memos τ), s.Clean → (inner args s).1.ProbeFree
  clean : ∀ (args : Record) (s : Memos τ), s.Clean → (inner args s).2.Clean
  keeps : ∀ (args : Record) (s : Memos τ), s.KeptBy (inner args s).2

theorem KeptBy.refl (s : Memos τ) : s.KeptBy s := fun _ _ _ hv => hv

theorem KeptBy.trans {s t u : Memos τ} (h : s.KeptBy t) (h' : t.KeptBy u) : s.KeptBy u :=
  fun probe key v hv => h' probe key v (h probe key v hv)

def ownState (step : Record → τ → Value × τ) (args : Record) (s : Memos τ) : Value × Memos τ :=
  ((step args s.inner).1, { s with inner := (step args s.inner).2 })

theorem discreet_ownState {step : Record → τ → Value × τ}
    (hstep : ∀ args t, (step args t).1.ProbeFree) : Discreet (ownState step) where
  probeFree args s _ := hstep args s.inner
  clean _ _ hs := hs
  keeps _ s := .refl s

variable {inner : Record → Memos τ → Value × Memos τ} {probe : Probe} {args : Record}
  {s : Memos τ}

/-- A call whose result is kept changes nothing, and does not reach the inner probe. -/
theorem call_of_kept {v : Value} (h : s.kept probe (Cache.key args) = some v) :
    call inner probe args s = (v, s) := memoizeIn_of_get? h

/-- A call whose result is not kept reaches the inner probe. -/
theorem call_of_not_kept (h : s.kept probe (Cache.key args) = none) :
    call inner probe args s = ((inner args s).1, (inner args s).2.setCache probe
      (((inner args s).2.caches probe).insert (Cache.key args) (inner args s).1)) :=
  memoizeIn_of_get?_eq_none h

/-- After a call that reaches the inner probe its result is kept, and all else is kept that the
inner probe leaves. -/
theorem kept_call_of_not_kept (h : s.kept probe (Cache.key args) = none) (other : Probe)
    (key : String) : (call inner probe args s).2.kept other key =
      if other = probe ∧ key = Cache.key args then some (inner args s).1
      else (inner args s).2.kept other key := by
  rw [call_of_not_kept h]
  by_cases hother : other = probe
  · subst hother
    simp [kept, setCache, Entries.get?_insert]
  · simp [kept, setCache, hother]

/-- After a call its result is kept. -/
theorem kept_call : (call inner probe args s).2.kept probe (Cache.key args) =
    some (call inner probe args s).1 := by
  cases h : s.kept probe (Cache.key args) with
  | some v => rw [call_of_kept h, h]
  | none => rw [kept_call_of_not_kept h, if_pos ⟨rfl, rfl⟩, call_of_not_kept h]

/-- A memoized probe may itself be an inner probe. -/
theorem Discreet.call (hinner : Discreet inner) (probe : Probe) :
    Discreet (call inner probe) where
  probeFree args s hs := by
    cases h : s.kept probe (Cache.key args) with
    | some v =>
      rw [call_of_kept h]
      exact hs probe _ v h
    | none =>
      rw [call_of_not_kept h]
      exact hinner.probeFree args s hs
  clean args s hs other key v hv := by
    cases h : s.kept probe (Cache.key args) with
    | some w =>
      rw [call_of_kept h] at hv
      exact hs other key v hv
    | none =>
      rw [kept_call_of_not_kept h] at hv
      split at hv
      · exact Option.some.inj hv ▸ hinner.probeFree args s hs
      · exact hinner.clean args s hs other key v hv
  keeps args s other key v hv := by
    cases h : s.kept probe (Cache.key args) with
    | some w => rwa [call_of_kept h]
    | none =>
      -- The new result is kept where nothing was kept before.
      have hnew : ¬(other = probe ∧ key = Cache.key args) := by
        rintro ⟨rfl, rfl⟩
        simp [h] at hv
      rw [kept_call_of_not_kept h, if_neg hnew]
      exact hinner.keeps args s other key v hv

end Memos

def Setting.Memoizes {τ : Type} (S : Setting (Memos τ)) (memoized : Probe → Prop)
    (inner : Probe → Record → Memos τ → Value × Memos τ) : Prop :=
  ∀ probe, memoized probe → S.invoke probe = Memos.call (inner probe) probe

def Setting.withInvoke {σ : Type} (setting : Setting σ)
    (invoke : Probe → Record → σ → Value × σ) : Setting σ :=
  { setting with invoke := invoke }

def State.withProbes {σ : Type} (s : State σ) (probes : σ) : State σ := { s with probes := probes }

namespace Resolution

variable {τ α β : Type} {S : Setting (Memos τ)} {memoized : Probe → Prop}
  {inner inner' : Probe → Record → Memos τ → Value × Memos τ}
  {invoke : Probe → Record → Memos τ → Value × Memos τ}

/-- What a run from `s` says about another resolution: that one runs alike where all results
are kept that the run leaves behind, and it leaves the probes as they are. -/
structure Replayed (Φ : α → Prop) (n : Resolution (Memos τ) α) (s : State (Memos τ))
    (run : Except DepthExceeded α × State (Memos τ)) : Prop where
  result : ∀ a, run.1 = .ok a → Φ a
  clean : run.2.probes.Clean
  kept : s.probes.KeptBy run.2.probes
  again : ∀ later, run.2.probes.KeptBy later →
    n (s.withProbes later) = (run.1, run.2.withProbes later)

def Repeats (Φ : α → Prop) (m n : Resolution (Memos τ) α) : Prop :=
  ∀ s, s.probes.Clean → Replayed Φ n s (m s)

theorem Repeats.bind {Φ : α → Prop} {Ψ : β → Prop} {m n : Resolution (Memos τ) α}
    {f g : α → Resolution (Memos τ) β} (hm : Repeats Φ m n)
    (hf : ∀ a, Φ a → Repeats Ψ (f a) (g a)) : Repeats Ψ (m >>= f) (n >>= g) := by
  intro s hs
  have hfirst := hm s hs
  rcases hrun : m s with ⟨result, t⟩
  rw [hrun] at hfirst
  cases result with
  | error e =>
    rw [bind_of_error hrun]
    exact ⟨fun b hb => by simp at hb, hfirst.clean, hfirst.kept,
      fun later hlater => bind_of_error (hfirst.again later hlater) g⟩
  | ok a =>
    rw [bind_of_ok hrun]
    have hsecond := hf a (hfirst.result a rfl) t hfirst.clean
    refine ⟨hsecond.result, hsecond.clean, hfirst.kept.trans hsecond.kept,
      fun later hlater => ?_⟩
    rw [bind_of_ok (hfirst.again later (hsecond.kept.trans hlater)) g]
    exact hsecond.again later hlater

/-- A step that does not touch the probes. -/
theorem repeats_step {Φ : α → Prop} {m : Resolution (Memos τ) α}
    (hprobes : ∀ s, (m s).2.probes = s.probes)
    (hagain : ∀ s later, m (s.withProbes later) = ((m s).1, (m s).2.withProbes later))
    (hresult : ∀ s a, (m s).1 = .ok a → Φ a) : Repeats Φ m m := by
  intro s hs
  refine ⟨hresult s, ?_, ?_, fun later _ => hagain s later⟩
  · rw [hprobes]
    exact hs
  · rw [hprobes]
    exact .refl s.probes

/-- The second call of a memoized probe is answered from its cache. -/
theorem repeats_call (hS : S.Memoizes memoized inner)
    (hinner : ∀ probe, memoized probe → Memos.Discreet (inner probe))
    (hagain : (S.withInvoke invoke).Memoizes memoized inner') (cause : Cause) {probe : Probe}
    (hprobe : memoized probe) (args : Record) :
    Repeats (Value.ProbesIn memoized) (call S cause probe args)
      (call (S.withInvoke invoke) cause probe args) := by
  intro s hs
  have hcall : Memos.Discreet (S.invoke probe) := by
    rw [hS probe hprobe]
    exact (hinner probe hprobe).call probe
  have hkept : (S.invoke probe args s.probes).2.kept probe (Cache.key args) =
      some (S.invoke probe args s.probes).1 := by
    rw [hS probe hprobe]
    exact Memos.kept_call
  refine ⟨fun v hv => ?_, hcall.clean args _ hs, hcall.keeps args _, fun later hlater => ?_⟩
  · obtain rfl : (S.invoke probe args s.probes).1 = v := Except.ok.inj hv
    exact (hcall.probeFree args _ hs).probesIn memoized
  · have hsame : (S.withInvoke invoke).invoke probe args later =
        ((S.invoke probe args s.probes).1, later) := by
      rw [hagain probe hprobe]
      exact Memos.call_of_kept (hlater probe _ _ hkept)
    unfold call
    simp only [State.withProbes, hsame]

theorem repeats_congruence :
    Congruence fun _ Φ (m n : Resolution (Memos τ) _) => Repeats Φ m n where
  pure ha := repeats_step (fun _ => rfl) (fun _ _ => rfl) fun _ _ hb => Except.ok.inj hb ▸ ha
  bind := Repeats.bind
  note _ _ := repeats_step (fun _ => rfl) (fun _ _ => rfl) fun _ _ _ => trivial
  count _ _ := repeats_step (fun _ => rfl) (fun _ _ => rfl) fun _ _ _ => trivial

theorem repeats_aligned (hS : S.Memoizes memoized inner)
    (hinner : ∀ probe, memoized probe → Memos.Discreet (inner probe))
    (hagain : (S.withInvoke invoke).Memoizes memoized inner')
    (hstore : S.root.ProbesIn memoized) :
    Aligned S (S.withInvoke invoke) (Value.ProbesIn memoized) (Value.ProbesIn memoized)
      fun _ Φ (m n : Resolution (Memos τ) _) => Repeats Φ m n :=
  repeats_congruence.aligned (closed_probesIn memoized) rfl hstore rfl
    (repeats_step (fun _ => rfl) (fun _ _ => rfl) fun _ _ _ => trivial)
    (fun _ _ => repeats_step (fun _ => rfl) (fun _ _ => rfl) fun _ _ _ => trivial)
    (fun _ _ => repeats_step (fun _ => rfl) (fun _ _ => rfl) fun _ _ _ => trivial)
    (fun cause _ args hraw _ => repeats_call hS hinner hagain cause (hraw _ .self) args)

theorem repeats_lockstep (hS : S.Memoizes memoized inner)
    (hinner : ∀ probe, memoized probe → Memos.Discreet (inner probe))
    (hagain : (S.withInvoke invoke).Memoizes memoized inner')
    (hstore : S.root.ProbesIn memoized) :
    Lockstep S (S.withInvoke invoke) (Value.ProbesIn memoized) (Value.ProbesIn memoized)
      fun _ Φ (m n : Resolution (Memos τ) _) => Repeats Φ m n where
  aligned := repeats_aligned hS hinner hagain hstore
  limit := rfl
  refuse := repeats_step (fun _ => rfl) (fun _ _ => rfl) fun _ _ ha => by simp [refuse] at ha
  nested m n hm s hs := by
    obtain ⟨hresult, hclean, hkept, hagain'⟩ := hm s.enter hs
    refine ⟨hresult, hclean, hkept, fun later hlater => ?_⟩
    show nested n (s.withProbes later) = ((m s.enter).1, ((m s.enter).2.withProbes later).leave)
    exact nested_of_eq (hagain' later hlater)
  finish := repeats_step (fun _ => rfl) (fun _ _ => rfl) fun _ _ _ => trivial

/-- If all probes of the template and the store are memoized, and what their inner probes return
holds no probes, then resolving the template once more comes to the same: the same result or
failure, the same counters and the same steps. It leaves the caches and the inner probes as they
are, and it is the same run even if other inner probes are put in their place, so it calls none
of them. The inner probes are machines with any states, which they may share, and other probes
may do anything. -/
theorem resolveTemplate_repeats (S : Setting (Memos τ)) (memoized : Probe → Prop)
    (inner inner' : Probe → Record → Memos τ → Value × Memos τ)
    (invoke : Probe → Record → Memos τ → Value × Memos τ) (template : Record) (probes : Memos τ)
    (hS : S.Memoizes memoized inner)
    (hinner : ∀ probe, memoized probe → Memos.Discreet (inner probe))
    (hstore : S.root.ProbesIn memoized)
    (htemplate : ∀ property ∈ template, property.2.ProbesIn memoized)
    (hclean : probes.Clean)
    (hagain : (S.withInvoke invoke).Memoizes memoized inner') :
    resolveTemplate (S.withInvoke invoke) template
        { probes := (resolveTemplate S template { probes }).2.probes } =
      resolveTemplate S template { probes } :=
  ((repeats_lockstep hS hinner hagain hstore).resolveTemplate template htemplate { probes }
    hclean).again _ (.refl _)

def counter : Record → Memos Nat → Value × Memos Nat :=
  Memos.ownState fun _ calls => (.number (.int (calls + 1)), calls + 1)

theorem discreet_counter : Memos.Discreet counter :=
  Memos.discreet_ownState fun _ _ => Value.probeFree_number _

/-- The first probe is a memoized counter, the second one is memoized around the first one. All
other probes return an address. -/
def layeredInner (probe : Probe) : Record → Memos Nat → Value × Memos Nat :=
  if probe = ⟨0⟩ then counter else Memos.call counter ⟨0⟩

def layeredSetting : Setting (Memos Nat) where
  store := Store.ofRecord [
    ("@a", .object [("x", .string "deep")]),
    ("@svc", .object [("next", .probe ⟨0⟩), ("again", .probe ⟨1⟩)])]
  options := {}
  invoke := fun probe =>
    if probe.handle < 2 then Memos.call (layeredInner probe) probe
    else fun _ s => (.string "@a.x", s)

def idleInvoke (probe : Probe) : Record → Memos Nat → Value × Memos Nat :=
  Memos.call (fun _ s => (.null, s)) probe

def layeredTemplate : Record := [
  ("v", .object [("default", .probe ⟨0⟩), ("@svc::again[k:@a.x]:2", .string "@value")])]

theorem resolveTemplate_repeats_layered :
    (resolveTemplate layeredSetting layeredTemplate { probes := ⟨fun _ => [], 0⟩ }).1.isOk = true ∧
    (resolveTemplate layeredSetting layeredTemplate
      { probes := ⟨fun _ => [], 0⟩ }).2.probes.inner = 2 ∧
    resolveTemplate (layeredSetting.withInvoke idleInvoke) layeredTemplate
        { probes := (resolveTemplate layeredSetting layeredTemplate
          { probes := ⟨fun _ => [], 0⟩ }).2.probes } =
      resolveTemplate layeredSetting layeredTemplate { probes := ⟨fun _ => [], 0⟩ } := by
  refine ⟨by decide +kernel, by decide +kernel, ?_⟩
  refine resolveTemplate_repeats layeredSetting (fun probe => probe.handle < 2) layeredInner
    (fun _ _ s => (.null, s)) idleInvoke layeredTemplate ⟨fun _ => [], 0⟩ (fun probe hprobe => ?_)
    (fun probe _ => ?_) ?_ ?_ (fun _ _ _ hv => by simp [Memos.kept, Entries.get?] at hv)
    fun _ _ => rfl
  · exact if_pos hprobe
  · unfold layeredInner
    split
    · exact discreet_counter
    · exact discreet_counter.call ⟨0⟩
  · show (Value.object [
      ("@a", .object [("x", .string "deep")]),
      ("@svc", .object [("next", .probe ⟨0⟩), ("again", .probe ⟨1⟩)])]).ProbesIn _
    simp
  · simp [layeredTemplate]

end Resolution
end RuleTemplate
