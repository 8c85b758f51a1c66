import RuleTemplate.Proofs.Resolution.Compositional

/-!
An address in a template may be replaced by what stands there. The raw value is then resolved one
level higher up, and everything around it as before, so a success stays the same success, with the
same calls of probes; the way back needs one level more. Both directions come from one relation,
that the second resolution does again what the first one does, which more levels and steps that are
only noted do not disturb.
-/
namespace RuleTemplate

def Setting.rawAt {σ : Type} (S : Setting σ) (address : String) : Value :=
  (Address.lookup S.root address).getD .null

/-- A place in a value that only lists and plain objects lead to. -/
inductive Place
  | here
  | item (before : List Value) (inner : Place) (after : List Value)
  | member (before : Record) (key : String) (inner : Place) (after : Record)
      (plain : isRule (before ++ (key, .null) :: after) = false)

def Place.fill (v : Value) : Place → Value
  | here => v
  | item before inner after => .array (before ++ inner.fill v :: after)
  | member before key inner after _ => .object (before ++ (key, inner.fill v) :: after)

namespace State

structure SameCalls {σ : Type} (s t : State σ) : Prop where
  probes : s.probes = t.probes
  calls : s.journal.filterMap Event.call? = t.journal.filterMap Event.call?

theorem SameCalls.symm {σ : Type} {s t : State σ} (h : s.SameCalls t) : t.SameCalls s :=
  ⟨h.probes.symm, h.calls.symm⟩

theorem SameCalls.trans {σ : Type} {s t u : State σ} (h : s.SameCalls t) (h' : t.SameCalls u) :
    s.SameCalls u :=
  ⟨h.probes.trans h'.probes, h.calls.trans h'.calls⟩

end State

namespace Resolution

variable {σ α β : Type}

/-- Whenever the first resolution succeeds, so does the second one, with the same result and the
same calls, if the same was called before. -/
def Reproduces (Φ : α → Prop) (m n : Resolution σ α) : Prop :=
  ∀ s t, s.SameCalls t → ∀ a s', m s = (.ok a, s') →
    Φ a ∧ ∃ t', n t = (.ok a, t') ∧ s'.SameCalls t'

def Quiet (m : Resolution σ Unit) : Prop := ∀ s, ∃ t, m s = (.ok (), t) ∧ s.SameCalls t

theorem quiet_note {event : Event} (h : event.call? = none) :
    Quiet (note event : Resolution σ Unit) :=
  fun s => ⟨s.note event, rfl, rfl, by simp [State.note, h]⟩

theorem quiet_count (change : Metrics → Metrics) : Quiet (count change : Resolution σ Unit) :=
  fun _ => ⟨_, rfl, rfl, rfl⟩

theorem quiet_noteLookup (address : String) (found : Bool) :
    Quiet (noteLookup address found : Resolution σ Unit) :=
  fun _ => ⟨_, rfl, rfl, rfl⟩

namespace Reproduces

theorem bind {Φ : α → Prop} {Ψ : β → Prop} {m n : Resolution σ α} {f g : α → Resolution σ β}
    (hm : Reproduces Φ m n) (hf : ∀ a, Φ a → Reproduces Ψ (f a) (g a)) :
    Reproduces Ψ (m >>= f) (n >>= g) := by
  intro s t hst b s' hrun
  obtain ⟨a, u, hfirst, hsecond⟩ := bind_eq_ok hrun
  obtain ⟨ha, u', hfirst', huu'⟩ := hm s t hst a u hfirst
  rw [bind_of_ok hfirst']
  exact hf a ha u u' huu' b s' hsecond

/-- A quiet step of the first resolution needs no counterpart. -/
theorem skip {Φ : α → Prop} {step : Resolution σ Unit} (hstep : Quiet step)
    {m n : Resolution σ α} (h : Reproduces Φ m n) : Reproduces Φ (step >>= fun _ => m) n := by
  intro s t hst a s' hrun
  obtain ⟨u, hquiet, hsu⟩ := hstep s
  rw [bind_of_ok hquiet] at hrun
  exact h u t (hsu.symm.trans hst) a s' hrun

/-- The second resolution may take quiet steps of its own. -/
theorem delay {Φ : α → Prop} {step : Resolution σ Unit} (hstep : Quiet step)
    {m n : Resolution σ α} (h : Reproduces Φ m n) : Reproduces Φ m (step >>= fun _ => n) := by
  intro s t hst a s' hrun
  obtain ⟨u, hquiet, htu⟩ := hstep t
  rw [bind_of_ok hquiet]
  exact h s u (hst.trans htu) a s' hrun

/-- The first resolution may run one level deeper than the second one. -/
theorem raise {Φ : α → Prop} {m n : Resolution σ α} (h : Reproduces Φ m n) :
    Reproduces Φ (nested m) n := by
  intro s t hst a s' hrun
  obtain ⟨u, hinner, rfl⟩ := nested_eq hrun
  have henter : s.enter.SameCalls t := ⟨hst.probes, hst.calls⟩
  obtain ⟨ha, t', hrun', hut'⟩ := h s.enter t henter a u hinner
  exact ⟨ha, t', hrun', hut'.probes, hut'.calls⟩

/-- The second resolution may run one level deeper than the first one. -/
theorem lower {Φ : α → Prop} {m n : Resolution σ α} (h : Reproduces Φ m n) :
    Reproduces Φ m (nested n) := by
  intro s t hst a s' hrun
  have henter : s.SameCalls t.enter := ⟨hst.probes, hst.calls⟩
  obtain ⟨ha, u, hinner, hs'u⟩ := h s t.enter henter a s' hrun
  exact ⟨ha, u.leave, nested_of_eq hinner, hs'u.probes, hs'u.calls⟩

theorem trans {Φ Ψ : α → Prop} {m n o : Resolution σ α} (h : Reproduces Φ m n)
    (h' : Reproduces Ψ n o) : Reproduces Ψ m o := by
  intro s t hst a s' hrun
  obtain ⟨-, u, hmiddle, hs'u⟩ := h s s ⟨rfl, rfl⟩ a s' hrun
  obtain ⟨ha, t', hlast, hut'⟩ := h' s t hst a u hmiddle
  exact ⟨ha, t', hlast, hs'u.trans hut'⟩

end Reproduces

theorem reproduces_pure {Φ : α → Prop} {a : α} (ha : Φ a) :
    Reproduces Φ (pure a : Resolution σ α) (pure a) := by
  intro s t hst b s' hrun
  rw [pure_apply, Prod.mk.injEq, Except.ok.injEq] at hrun
  obtain ⟨rfl, rfl⟩ := hrun
  exact ⟨ha, t, rfl, hst⟩

theorem Quiet.reproduces {m n : Resolution σ Unit} (hm : Quiet m) (hn : Quiet n) :
    Reproduces (fun _ => True) m n := by
  have hpure : Reproduces (fun _ => True) (pure () : Resolution σ Unit) (pure ()) :=
    reproduces_pure trivial
  have hboth := (hpure.delay hn).skip hm
  simpa only [bind_pure_unit] using hboth

/-- Nothing has to be done again of what is refused. -/
theorem reproduces_refuse {Φ : α → Prop} (limit : Nat) (n : Resolution σ α) :
    Reproduces Φ (refuse limit) n := by
  intro s t _ a s' hrun
  simp [refuse] at hrun

/-- Where the limit is another one, a probe is called alike. -/
theorem reproduces_call (S : Setting σ) (limit : Nat) (cause : Cause) (probe : Probe)
    (args : Record) : Reproduces (fun _ => True) (call S cause probe args)
      (call (S.withLimit limit) cause probe args) := by
  intro s t hst a s' hrun
  have hcalls : ((probe, args) :: s.journal.filterMap Event.call?) =
      (probe, args) :: t.journal.filterMap Event.call? := by rw [hst.calls]
  simp only [call, Prod.mk.injEq, Except.ok.injEq] at hrun
  obtain ⟨rfl, rfl⟩ := hrun
  refine ⟨trivial, (call (S.withLimit limit) cause probe args t).2, ?_, ?_, hcalls⟩
  · simp only [call, Setting.withLimit, hst.probes]
  · simp only [call, Setting.withLimit, hst.probes]

theorem reproduces_congruence :
    Congruence fun _ Φ (m n : Resolution σ _) => Reproduces Φ m n where
  pure := reproduces_pure
  bind := Reproduces.bind
  note event hremark := by
    have hquiet : Quiet (note event : Resolution σ Unit) :=
      quiet_note (by cases event <;> simp_all [Event.isRemark, Event.call?])
    exact hquiet.reproduces hquiet
  count change _ := (quiet_count change).reproduces (quiet_count change)

section Limit

variable (S : Setting σ) (limit : Nat)

theorem reproduces_aligned :
    Aligned S (S.withLimit limit) (fun _ => True) (fun _ => True)
      fun _ Φ (m n : Resolution σ _) => Reproduces Φ m n :=
  reproduces_congruence.aligned closed_trivial rfl trivial rfl
    ((quiet_count _).reproduces (quiet_count _))
    (fun event hcue => by
      have hquiet : Quiet (note event : Resolution σ Unit) :=
        quiet_note (by cases event <;> simp_all [Event.isCue, Event.call?])
      exact hquiet.reproduces hquiet)
    (fun address found =>
      (quiet_noteLookup address found).reproduces (quiet_noteLookup address found))
    (fun cause probe args _ _ => reproduces_call S limit cause probe args)

/-- More levels do not disturb a success. The induction is on the levels of the run that succeeds;
those of the other run go down beside them and last as long. -/
theorem reproduces_descendWithin {n k : Nat} (hle : n ≤ k) (v : Value) :
    Reproduces (fun _ => True) (descendWithin S n v) (descendWithin (S.withLimit limit) k v) := by
  induction n generalizing k v with
  | zero => exact reproduces_refuse _ _
  | succ n ih =>
    obtain ⟨k, rfl⟩ : ∃ j, k = j + 1 := ⟨k - 1, by omega⟩
    have hwalk : Reproduces (fun _ => True) (resolveWithin S n v)
        (resolveWithin (S.withLimit limit) k v) := by
      rw [resolveWithin_eq, resolveWithin_eq]
      exact ((reproduces_aligned S limit).level fun w _ => ih (by omega) w).walk v trivial
    exact hwalk.raise.lower

theorem reproduces_resolveWithin {n k : Nat} (hle : n ≤ k) (v : Value) :
    Reproduces (fun _ => True) (resolveWithin S n v) (resolveWithin (S.withLimit limit) k v) := by
  rw [resolveWithin_eq, resolveWithin_eq]
  have hlevel := (reproduces_aligned S limit).level
    fun w _ => reproduces_descendWithin S limit hle w
  exact hlevel.walk v trivial

/-- What is done again of the value at a place is done again of the whole: what stands around the
place is resolved as before. The induction is on the place. -/
theorem reproduces_fill {n k : Nat} (hle : n ≤ k) {v w : Value}
    (h : Reproduces (fun _ => True) (resolveWithin S n v) (resolveWithin (S.withLimit limit) k w))
    (place : Place) :
    Reproduces (fun _ => True) (resolveWithin S n (place.fill v))
      (resolveWithin (S.withLimit limit) k (place.fill w)) := by
  have hcongr := reproduces_congruence (σ := σ)
  induction place with
  | here => exact h
  | item before inner after ih =>
    rw [resolveWithin_eq, resolveWithin_eq] at ih ⊢
    have hitems := hcongr.mapM_around (fun item => ?_) ih before after
    · simp only [Place.fill, walk, walkItems_eq_mapM]
      exact hcongr.bind hcongr.visit fun _ _ => hcongr.bind hitems fun _ _ => hcongr.pure trivial
    · have hitem := reproduces_resolveWithin S limit hle item
      rwa [resolveWithin_eq, resolveWithin_eq] at hitem
  | member before key inner after plain ih =>
    -- Whether the object is a rule is decided by its keys, not by what is put in.
    have hplain (u : Value) : isRule (before ++ (key, u) :: after) = false := by
      rw [← plain]
      exact isRule_eq_of_keys_eq (by simp [Entries.keys])
    rw [resolveWithin_eq, resolveWithin_eq] at ih ⊢
    have hmembers := hcongr.mapM_around
      (f := fun member : String × Value => (member.1, ·) <$> walk S (descendWithin S n) member.2)
      (g := fun member => (member.1, ·) <$>
        walk (S.withLimit limit) (descendWithin (S.withLimit limit) k) member.2)
      (x := (key, inner.fill v)) (y := (key, inner.fill w)) (fun member => ?_)
      (hcongr.map ih fun _ _ => trivial) before after
    · simp only [Place.fill, walk, hplain, walkMembers_eq_mapM, Bool.false_eq_true, if_false]
      exact hcongr.bind hcongr.visit fun _ _ =>
        hcongr.bind hmembers fun _ _ => hcongr.pure trivial
    · have hmember := reproduces_resolveWithin S limit hle member.2
      rw [resolveWithin_eq, resolveWithin_eq] at hmember
      exact hcongr.map hmember fun _ _ => trivial

variable {address : String} (hsigil : hasSigil address = true)
include hsigil

/-- Without the address, the raw value is resolved on the level of the address. -/
theorem reproduces_inlined {n k : Nat} (hle : n ≤ k) :
    Reproduces (fun _ => True) (resolveWithin S n (.string address))
      (resolveWithin (S.withLimit limit) k (S.rawAt address)) := by
  rw [resolveWithin_eq, Setting.rawAt]
  cases hlookup : Address.lookup S.root address with
  | none =>
    rw [walk_of_lookup_none hsigil hlookup, resolveWithin_eq]
    refine Reproduces.skip (quiet_count _) (Reproduces.skip (quiet_noteLookup _ _) ?_)
    exact (reproduces_pure trivial).delay (quiet_count _)
  | some v =>
    rw [walk_of_lookup hsigil hlookup]
    refine Reproduces.skip (quiet_count _) (Reproduces.skip (quiet_noteLookup _ _) ?_)
    cases n with
    -- Without a level left the address was refused, and there is no success to reproduce.
    | zero => exact reproduces_refuse _ _
    | succ n => exact (reproduces_resolveWithin S limit (by omega) v).raise

/-- With the address, the raw value is resolved one level deeper. -/
theorem inlined_reproduces {n k : Nat} (hle : n ≤ k) :
    Reproduces (fun _ => True) (resolveWithin S n (S.rawAt address))
      (resolveWithin (S.withLimit limit) (k + 1) (.string address)) := by
  rw [resolveWithin_eq (S.withLimit limit), Setting.rawAt]
  cases hlookup : Address.lookup S.root address with
  | none =>
    have hsame : Address.lookup (S.withLimit limit).root address = none := hlookup
    rw [walk_of_lookup_none hsigil hsame, resolveWithin_eq]
    refine Reproduces.delay (quiet_count _) (Reproduces.delay (quiet_noteLookup _ _) ?_)
    exact Reproduces.skip (quiet_count _) (reproduces_pure trivial)
  | some v =>
    have hsame : Address.lookup (S.withLimit limit).root address = some v := hlookup
    rw [walk_of_lookup hsigil hsame]
    refine Reproduces.delay (quiet_count _) (Reproduces.delay (quiet_noteLookup _ _) ?_)
    exact (reproduces_resolveWithin S limit hle v).lower

omit hsigil

/-- A property resolves like its value: a probe that is copied is a literal. -/
theorem reproduces_property (key : String) (v : Value) :
    Reproduces (fun _ => True) (resolveProperty S key v) (resolveValue S v) ∧
      Reproduces (fun _ => True) (resolveValue S v) (resolveProperty S key v) := by
  have hquiet : Quiet (note (.property key) : Resolution σ Unit) := quiet_note rfl
  unfold resolveProperty
  cases hprobe : v.isProbe with
  | true =>
    have hliteral : v.isLiteral = true := by
      cases v with
      | probe p => rfl
      | _ => simp [Value.isProbe] at hprobe
    have hvalue : resolveValue S v = visit >>= fun _ => pure v := by
      rw [resolveValue, resolveWithin_eq, walk_of_isLiteral hliteral]
    have hpure : Reproduces (fun _ => True) (pure v : Resolution σ Value) (pure v) :=
      reproduces_pure trivial
    rw [hvalue, if_pos rfl]
    exact ⟨(hpure.delay (quiet_count _)).skip hquiet, (hpure.delay hquiet).skip (quiet_count _)⟩
  | false =>
    have hsame : Reproduces (fun _ => True) (resolveValue S v) (resolveValue S v) :=
      reproduces_resolveWithin S S.options.maxDepth (Nat.le_refl _) v
    simp only [Bool.false_eq_true, if_false]
    exact ⟨hsame.skip hquiet, hsame.delay hquiet⟩

/-- What is done again of the value of one property is done again of the template, where there are
at least as many levels. -/
theorem reproduces_template (hle : S.options.maxDepth ≤ limit) {v w : Value}
    (h : Reproduces (fun _ => True) (resolveValue S v) (resolveValue (S.withLimit limit) w))
    (before after : Record) (key : String) :
    Reproduces (fun _ => True) (resolveTemplate S (before ++ (key, v) :: after))
      (resolveTemplate (S.withLimit limit) (before ++ (key, w) :: after)) := by
  have hcongr := reproduces_congruence (σ := σ)
  have hentry (key : String) {v w : Value} (h : Reproduces (fun _ => True) (resolveValue S v)
      (resolveValue (S.withLimit limit) w)) : Reproduces (fun _ => True) (resolveEntry S (key, v))
      (resolveEntry (S.withLimit limit) (key, w)) := by
    have hproperty := ((reproduces_property S key v).1.trans h).trans
      (reproduces_property (S.withLimit limit) key w).2
    exact hcongr.map hproperty fun _ _ => trivial
  have hfinish : Quiet (update fun s : State σ => s.note (.finished s.metrics)) :=
    fun _ => ⟨_, rfl, rfl, rfl⟩
  have hother (v : Value) : Reproduces (fun _ => True) (resolveValue S v)
      (resolveValue (S.withLimit limit) v) := reproduces_resolveWithin S limit hle v
  have hentries := hcongr.mapM_around (f := resolveEntry S)
    (g := resolveEntry (S.withLimit limit))
    (fun property => hentry property.1 (hother property.2)) (hentry key h) before after
  unfold resolveTemplate
  rw [resolveProperties_eq_mapM, resolveProperties_eq_mapM]
  exact hcongr.bind hentries fun _ _ =>
    hcongr.bind (hfinish.reproduces hfinish) fun _ _ => hcongr.pure trivial

end Limit

/-- An address anywhere in the lists and plain objects of a template may be replaced by the raw
value that stands there. If the template resolves, then it comes to the same without the address;
if it resolves without the address, then with one more level it comes to the same with it. The
probes, whatever they are, are called alike and in the same order. -/
theorem resolveTemplate_inlined (S : Setting σ) {address : String}
    (hsigil : hasSigil address = true) (before after : Record) (key : String) (place : Place)
    (probes : σ) (out : Record) (final : State σ) :
    (resolveTemplate S (before ++ (key, place.fill (.string address)) :: after) { probes } =
        (.ok out, final) →
      ∃ final', resolveTemplate S (before ++ (key, place.fill (S.rawAt address)) :: after)
        { probes } = (.ok out, final') ∧ final.SameCalls final') ∧
    (resolveTemplate S (before ++ (key, place.fill (S.rawAt address)) :: after) { probes } =
        (.ok out, final) →
      ∃ final', resolveTemplate (S.withLimit (S.options.maxDepth + 1))
        (before ++ (key, place.fill (.string address)) :: after) { probes } = (.ok out, final') ∧
          final.SameCalls final') := by
  have hstart : State.SameCalls { probes } { probes : State σ } := ⟨rfl, rfl⟩
  constructor
  · intro hrun
    have hvalue : Reproduces (fun _ => True) (resolveValue S (place.fill (.string address)))
        (resolveValue S (place.fill (S.rawAt address))) :=
      reproduces_fill S S.options.maxDepth (Nat.le_refl _)
        (reproduces_inlined S S.options.maxDepth hsigil (Nat.le_refl S.options.maxDepth)) place
    have htemplate :=
      reproduces_template S S.options.maxDepth (Nat.le_refl _) hvalue before after key
    obtain ⟨-, hagain⟩ := htemplate _ _ hstart out final hrun
    exact hagain
  · intro hrun
    have hvalue : Reproduces (fun _ => True) (resolveValue S (place.fill (S.rawAt address)))
        (resolveValue (S.withLimit (S.options.maxDepth + 1)) (place.fill (.string address))) :=
      reproduces_fill S (S.options.maxDepth + 1) (Nat.le_succ _)
        (inlined_reproduces S (S.options.maxDepth + 1) hsigil (Nat.le_refl S.options.maxDepth))
        place
    have htemplate :=
      reproduces_template S (S.options.maxDepth + 1) (Nat.le_succ _) hvalue before after key
    obtain ⟨-, hagain⟩ := htemplate _ _ hstart out final hrun
    exact hagain

def firstLink : Place :=
  .member [("title", .string "plain")] "links" (.item [] .here [.string "@b.y"]) [] (by decide)

def callingRule : Value :=
  .object [("default", .probe ⟨0⟩), ("@svc::next[k:@b.y]:2", .string "second")]

def pageTemplate (link : Value) : Record :=
  [("handler", .probe ⟨0⟩)] ++ ("page", firstLink.fill link) :: [("count", callingRule)]

/-- The link leads to another address, so it needs two levels; without it one is enough. -/
theorem resolveTemplate_inlined_link : ∃ out final final' final'',
    resolveTemplate (countingSetting.withLimit 1) (pageTemplate (.string "@b.y")) { probes := 0 } =
      (.ok out, final) ∧
    (final.journal.filterMap Event.call?).length = 2 ∧
    resolveTemplate (countingSetting.withLimit 2) (pageTemplate (.string "@a.x")) { probes := 0 } =
      (.ok out, final') ∧ final.SameCalls final' ∧
    resolveTemplate (countingSetting.withLimit 2) (pageTemplate (.string "@b.y")) { probes := 0 } =
      (.ok out, final'') ∧ final'.SameCalls final'' := by
  have hcalls : ((resolveTemplate (countingSetting.withLimit 1) (pageTemplate (.string "@b.y"))
      { probes := 0 }).2.journal.filterMap Event.call?).length = 2 := by decide +kernel
  obtain ⟨out, hrun⟩ := exists_of_isOk
    (m := resolveTemplate (countingSetting.withLimit 1) (pageTemplate (.string "@b.y")))
    (s := { probes := 0 }) (by decide +kernel)
  have hinline (limit : Nat) := resolveTemplate_inlined (countingSetting.withLimit limit)
    (show hasSigil "@a.x" = true from rfl) [("handler", .probe ⟨0⟩)] [("count", callingRule)] "page"
    firstLink 0 out
  obtain ⟨final', hdeeper, hsame⟩ := (hinline 1 _).2 hrun
  obtain ⟨final'', hagain, hsame'⟩ := (hinline 2 _).1 hdeeper
  exact ⟨out, _, final', final'', hrun, hcalls, hdeeper, hsame, hagain, hsame'⟩

end Resolution
end RuleTemplate
