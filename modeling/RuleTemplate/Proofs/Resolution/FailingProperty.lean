import RuleTemplate.Proofs.Resolution.Recursion

/-!
Which property of a template a failure is about, and what it names. If what a probe returns is a
function of its arguments, a template fails where the first of its properties fails that fails
alone. The failure names the last address that was looked up, in that property or before it: so it
is the failure of the property alone, unless the property looks up no address. Then an address is
named that one of the properties before it looked up.
-/
namespace RuleTemplate

def Event.address? : Event → Option String
  | .lookedUp address _ => some address
  | _ => none

def lastLookup? (journal : List Event) : Option String := journal.findSome? Event.address?

theorem lastLookedUp_eq (journal : List Event) :
    lastLookedUp journal = (lastLookup? journal).getD "" := by
  induction journal with
  | nil => rfl
  | cons event earlier ih =>
    cases event with
    | lookedUp => rfl
    | _ => exact ih

theorem lastLookup?_cons_of_none {event : Event} (h : event.address? = none)
    (earlier : List Event) : lastLookup? (event :: earlier) = lastLookup? earlier := by
  simp [lastLookup?, h]

namespace Resolution

variable {σ α β ι : Type}

/-- The resolution is independent of what was resolved before, and so is the last address that it
looks up itself, if it looks up any. -/
structure Recalls (Φ : α → Prop) (m : Resolution σ α) : Prop where
  independent : Independent Φ m
  last : ∃ last : Option String, ∀ s,
    lastLookup? (m s).2.journal = last.or (lastLookup? s.journal)

theorem Recalls.bind {Φ : α → Prop} {Ψ : β → Prop} {m : Resolution σ α}
    {f : α → Resolution σ β} (hm : Recalls Φ m) (hf : ∀ a, Φ a → Recalls Ψ (f a)) :
    Recalls Ψ (m >>= f) := by
  refine ⟨hm.independent.bind fun a ha => (hf a ha).independent, ?_⟩
  obtain ⟨result, share, hamounts, hresult⟩ := hm.independent
  obtain ⟨last, hlast⟩ := hm.last
  cases result with
  | none =>
    refine ⟨last, fun s => ?_⟩
    obtain ⟨e, herror⟩ := hamounts.run_eq_error s
    rw [bind_of_error herror, hlast]
  | some a =>
    obtain ⟨last', hlast'⟩ := (hf a (hresult a rfl)).last
    refine ⟨last'.or last, fun s => ?_⟩
    rw [bind_of_ok (hamounts.run_eq s), hlast', hlast, Option.or_assoc]

/-- A step that looks up no address. -/
theorem recalls_step {Φ : α → Prop} {m : Resolution σ α} (hm : Independent Φ m)
    (hlast : ∀ s, lastLookup? (m s).2.journal = lastLookup? s.journal) : Recalls Φ m :=
  ⟨hm, none, hlast⟩

theorem recalls_note {event : Event} (h : event.address? = none) :
    Recalls (fun _ => True) (note event : Resolution σ Unit) :=
  recalls_step ⟨_, _, .note event, fun _ _ => trivial⟩ fun s => lastLookup?_cons_of_none h s.journal

theorem recalls_congruence : Congruence fun _ Φ (m _ : Resolution σ _) => Recalls Φ m where
  pure ha := recalls_step (independent_congruence.pure ha) fun _ => rfl
  bind := Recalls.bind
  note event hremark := recalls_note (by cases event <;> simp_all [Event.isRemark, Event.address?])
  count change htally := recalls_step (independent_congruence.count change htally) fun _ => rfl

theorem recalls_invariant {S : Setting σ} {answer : Probe → Record → Value}
    (hanswer : ∀ probe args probes, (S.invoke probe args probes).1 = answer probe args) :
    Invariant S (fun _ => True) (fun _ => True) fun _ Φ m => Recalls Φ m where
  aligned := recalls_congruence.aligned closed_trivial rfl trivial rfl
    (recalls_step ⟨_, _, .count Metrics.rule_counted, fun _ _ => trivial⟩ fun _ => rfl)
    (fun event hcue => recalls_note (by cases event <;> simp_all [Event.isCue, Event.address?]))
    (fun address found => ⟨⟨_, _, .noteLookup address found, fun _ _ => trivial⟩,
      some address, fun _ => rfl⟩)
    (fun _ probe args _ _ => recalls_step
      ⟨_, _, .call (hanswer probe args), fun _ _ => trivial⟩ fun _ => rfl)
  refuse := recalls_step (independent_invariant hanswer).refuse fun _ => rfl
  nested m hm := by
    obtain ⟨last, hlast⟩ := hm.last
    exact ⟨(independent_invariant hanswer).nested m hm.independent, last, fun s => hlast s.enter⟩
  finish := recalls_step (independent_invariant hanswer).finish fun _ => rfl

/-- A walk of a list fails at the first element that fails where the walk has come to it. -/
theorem exists_failing_of_mapM {f : ι → Resolution σ β} {xs : List ι} {s t : State σ}
    {e : DepthExceeded} (h : xs.mapM f s = (.error e, t)) : ∃ before x after out w,
      xs = before ++ x :: after ∧ before.mapM f s = (.ok out, w) ∧ f x w = (.error e, t) := by
  induction xs generalizing s with
  | nil => simp [pure_apply] at h
  | cons x rest ih =>
    rw [List.mapM_cons] at h
    rcases hfirst : f x s with ⟨result, u⟩
    cases result with
    | error e' =>
      rw [bind_of_error hfirst] at h
      obtain ⟨rfl, rfl⟩ : e' = e ∧ u = t := by simpa using h
      exact ⟨[], x, rest, [], s, rfl, rfl, hfirst⟩
    | ok b =>
      rw [bind_of_ok hfirst, bind_apply] at h
      rcases hrest : rest.mapM f u with ⟨result', v⟩
      cases result' with
      | ok bs => simp [hrest, pure_apply] at h
      | error e' =>
        rw [hrest] at h
        obtain ⟨rfl, rfl⟩ : e' = e ∧ v = t := by simpa using h
        obtain ⟨before, y, after, out, w, rfl, hbefore, hy⟩ := ih hrest
        refine ⟨x :: before, y, after, b :: out, w, rfl, ?_, hy⟩
        rw [List.mapM_cons, bind_of_ok hfirst, bind_of_ok hbefore]
        rfl

theorem resolveTemplate_of_mapM_ok {S : Setting σ} {template out : Record} {s t : State σ}
    (h : template.mapM (resolveEntry S) s = (.ok out, t)) :
    resolveTemplate S template s = (.ok out, t.note (.finished t.metrics)) := by
  rw [resolveTemplate, resolveProperties_eq_mapM]
  exact bind_of_ok h _

theorem resolveTemplate_of_mapM_error {S : Setting σ} {template : Record} {s t : State σ}
    {e : DepthExceeded} (h : template.mapM (resolveEntry S) s = (.error e, t)) :
    resolveTemplate S template s = (.error e, t) := by
  rw [resolveTemplate, resolveProperties_eq_mapM]
  exact bind_of_error h _

theorem mapM_of_resolveTemplate_error {S : Setting σ} {template : Record} {s t : State σ}
    {e : DepthExceeded} (h : resolveTemplate S template s = (.error e, t)) :
    template.mapM (resolveEntry S) s = (.error e, t) := by
  rcases hrun : template.mapM (resolveEntry S) s with ⟨result, u⟩
  cases result with
  | ok out => simp [resolveTemplate_of_mapM_ok hrun] at h
  | error e' =>
    obtain ⟨rfl, rfl⟩ : e' = e ∧ u = t := by simpa [resolveTemplate_of_mapM_error hrun] using h
    rfl

theorem resolveTemplate_singleton_of_error {S : Setting σ} {property : String × Value}
    {s t : State σ} {e : DepthExceeded} (h : resolveEntry S property s = (.error e, t)) :
    resolveTemplate S [property] s = (.error e, t) := by
  refine resolveTemplate_of_mapM_error ?_
  rw [List.mapM_cons]
  exact bind_of_error h _

/-- A failed run from the beginning names the limit and the last address that it looked up. -/
theorem eq_of_resolveTemplate_error {S : Setting σ} {template : Record} {probes : σ}
    {t : State σ} {e : DepthExceeded}
    (h : resolveTemplate S template { probes } = (.error e, t)) :
    e = ⟨S.options.maxDepth, (lastLookup? t.journal).getD ""⟩ := by
  have horderly := (orderly_invariant S).resolveTemplate template fun _ _ => trivial
  rw [← lastLookedUp_eq]
  exact (horderly { probes }).failure_eq rfl h

section Answers

variable {S : Setting σ} {answer : Probe → Record → Value}
  (hanswer : ∀ probe args probes, (S.invoke probe args probes).1 = answer probe args)
include hanswer

/-- A property that fails among others fails alone. The last address that it looks up is the same,
if it looks up any. -/
theorem exists_failure_alone {property : String × Value} {w t : State σ} {e : DepthExceeded}
    (h : resolveEntry S property w = (.error e, t)) (other : σ) : ∃ e' u,
      resolveTemplate S [property] { probes := other } = (.error e', u) ∧
      lastLookup? t.journal = (lastLookup? u.journal).or (lastLookup? w.journal) := by
  have hrecalls : Recalls (fun _ => True) (resolveEntry S property) :=
    (recalls_invariant hanswer).resolveEntry trivial
  obtain ⟨⟨result, share, hamounts, -⟩, last, hlast⟩ := hrecalls
  obtain rfl : none = result := by rw [← hamounts.result_eq, h]; rfl
  obtain ⟨e', halone⟩ := hamounts.run_eq_error { probes := other }
  refine ⟨e', _, resolveTemplate_singleton_of_error halone, ?_⟩
  have hfresh : lastLookup? (resolveEntry S property { probes := other }).2.journal = last :=
    (hlast { probes := other }).trans Option.or_none
  rw [hfresh, ← hlast, h]

end Answers

/-- Suppose that what a probe returns is a function of its arguments. Where a template fails, it
fails at the first property that fails alone: the properties before it resolve, together and each
alone, and it fails alone, whatever the states of the probes. Alone or in the template, the failure
names the limit. It names the last address that the property looks up, alone and in the template,
so the two failures are the same. But if the property looks up no address, the failure of the
template names the last address that the properties before it looked up, where that of the
property alone names none. -/
theorem failing_property (S : Setting σ) (answer : Probe → Record → Value)
    (hanswer : ∀ probe args probes, (S.invoke probe args probes).1 = answer probe args)
    {template : Record} {probes : σ} {e : DepthExceeded} {t : State σ}
    (hrun : resolveTemplate S template { probes } = (.error e, t)) :
    ∃ before key value after out w, template = before ++ (key, value) :: after ∧
      resolveTemplate S before { probes } = (.ok out, w) ∧
      (∀ property ∈ before, ∀ other,
        (resolveTemplate S [property] { probes := other }).1.isOk = true) ∧
      ∀ other, ∃ e' u, resolveTemplate S [(key, value)] { probes := other } = (.error e', u) ∧
        e' = ⟨S.options.maxDepth, (lastLookup? u.journal).getD ""⟩ ∧
        e = ⟨S.options.maxDepth,
          ((lastLookup? u.journal).or (lastLookup? w.journal)).getD ""⟩ ∧
        (e = e' ↔ (lastLookup? u.journal).isSome = true ∨ lastLookedUp w.journal = "") := by
  obtain ⟨before, ⟨key, value⟩, after, out, w, rfl, hbefore, hproperty⟩ :=
    exists_failing_of_mapM (mapM_of_resolveTemplate_error hrun)
  have hresolved := resolveTemplate_of_mapM_ok hbefore
  refine ⟨before, key, value, after, out, _, rfl, hresolved, fun property hmem other => ?_,
    fun other => ?_⟩
  · have hparts := (addsUp_template hanswer before (fun _ => other) probes).isOk_iff.mp
      (by rw [hresolved]; rfl)
    exact hparts _ (List.mem_map_of_mem hmem)
  · obtain ⟨e', u, halone, hlast⟩ := exists_failure_alone hanswer hproperty other
    have he := eq_of_resolveTemplate_error hrun
    have he' := eq_of_resolveTemplate_error halone
    have hnoted : lastLookup? (w.note (.finished w.metrics)).journal = lastLookup? w.journal :=
      rfl
    rw [hlast] at he
    refine ⟨e', u, halone, he', he, ?_⟩
    rw [lastLookedUp_eq, hnoted, he, he']
    cases lastLookup? u.journal <;> simp

def shallowSetting : Setting Unit where
  store := Store.ofRecord [("@user", .object [("name", .string "Ada"), ("nick", .string "A")])]
  options := { maxDepth := 1 }
  invoke := fun _ _ _ => (.null, ())

def nickTemplate : Record := [
  ("name", .string "@user.name"), ("nick", .object [("default", .string "@user.nick")])]

theorem failing_property_nick : ∃ t before key value after e' u,
    resolveTemplate shallowSetting nickTemplate { probes := () } =
      (.error ⟨1, "@user.nick"⟩, t) ∧
    nickTemplate = before ++ (key, value) :: after ∧
    resolveTemplate shallowSetting [(key, value)] { probes := () } = (.error e', u) ∧
    e' = ⟨1, (lastLookup? u.journal).getD ""⟩ := by
  obtain ⟨t, hrun⟩ : ∃ t, resolveTemplate shallowSetting nickTemplate { probes := () } =
      (.error ⟨1, "@user.nick"⟩, t) := ⟨_, rfl⟩
  obtain ⟨before, key, value, after, out, w, htemplate, -, -, halone⟩ :=
    failing_property shallowSetting (fun _ _ => .null) (fun _ _ _ => rfl) hrun
  obtain ⟨e', u, hproperty, he', -⟩ := halone ()
  exact ⟨t, before, key, value, after, e', u, hrun, htemplate, hproperty, he'⟩

def nestedTemplate : Record := [
  ("name", .string "@user.name"),
  ("v", .object [("default", .object [("default", .object [("default", .string "deep")])])])]

/-- The second property looks up no address. It fails alone, naming none, and in the template,
where it names the address that the first property has resolved. -/
theorem not_same_failure_of_nested : ∃ t u,
    (resolveTemplate shallowSetting [("name", .string "@user.name")]
      { probes := () }).1.isOk = true ∧
    resolveTemplate shallowSetting nestedTemplate { probes := () } =
      (.error ⟨1, "@user.name"⟩, t) ∧
    resolveTemplate shallowSetting (nestedTemplate.drop 1) { probes := () } =
      (.error ⟨1, ""⟩, u) :=
  ⟨_, _, by decide +kernel, rfl, rfl⟩

end Resolution
end RuleTemplate
