import RuleTemplate.Proofs.Resolution.DepthLimit
import RuleTemplate.Proofs.Resolution.Independence

/-!
A template, a list and a plain object resolve part by part. No part sees what another one
leaves behind: each comes to what it comes to alone, at the same depth, and the counters of
the whole are those of the parts taken together. So the order of the properties of a template
is all that their order decides.
-/
namespace RuleTemplate.Resolution

variable {σ α β γ ι : Type}

/-- The runs of the parts add up to the run of the whole: it succeeds if and only if they all
do, and returns what they return, put together. It ends at the depth where it began, and it
counts what they count and something of its own. -/
structure AddsUp (before : State σ) (own : Metrics) (whole : Except DepthExceeded α × State σ)
    (assemble : List β → α) (parts : List (Except DepthExceeded β × State σ)) : Prop where
  isOk_iff : whole.1.isOk = true ↔ ∀ part ∈ parts, part.1.isOk = true
  assembled : ∀ a, whole.1 = .ok a →
    ∃ results, a = assemble results ∧ parts.map Prod.fst = results.map .ok
  depth_eq : whole.2.depth = before.depth
  metrics_eq : ∀ a, whole.1 = .ok a →
    whole.2.metrics = before.metrics + own + Metrics.total (parts.map fun part => part.2.metrics)

namespace AddsUp

variable {before : State σ} {own : Metrics} {whole : Except DepthExceeded α × State σ}
  {assemble : List β → α} {parts : List (Except DepthExceeded β × State σ)}

theorem map {m : Resolution σ α} {s : State σ} (h : AddsUp before own (m s) assemble parts)
    (g : α → γ) : AddsUp before own ((g <$> m) s) (g ∘ assemble) parts := by
  rw [map_eq_pure_bind]
  cases hrun : m s with
  | mk result t =>
    rw [hrun] at h
    cases result with
    | error e =>
      rw [bind_of_error hrun]
      exact ⟨h.isOk_iff, fun c hc => by simp at hc, h.depth_eq, fun c hc => by simp at hc⟩
    | ok a =>
      rw [bind_of_ok hrun]
      refine ⟨h.isOk_iff, fun c hc => ?_, h.depth_eq, fun _ _ => h.metrics_eq a rfl⟩
      obtain ⟨results, rfl, hresults⟩ := h.assembled a rfl
      exact ⟨results, (Except.ok.inj hc).symm, hresults⟩

/-- What is counted before the parts begin is of the whole's own. -/
theorem count {s : State σ} (h : AddsUp before 0 whole assemble parts)
    (hdepth : before.depth = s.depth) (hmetrics : before.metrics = s.metrics + own) :
    AddsUp s own whole assemble parts where
  isOk_iff := h.isOk_iff
  assembled := h.assembled
  depth_eq := h.depth_eq.trans hdepth
  metrics_eq a ha := by rw [h.metrics_eq a ha, hmetrics, add_zero]

/-- Parts may be seen through what wraps their results. -/
theorem wrap {parts' : List (Except DepthExceeded γ × State σ)} {assemble' : List γ → α}
    {g : β → γ} (h : AddsUp before own whole assemble parts)
    (hresults : parts'.map Prod.fst = parts.map fun part => part.1.map g)
    (hmetrics : (parts'.map fun part => part.2.metrics) = parts.map fun part => part.2.metrics)
    (hassemble : ∀ results, assemble' (results.map g) = assemble results) :
    AddsUp before own whole assemble' parts' where
  isOk_iff := by
    have hmap (result : Except DepthExceeded β) : (result.map g).isOk = result.isOk := by
      cases result <;> rfl
    have hall : (∀ r ∈ parts'.map Prod.fst, r.isOk = true) ↔
        ∀ r ∈ parts.map fun part => part.1.map g, r.isOk = true := by rw [hresults]
    simp only [List.forall_mem_map, hmap] at hall
    rw [h.isOk_iff, hall]
  assembled a ha := by
    obtain ⟨results, rfl, hparts⟩ := h.assembled a ha
    refine ⟨results.map g, (hassemble results).symm, ?_⟩
    have hmapped := congrArg (List.map (Except.map g)) hparts
    simp only [List.map_map] at hmapped
    rw [hresults, List.map_map]
    exact hmapped
  depth_eq := h.depth_eq
  metrics_eq a ha := by rw [h.metrics_eq a ha, hmetrics]

/-- Where the first part fails, the whole fails. -/
theorem cons_error {s t : State σ} {e e' : DepthExceeded} {u : State σ}
    {rest : List (Except DepthExceeded β × State σ)} (hdepth : t.depth = s.depth) :
    AddsUp s own (.error e, t) assemble ((.error e', u) :: rest) where
  isOk_iff := by simp [Except.isOk, Except.toBool]
  assembled a ha := by simp at ha
  depth_eq := hdepth
  metrics_eq a ha := by simp at ha

/-- Where the first part succeeds, the rest adds up from the state that it leaves. -/
theorem cons_ok {s t u : State σ} {b : β} {m : Resolution σ (List β)}
    {rest : List (Except DepthExceeded β × State σ)} (hdepth : t.depth = s.depth)
    (hmetrics : t.metrics = s.metrics + u.metrics) (h : AddsUp t 0 (m t) id rest) :
    AddsUp s 0 (((b :: ·) <$> m) t) id ((.ok b, u) :: rest) where
  isOk_iff := by
    rw [(h.map (b :: ·)).isOk_iff]
    simp [Except.isOk, Except.toBool]
  assembled a ha := by
    obtain ⟨results, rfl, hresults⟩ := (h.map (b :: ·)).assembled a ha
    exact ⟨b :: results, rfl, by rw [List.map_cons, hresults, List.map_cons]⟩
  depth_eq := (h.map (b :: ·)).depth_eq.trans hdepth
  metrics_eq a ha := by
    rw [(h.map (b :: ·)).metrics_eq a ha, hmetrics]
    simp only [add_zero, List.map_cons, ← Metrics.sum_eq_total, List.sum_cons, add_assoc]

end AddsUp

/-- Resolutions that do not depend on each other, one after the other, add up. The induction
is on the parts; each one leaves the depth where the next one begins. -/
theorem addsUp_mapM {f : ι → Resolution σ β} (hf : ∀ x, Independent (fun _ => True) (f x))
    (others : ι → σ) (xs : List ι) (s : State σ) :
    AddsUp s 0 (xs.mapM f s) id
      (xs.map fun x => f x { depth := s.depth, probes := others x }) := by
  induction xs generalizing s with
  | nil =>
    refine ⟨by simp [pure_apply, Except.isOk, Except.toBool], fun a ha => ⟨[], ?_, rfl⟩, rfl,
      fun _ _ => ?_⟩
    · exact (Except.ok.inj ha).symm
    · simp only [List.map_nil, ← Metrics.sum_eq_total, List.sum_nil, add_zero]
      rfl
  | cons x rest ih =>
    obtain ⟨hresult, hdepth, hmetrics⟩ := (hf x).amounts (others x) s.depth
    have hsame := hresult s
    have hback := hdepth s
    have hshare := hmetrics s rfl
    rw [List.mapM_cons, List.map_cons]
    rcases hrun : f x s with ⟨result, t⟩
    rcases halone : f x { depth := s.depth, probes := others x } with ⟨result', u⟩
    rw [hrun] at hsame hback hshare
    rw [halone] at hsame hshare
    cases result with
    | error e =>
      rw [bind_of_error hrun]
      cases result' with
      -- By itself the part fails too, and the whole fails with it.
      | error e' => exact .cons_error hback
      | ok b' => simp [Except.toOption] at hsame
    | ok b =>
      rw [bind_of_ok hrun, ← map_eq_pure_bind]
      cases result' with
      | error e' => simp [Except.toOption] at hsame
      | ok b' =>
        obtain rfl : b = b' := Option.some.inj hsame
        have hrest := ih t
        rw [show t.depth = s.depth from hback] at hrest
        exact .cons_ok hback hshare hrest

theorem walkItems_eq_mapM (S : Setting σ) (d : Value → Resolution σ Value)
    (items : List Value) : walkItems S d items = items.mapM (walk S d) := by
  induction items with
  | nil => rfl
  | cons item rest ih => rw [walkItems, List.mapM_cons, ih]

theorem walkMembers_eq_mapM (S : Setting σ) (d : Value → Resolution σ Value)
    (members : Record) :
    walkMembers S d members = members.mapM fun member => (member.1, ·) <$> walk S d member.2 := by
  induction members with
  | nil => rfl
  | cons member rest ih =>
    obtain ⟨key, value⟩ := member
    rw [walkMembers, List.mapM_cons, ih, map_eq_pure_bind, bind_assoc]
    simp only [pure_bind]

def resolveEntry (S : Setting σ) (property : String × Value) : Resolution σ (String × Value) :=
  (property.1, ·) <$> resolveProperty S property.1 property.2

theorem Invariant.resolveEntry {S : Setting σ} {raw done : Value → Prop} {P : Property σ}
    (h : Invariant S raw done P) {property : String × Value} (hproperty : raw property.2) :
    P (fun r => done r.2) (Resolution.resolveEntry S property) := by
  refine h.aligned.map (n := resolveProperty S property.1 property.2) (Φ := done) ?_
    fun _ hv => hv
  refine h.aligned.remark (n := if property.2.isProbe then pure property.2 else
    Resolution.resolveValue S property.2) rfl ?_
  split
  · next hprobe =>
    refine h.aligned.pure (h.aligned.literal hproperty ?_)
    cases hvalue : property.2 <;> simp_all [Value.isProbe, Value.isLiteral]
  · exact h.resolveValue property.2 hproperty

theorem resolveProperties_eq_mapM (S : Setting σ) (template : Record) :
    resolveProperties S template = template.mapM (resolveEntry S) := by
  induction template with
  | nil => rfl
  | cons property rest ih =>
    obtain ⟨key, value⟩ := property
    rw [resolveProperties, List.mapM_cons, ih, resolveEntry, map_eq_pure_bind, bind_assoc]
    simp only [pure_bind]

/-- Besides resolving the properties, resolving a template only notes the counters. -/
theorem resolveTemplate_eq (S : Setting σ) (template : Record) (s : State σ) :
    (resolveTemplate S template s).1 = (template.mapM (resolveEntry S) s).1 ∧
    (resolveTemplate S template s).2.depth = (template.mapM (resolveEntry S) s).2.depth ∧
    (resolveTemplate S template s).2.metrics = (template.mapM (resolveEntry S) s).2.metrics := by
  rw [resolveTemplate, resolveProperties_eq_mapM]
  rcases hrun : template.mapM (resolveEntry S) s with ⟨result, t⟩
  cases result with
  | error e => rw [bind_of_error hrun]; exact ⟨rfl, rfl, rfl⟩
  | ok out => rw [bind_of_ok hrun]; exact ⟨rfl, rfl, rfl⟩

theorem resolveTemplate_singleton (S : Setting σ) (property : String × Value) (s : State σ) :
    (resolveTemplate S [property] s).1 = (resolveEntry S property s).1.map ([·]) ∧
    (resolveTemplate S [property] s).2.metrics = (resolveEntry S property s).2.metrics := by
  obtain ⟨hresult, -, hmetrics⟩ := resolveTemplate_eq S [property] s
  rw [hresult, hmetrics, List.mapM_cons]
  rcases hrun : resolveEntry S property s with ⟨result, t⟩
  cases result with
  | error e => rw [bind_of_error hrun]; exact ⟨rfl, rfl⟩
  | ok out => rw [bind_of_ok hrun]; exact ⟨rfl, rfl⟩

theorem fst_eq_of_resolveEntry {S : Setting σ} {property r : String × Value} {s : State σ}
    (h : (resolveEntry S property s).1 = .ok r) : r.1 = property.1 := by
  have hrun : resolveEntry S property s = (.ok r, (resolveEntry S property s).2) :=
    Prod.ext h rfl
  rw [resolveEntry, map_eq_pure_bind] at hrun
  obtain ⟨v, t, -, hpure⟩ := bind_eq_ok hrun
  rw [pure_apply, Prod.mk.injEq, Except.ok.injEq] at hpure
  rw [← hpure.1]

/-- Results one by one, under the same keys, are results key by key. -/
theorem keys_and_get?_of_map_eq {run : String × Value → Except DepthExceeded (String × Value)}
    (hrun : ∀ property r, run property = .ok r → r.1 = property.1) {template out : Record}
    (h : template.map run = out.map .ok) :
    out.keys = template.keys ∧ ∀ key value, template.get? key = some value →
      ∃ r, out.get? key = some r ∧ run (key, value) = .ok (key, r) := by
  induction template generalizing out with
  | nil =>
    rw [List.map_nil, List.nil_eq, List.map_eq_nil_iff] at h
    exact ⟨by rw [h], fun key value hget => by simp [Entries.get?] at hget⟩
  | cons property rest ih =>
    obtain ⟨k, v⟩ := property
    cases out with
    | nil => simp at h
    | cons r results =>
      rw [List.map_cons, List.map_cons, List.cons.injEq] at h
      obtain ⟨hfirst, hrest⟩ := h
      obtain ⟨k', w⟩ := r
      obtain rfl : k' = k := hrun _ _ hfirst
      obtain ⟨hkeys, hget⟩ := ih hrest
      refine ⟨congrArg (k' :: ·) hkeys, fun key value hvalue => ?_⟩
      rw [Entries.get?_cons] at hvalue ⊢
      by_cases hkey : key = k'
      · rw [if_pos hkey, Option.some.injEq] at hvalue
        rw [if_pos hkey, hkey, ← hvalue]
        exact ⟨w, rfl, hfirst⟩
      · rw [if_neg hkey] at hvalue ⊢
        exact hget key value hvalue

section Parts

variable {S : Setting σ} {answer : Probe → Record → Value}
  (hanswer : ∀ probe args probes, (S.invoke probe args probes).1 = answer probe args)
include hanswer

theorem independent_resolveWithin (levels : Nat) (v : Value) :
    Independent (fun _ => True) (resolveWithin S levels v) :=
  (independent_invariant hanswer).resolveWithin levels v trivial

theorem independent_resolveEntry (property : String × Value) :
    Independent (fun _ => True) (resolveEntry S property) :=
  (independent_invariant hanswer).resolveEntry trivial

theorem addsUp_array (levels : Nat) (items : List Value) (others : Value → σ) (s : State σ) :
    AddsUp s { nodes := 1 } (resolveWithin S levels (.array items) s) Value.array
      (items.map fun item =>
        resolveWithin S levels item { depth := s.depth, probes := others item }) := by
  have h := addsUp_mapM (independent_resolveWithin hanswer levels) others items
    (s.count fun m => { m with nodes := m.nodes + 1 })
  rw [resolveWithin_eq] at h ⊢
  rw [← walkItems_eq_mapM] at h
  exact (h.map Value.array).count rfl (State.visited_metrics s)

theorem addsUp_object (levels : Nat) {members : Record} (hrule : isRule members = false)
    (others : String × Value → σ) (s : State σ) :
    AddsUp s { nodes := 1 } (resolveWithin S levels (.object members) s) Value.object
      (members.map fun member => ((member.1, ·) <$> resolveWithin S levels member.2)
        { depth := s.depth, probes := others member }) := by
  have h := addsUp_mapM (f := fun member : String × Value =>
      (member.1, ·) <$> resolveWithin S levels member.2) (fun member => ?_) others members
    (s.count fun m => { m with nodes := m.nodes + 1 })
  · rw [resolveWithin_eq] at h ⊢
    rw [← walkMembers_eq_mapM] at h
    simp only [walk, hrule]
    exact (h.map Value.object).count rfl (State.visited_metrics s)
  · exact independent_congruence.map (n := resolveWithin S levels member.2)
      (independent_resolveWithin hanswer levels member.2) fun _ _ => trivial

/-- The properties of a template add up to it. -/
theorem addsUp_entries (template : Record) (others : String × Value → σ) (s : State σ) :
    AddsUp s 0 (resolveTemplate S template s) id
      (template.map fun property =>
        resolveEntry S property { depth := s.depth, probes := others property }) := by
  have h := addsUp_mapM (independent_resolveEntry hanswer) others template s
  obtain ⟨hresult, hdepth, hmetrics⟩ := resolveTemplate_eq S template s
  exact ⟨by rw [hresult, h.isOk_iff], by rw [hresult]; exact h.assembled,
    by rw [hdepth, h.depth_eq], by rw [hresult, hmetrics]; exact h.metrics_eq⟩

theorem addsUp_template (template : Record) (others : String × Value → σ) (probes : σ) :
    AddsUp { probes } 0 (resolveTemplate S template { probes }) List.flatten
      (template.map fun property =>
        resolveTemplate S [property] { probes := others property }) := by
  refine (addsUp_entries hanswer template others { probes }).wrap (g := ([·])) ?_ ?_ ?_
  · simp only [List.map_map, Function.comp_def, resolveTemplate_singleton]
  · simp only [List.map_map, Function.comp_def, resolveTemplate_singleton]
  · intro results
    induction results with
    | nil => rfl
    | cons r rest ih => exact congrArg (r :: ·) ih

/-- What each property comes to does not depend on the state from which it is resolved. -/
theorem keys_and_get?_of_ok {template out : Record} {s t : State σ}
    (hrun : resolveTemplate S template s = (.ok out, t)) :
    out.keys = template.keys ∧ ∀ key value, template.get? key = some value →
      ∃ r, out.get? key = some r ∧ ∀ u, (resolveEntry S (key, value) u).1 = .ok (key, r) := by
  have h := addsUp_entries hanswer template (fun _ => s.probes) s
  rw [hrun] at h
  obtain ⟨results, rfl, hresults⟩ := h.assembled out rfl
  rw [List.map_map] at hresults
  obtain ⟨hkeys, hget⟩ := keys_and_get?_of_map_eq (fun _ _ => fst_eq_of_resolveEntry) hresults
  refine ⟨hkeys, fun key value hvalue => ?_⟩
  obtain ⟨r, hr, halone⟩ := hget key value hvalue
  refine ⟨r, hr, fun u => ?_⟩
  obtain ⟨result, share, hamounts, -⟩ := independent_resolveEntry hanswer (key, value)
  obtain rfl : result = some (key, r) := by
    rw [← hamounts.result_eq, halone]
    rfl
  exact congrArg Prod.fst (hamounts.run_eq u)

theorem perm_of_ok {template template' out : Record} {probes probes' : σ} {final : State σ}
    (hperm : template.Perm template')
    (hrun : resolveTemplate S template { probes } = (.ok out, final)) :
    ∃ out' final', resolveTemplate S template' { probes := probes' } = (.ok out', final') ∧
      out.Perm out' ∧ final'.metrics = final.metrics := by
  have h := addsUp_entries hanswer template (fun _ => probes) { probes }
  have h' := addsUp_entries hanswer template' (fun _ => probes) { probes := probes' }
  rw [hrun] at h
  have hparts := hperm.map fun property =>
    resolveEntry S property { probes := probes }
  obtain ⟨out', hrun'⟩ := exists_of_isOk (h'.isOk_iff.mpr fun part hpart =>
    h.isOk_iff.mp rfl part (hparts.mem_iff.mpr hpart))
  rw [hrun'] at h'
  obtain ⟨results, rfl, hresults⟩ := h.assembled out rfl
  obtain ⟨results', rfl, hresults'⟩ := h'.assembled out' rfl
  refine ⟨_, _, hrun', ?_, ?_⟩
  · have hmapped := hparts.map Prod.fst
    rw [hresults, hresults'] at hmapped
    exact (List.map_perm_map_iff fun _ _ => Except.ok.inj).mp hmapped
  · have hsum := (hparts.map fun part => part.2.metrics).sum_eq
    rw [h.metrics_eq _ rfl, h'.metrics_eq _ rfl, ← Metrics.sum_eq_total,
      ← Metrics.sum_eq_total, hsum]

end Parts

/-- If what a probe returns is a function of its arguments, a template succeeds if and only if
each of its properties alone does, its counters are theirs taken together, and it has the
same keys, in order, with what each property comes to alone; a probe stays the same probe.
Another order of the properties leads to the same results in that order. Lists and plain
objects resolve in the same way, part by part at the depth where they stand, and count one
value more. -/
theorem resolveTemplate_compositional (S : Setting σ) (answer : Probe → Record → Value)
    (hanswer : ∀ probe args probes, (S.invoke probe args probes).1 = answer probe args) :
    (∀ (template : Record) (others : String × Value → σ) (probes : σ),
      AddsUp { probes } 0 (resolveTemplate S template { probes }) List.flatten
        (template.map fun property =>
          resolveTemplate S [property] { probes := others property })) ∧
    (∀ (template : Record) (probes : σ) (out : Record) (final : State σ),
      resolveTemplate S template { probes } = (.ok out, final) →
      out.keys = template.keys ∧
      (∀ (key : String) (value : Value), template.get? key = some value →
        ∃ r, out.get? key = some r ∧ (value.isProbe = true → r = value) ∧
        ∀ other, (resolveTemplate S [(key, value)] { probes := other }).1 = .ok [(key, r)]) ∧
      ∀ (template' : Record) (probes' : σ), template.Perm template' → ∃ out' final',
        resolveTemplate S template' { probes := probes' } = (.ok out', final') ∧
        out'.keys = template'.keys ∧ out.Perm out' ∧ final'.metrics = final.metrics) ∧
    (∀ (levels : Nat) (items : List Value) (others : Value → σ) (s : State σ),
      AddsUp s { nodes := 1 } (resolveWithin S levels (.array items) s) Value.array
        (items.map fun item =>
          resolveWithin S levels item { depth := s.depth, probes := others item })) ∧
    (∀ (levels : Nat) (members : Record) (others : String × Value → σ) (s : State σ),
      isRule members = false →
      AddsUp s { nodes := 1 } (resolveWithin S levels (.object members) s) Value.object
        (members.map fun member => ((member.1, ·) <$> resolveWithin S levels member.2)
          { depth := s.depth, probes := others member })) := by
  refine ⟨addsUp_template hanswer, ?_, addsUp_array hanswer, fun levels members others s hrule =>
    addsUp_object hanswer levels hrule others s⟩
  intro template probes out final hrun
  obtain ⟨hkeys, hget⟩ := keys_and_get?_of_ok hanswer hrun
  refine ⟨hkeys, fun key value hvalue => ?_, fun template' probes' hperm => ?_⟩
  · obtain ⟨r, hr, halone⟩ := hget key value hvalue
    refine ⟨r, hr, fun hprobe => ?_, fun other => ?_⟩
    · have hsame := halone { probes }
      cases value with
      | probe p => exact (congrArg Prod.snd (Except.ok.inj hsame)).symm
      | _ => simp [Value.isProbe] at hprobe
    · rw [(resolveTemplate_singleton S (key, value) { probes := other }).1, halone]
      rfl
  · obtain ⟨out', final', hrun', hout, hmetrics⟩ := perm_of_ok hanswer hperm hrun
    exact ⟨out', final', hrun', (keys_and_get?_of_ok hanswer hrun').1, hout, hmetrics⟩

def mixedTemplate : Record := [
  ("rule", .object [("default", .probe ⟨0⟩), ("@svc::next[k:@a.x]:deep", .string "@a.x")]),
  ("handler", .probe ⟨0⟩),
  ("list", .array [.string "@a.x", .string "plain"])]

def repeatingSetting : Setting Nat where
  store := chainStore
  options := {}
  invoke := fun _ args calls => ((Entries.get? args "k").getD .null, calls + 1)

theorem resolveTemplate_compositional_mixed : ∃ out final out' final',
    resolveTemplate repeatingSetting mixedTemplate { probes := 0 } = (.ok out, final) ∧
    out.keys = ["rule", "handler", "list"] ∧ out.get? "handler" = some (.probe ⟨0⟩) ∧
    resolveTemplate repeatingSetting mixedTemplate.reverse { probes := 5 } =
      (.ok out', final') ∧ out.Perm out' ∧ final'.metrics = final.metrics := by
  obtain ⟨out, hrun⟩ := exists_of_isOk (m := resolveTemplate repeatingSetting mixedTemplate)
    (s := { probes := 0 }) (by decide +kernel)
  obtain ⟨-, htemplate, -, -⟩ := resolveTemplate_compositional repeatingSetting
    (fun _ args => (Entries.get? args "k").getD .null) fun _ _ _ => rfl
  obtain ⟨hkeys, hget, hperm⟩ := htemplate _ _ _ _ hrun
  obtain ⟨out', final', hrun', -, hout, hmetrics⟩ :=
    hperm mixedTemplate.reverse 5 (List.reverse_perm _).symm
  obtain ⟨r, hr, hsame, -⟩ := hget "handler" (.probe ⟨0⟩) rfl
  refine ⟨out, _, out', final', hrun, hkeys, ?_, hrun', hout, hmetrics⟩
  rw [hr, hsame rfl]

end RuleTemplate.Resolution
