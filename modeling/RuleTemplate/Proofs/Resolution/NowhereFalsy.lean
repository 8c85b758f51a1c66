import RuleTemplate.Proofs.Resolution.Collapse
import RuleTemplate.Proofs.Resolution.Simulation

/-!
Where nothing is falsy but null, it makes no difference whether falsy results of rules are replaced
by null. Two runs that differ in that option alone go through the same states: whatever a rule
chooses comes from the template, from the store or out of a probe, so the test replaces nothing but
null, by null.
-/
namespace RuleTemplate

namespace Value

structure NowhereFalsy (v : Value) : Prop where
  noFalse : ¬Part (.bool false) v
  noZero : ∀ n, Part (.number n) v → n.isZero = false
  noEmpty : ¬Part (.string "") v

theorem nowhereFalsy_iff {v : Value} : v.NowhereFalsy ↔ ∀ w, Part w v → w.IsCollapsed := by
  constructor
  · rintro ⟨hfalse, hzero, hempty⟩ w hw
    cases w with
    | null => exact Or.inl rfl
    | bool b =>
      cases b with
      | false => exact absurd hw hfalse
      | true => exact Or.inr rfl
    | number n => exact Or.inr (by simp [isTruthy, hzero n hw])
    | string s =>
      have hs : s ≠ "" := by
        rintro rfl
        exact hempty hw
      exact Or.inr (by simp [isTruthy, hs])
    | _ => exact Or.inr rfl
  · intro h
    refine ⟨fun hw => ?_, fun n hw => ?_, fun hw => ?_⟩
    · simpa [IsCollapsed, isTruthy] using h _ hw
    · simpa [IsCollapsed, isTruthy] using h _ hw
    · simpa [IsCollapsed, isTruthy] using h _ hw

@[simp] theorem nowhereFalsy_null : null.NowhereFalsy :=
  nowhereFalsy_iff.mpr fun _ hw => by cases hw; exact Or.inl rfl

@[simp] theorem nowhereFalsy_probe (p : Probe) : (probe p).NowhereFalsy :=
  nowhereFalsy_iff.mpr fun _ hw => by cases hw; exact Or.inr rfl

@[simp] theorem nowhereFalsy_number_iff {n : Number} :
    (number n).NowhereFalsy ↔ n.isZero = false :=
  ⟨fun h => h.noZero n .self, fun h => nowhereFalsy_iff.mpr fun _ hw => by
    cases hw; exact Or.inr (by simp [isTruthy, h])⟩

@[simp] theorem nowhereFalsy_string_iff {s : String} : (string s).NowhereFalsy ↔ s ≠ "" :=
  ⟨fun h hs => h.noEmpty (hs ▸ .self), fun h => nowhereFalsy_iff.mpr fun _ hw => by
    cases hw; exact Or.inr (by simp [isTruthy, h])⟩

@[simp] theorem nowhereFalsy_array_iff {items : List Value} :
    (array items).NowhereFalsy ↔ ∀ item ∈ items, item.NowhereFalsy := by
  simp only [nowhereFalsy_iff]
  constructor
  · exact fun h item hitem w hw => h w (.item hitem hw)
  · intro h w hw
    cases hw with
    | self => exact Or.inr rfl
    | item hitem hw => exact h _ hitem w hw

@[simp] theorem nowhereFalsy_object_iff {members : Record} :
    (object members).NowhereFalsy ↔ ∀ member ∈ members, member.2.NowhereFalsy := by
  simp only [nowhereFalsy_iff]
  constructor
  · exact fun h member hmember w hw => h w (.member hmember hw)
  · intro h w hw
    cases hw with
    | self => exact Or.inr rfl
    | member hmember hw => exact h _ hmember w hw

end Value

variable {σ : Type}

def Setting.withCollapse (S : Setting σ) (flag : Bool) : Setting σ :=
  { S with options := { S.options with collapseFalsy := flag } }

inductive Setting.Reaches (S : Setting σ) (callable : Probe → Prop) (start : σ) : σ → Prop
  | start : Reaches S callable start start
  | call {probe : Probe} {probes : σ} (args : Record) : callable probe →
      Reaches S callable start probes →
      Reaches S callable start (S.invoke probe args probes).2

namespace Resolution

/-- What is nowhere falsy is put together from what is nowhere falsy, and the same holds with
the probes in it. -/
theorem closed_nowhereFalsy (callable : Probe → Prop) :
    Closed (fun v => v.NowhereFalsy ∧ v.ProbesIn callable)
      (fun v => v.NowhereFalsy ∧ v.ProbesIn callable) := by
  have hprobes := closed_probesIn callable
  exact {
    item := fun h item hitem =>
      ⟨Value.nowhereFalsy_array_iff.mp h.1 item hitem, hprobes.item h.2 item hitem⟩
    member := fun h member hmember =>
      ⟨Value.nowhereFalsy_object_iff.mp h.1 member hmember, hprobes.member h.2 member hmember⟩
    raw_of_done := id
    null := ⟨Value.nowhereFalsy_null, hprobes.null⟩
    literal := fun h _ => h
    array := fun h => ⟨Value.nowhereFalsy_array_iff.mpr fun item hitem => (h item hitem).1,
      hprobes.array fun item hitem => (h item hitem).2⟩
    object := fun hrule h =>
      ⟨Value.nowhereFalsy_object_iff.mpr fun member hmember => (h member hmember).1,
        hprobes.object hrule fun member hmember => (h member hmember).2⟩ }

section Collapse

variable {S : Setting σ} {callable : Probe → Prop} {start : σ}
  (hreturned : ∀ probes, S.Reaches callable start probes → ∀ probe, callable probe →
    ∀ args, (S.invoke probe args probes).1.NowhereFalsy ∧
      (S.invoke probe args probes).1.ProbesIn callable)
include hreturned

/-- Two runs stay in the same state, and calls have led there. -/
theorem simulation_withCollapse (flag : Bool) :
    Simulation S (S.withCollapse flag) (fun v => v.NowhereFalsy ∧ v.ProbesIn callable)
      fun s t => t = s ∧ S.Reaches callable start s.probes where
  lastAddress h := by rw [h.1]
  enter h := ⟨by rw [h.1], h.2⟩
  leave h := ⟨by rw [h.1], h.2⟩
  note event h := ⟨by rw [h.1], h.2⟩
  count _ h := ⟨by rw [h.1], h.2⟩
  lookup address found h := ⟨by rw [h.1], h.2⟩
  call cause probe args hraw s t h := by
    obtain ⟨rfl, hreaches⟩ := h
    have hcallable : callable probe := Value.probesIn_probe_iff.mp hraw.2
    refine ⟨rfl, ⟨rfl, .call args hcallable hreaches⟩, fun v hv => ?_⟩
    obtain rfl : (S.invoke probe args t.probes).1 = v := Except.ok.inj hv
    exact hreturned t.probes hreaches probe hcallable args
  finish h := ⟨by rw [h.1], h.2⟩

theorem lockstep_withCollapse (hroot : S.root.NowhereFalsy ∧ S.root.ProbesIn callable)
    (flag : Bool) :
    Lockstep S (S.withCollapse flag) (fun v => v.NowhereFalsy ∧ v.ProbesIn callable)
      (fun v => v.NowhereFalsy ∧ v.ProbesIn callable)
      fun _ Φ (m n : Resolution σ _) =>
        Parallel (fun s t => t = s ∧ S.Reaches callable start s.probes) Φ m n := by
  refine (simulation_withCollapse hreturned flag).lockstep (closed_nowhereFalsy callable) rfl
    hroot rfl fun v hv => ?_
  rcases Value.nowhereFalsy_iff.mp hv.1 v .self with hnull | htruthy
  · exact Or.inl hnull
  · exact Or.inr (by simp [htruthy])

/-- If neither the store nor the template nor any value that a probe returns has false, a zero or
an empty text in it, then a template is resolved in the same way whether falsy results of rules are
replaced by null or not: it comes to the same or fails alike, with the same counters, the same
calls of probes and the same steps altogether. The probes that count are those that stand in the
store, in the template or in a value that one of them returns. -/
theorem resolveTemplate_of_nowhereFalsy {template : Record}
    (hroot : S.root.NowhereFalsy ∧ S.root.ProbesIn callable)
    (htemplate : ∀ property ∈ template,
      property.2.NowhereFalsy ∧ property.2.ProbesIn callable) :
    resolveTemplate (S.withCollapse true) template { probes := start } =
      resolveTemplate (S.withCollapse false) template { probes := start } := by
  have hsame (flag : Bool) : resolveTemplate (S.withCollapse flag) template { probes := start } =
      resolveTemplate S template { probes := start } := by
    obtain ⟨hresult, ⟨hstate, -⟩, -⟩ := (lockstep_withCollapse hreturned hroot flag).resolveTemplate
      template htemplate { probes := start } { probes := start } ⟨rfl, .start⟩
    exact Prod.ext hresult hstate
  rw [hsame true, hsame false]

end Collapse

def tallySetting : Setting Nat where
  store := Store.ofRecord [
    ("@user", .object [("name", .string "Ada"), ("team", .null)]),
    ("@log", .object [("count", .probe ⟨0⟩)])]
  options := {}
  invoke := fun _ _ calls => (.object [("calls", .number (.int calls))], calls + 1)

def tallyTemplate : Record := [
  ("n", .object [("default", .probe ⟨0⟩), ("@log::count[k:]calls:>0", .string "@value")]),
  ("team", .object [("value", .string "@user.name"), ("@user.name:Ada||", .null)]),
  ("who", .array [.string "@user.team", .object [("@user.name", .number (.int 1))]])]

theorem le_of_reaches_tallySetting {callable : Probe → Prop} {start calls : Nat}
    (h : tallySetting.Reaches callable start calls) : start ≤ calls := by
  induction h with
  | start => exact Nat.le_refl start
  | call args _ _ ih => exact Nat.le_succ_of_le ih

/-- The probe would return a zero from no calls, but its calls begin at one. -/
theorem resolveTemplate_of_nowhereFalsy_tally :
    resolveTemplate (tallySetting.withCollapse true) tallyTemplate { probes := 1 } =
        resolveTemplate (tallySetting.withCollapse false) tallyTemplate { probes := 1 } ∧
      (resolveTemplate tallySetting tallyTemplate { probes := 1 }).2.probes = 3 := by
  have hreturned : ∀ calls, tallySetting.Reaches (fun probe => probe = ⟨0⟩) 1 calls →
      ∀ probe, probe = ⟨0⟩ → ∀ args, (tallySetting.invoke probe args calls).1.NowhereFalsy ∧
        (tallySetting.invoke probe args calls).1.ProbesIn fun probe => probe = ⟨0⟩ := by
    intro calls hreaches probe _ args
    have hcalls := le_of_reaches_tallySetting hreaches
    have hzero : calls ≠ 0 := by omega
    simp [tallySetting, Number.isZero, hzero]
  have hroot : tallySetting.root = .object [
      ("@user", .object [("name", .string "Ada"), ("team", .null)]),
      ("@log", .object [("count", .probe ⟨0⟩)])] := rfl
  refine ⟨resolveTemplate_of_nowhereFalsy hreturned ?_ ?_, by decide +kernel⟩
  · simp [hroot]
  · simp [tallyTemplate, Number.isZero]

end Resolution
end RuleTemplate
