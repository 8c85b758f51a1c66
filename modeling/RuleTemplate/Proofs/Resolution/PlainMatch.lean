import RuleTemplate.Proofs.Criterion.Canonical
import RuleTemplate.Proofs.Resolution.BranchChoice

/-!
Keys that compare an address with one text. Such a key is read as one match clause, with the
address and the text, unless there are two colons in a row from the one between them on: then it
is read as a call. Where it is read as a match, a rule with that key chooses its outcome if and only
if the value at the address shows the text.
-/
namespace RuleTemplate

/-- The value is not null and its text is the given one; for a list, that of an element is. -/
def Value.Shows (text : String) : Value → Prop
  | .null => False
  | .array items => ∃ item ∈ items, item.display = text
  | v => v.display = text

theorem Value.exists_shows_iff {texts : List String} {v : Value} :
    (∃ text ∈ texts, v.Shows text) ↔ (!v.isNull && v.isOneOf texts) = true := by
  cases v with
  | null => simp [Shows, isNull]
  | array items =>
    simp only [Shows, isNull, isOneOf, Bool.not_false, Bool.true_and, List.any_eq_true,
      List.contains_iff_mem]
    constructor
    · rintro ⟨text, htext, item, hitem, rfl⟩
      exact ⟨item, hitem, htext⟩
    · rintro ⟨item, hitem, htext⟩
      exact ⟨item.display, htext, item, hitem, rfl⟩
  | _ => simp [Shows, isNull, isOneOf]

theorem Value.shows_iff {text : String} {v : Value} :
    v.Shows text ↔ (!v.isNull && v.isOneOf [text]) = true := by
  rw [← exists_shows_iff]
  simp

namespace Clause

theorem parse_match {address values : List Char} (haddress : ':' ∉ address)
    (hpair : ¬[':', ':'] <:+: ':' :: values) :
    parse (address ++ ':' :: values) =
      oneOf (String.ofList address) ((Text.splitPair '|' '|' values).map String.ofList) := by
  have hnone : Text.cutPair ':' ':' (address ++ ':' :: values) = none := by
    rwa [Text.cutPair_eq_none, Text.pair_infix_append_iff haddress]
  have hcut : Text.cut ':' (address ++ ':' :: values) = some (address, values) :=
    Text.cut_eq_some.mpr ⟨rfl, haddress⟩
  rw [parse, hnone, hcut]

/-- Two colons in a row make a call of a clause, well formed or not. -/
theorem parse_of_pair {text : List Char} (hpair : [':', ':'] <:+: text) :
    ∃ target, (∃ spec, parse text = call target spec) ∨
      ∃ signature, parse text = malformed target signature := by
  unfold parse
  cases hcut : Text.cutPair ':' ':' text with
  | none => exact absurd hpair (Text.cutPair_eq_none.mp hcut)
  | some parts =>
    cases hspec : CallSpec.parse? parts.2 with
    | some spec => exact ⟨String.ofList parts.1, Or.inl ⟨spec, by simp [hspec]⟩⟩
    | none => exact ⟨String.ofList parts.1, Or.inr ⟨String.ofList parts.2, by simp [hspec]⟩⟩

end Clause

structure IsPlainKey (address text : String) : Prop where
  sigil : hasSigil address = true
  colon_notMem_address : ':' ∉ address.toList
  address_not_blank : ∀ c ∈ address.toList, Text.isBlank c = false
  text_not_blank : ∀ c ∈ text.toList, Text.isBlank c = false
  bars_notMem_text : ¬['|', '|'] <:+: text.toList

theorem isPlainKey_iff {address text : String} : IsPlainKey address text ↔
    hasSigil address = true ∧ address.toList.contains ':' = false ∧
      (address.toList.all fun c => !Text.isBlank c) = true ∧
      (text.toList.all fun c => !Text.isBlank c) = true ∧
      (Text.cutPair '|' '|' text.toList).isNone = true := by
  simp only [List.all_eq_true, Bool.not_eq_true', List.contains_eq_mem, decide_eq_false_iff_not,
    Option.isNone_iff_eq_none, Text.cutPair_eq_none]
  exact ⟨fun h => ⟨h.sigil, h.colon_notMem_address, h.address_not_blank, h.text_not_blank,
    h.bars_notMem_text⟩, fun ⟨hsigil, hcolon, haddress, htext, hbars⟩ =>
    ⟨hsigil, hcolon, haddress, htext, hbars⟩⟩

instance (address text : String) : Decidable (IsPlainKey address text) :=
  decidable_of_iff _ isPlainKey_iff.symm

def plainKey (address text : String) : String := address ++ ":" ++ text

theorem toList_plainKey (address text : String) :
    (plainKey address text).toList = address.toList ++ ':' :: text.toList := by
  simp [plainKey]

namespace IsPlainKey

variable {address text : String}

theorem parse_eq (h : IsPlainKey address text) :
    Criterion.parse (plainKey address text) =
      [Clause.parse (address.toList ++ ':' :: text.toList)] := by
  have hword : Criterion.IsWord (address.toList ++ ':' :: text.toList) := by
    refine ⟨by simp, fun c hc => ?_⟩
    rcases List.mem_append.mp hc with haddress | hrest
    · exact h.address_not_blank c haddress
    · rcases List.mem_cons.mp hrest with rfl | htext
      · exact Text.isBlank_colon
      · exact h.text_not_blank c htext
  rw [Criterion.parse, toList_plainKey, Criterion.words_of_isWord hword]
  rfl

/-- The key is one match clause with the text for its only alternative if and only if no two
colons stand in a row. -/
theorem parse_eq_oneOf_iff (h : IsPlainKey address text) :
    Criterion.parse (plainKey address text) = [.oneOf address [text]] ↔
      ¬[':', ':'] <:+: ':' :: text.toList := by
  rw [h.parse_eq, List.singleton_inj]
  constructor
  · intro hparse hpair
    have hinfix := (Text.pair_infix_append_iff h.colon_notMem_address).mpr hpair
    obtain ⟨target, ⟨spec, hcall⟩ | ⟨signature, hmalformed⟩⟩ := Clause.parse_of_pair hinfix
    · simp [hparse] at hcall
    · simp [hparse] at hmalformed
  · intro hpair
    rw [Clause.parse_match h.colon_notMem_address hpair,
      Text.splitPair_eq_singleton h.bars_notMem_text]
    simp

theorem isFallbackKey_eq_false (h : IsPlainKey address text) :
    isFallbackKey (plainKey address text) = false := by
  have hsigil : hasSigil (plainKey address text) = true := by
    have haddress := h.sigil
    cases hchars : address.toList <;> simp_all [hasSigil, toList_plainKey]
  simp only [isFallbackKey, fallbackKeys, List.contains_cons, List.contains_nil, Bool.or_false,
    Bool.or_eq_false_iff, beq_eq_false_iff_ne]
  constructor <;> rintro hkey <;> exact absurd (hkey ▸ hsigil) (by decide)

end IsPlainKey

def plainRule (address text : String) (fallback outcome : Value) : Record :=
  [("default", fallback), (plainKey address text, outcome)]

theorem isRule_plainRule (address text : String) (fallback outcome : Value) :
    isRule (plainRule address text fallback outcome) = true := by
  simp [isRule, plainRule, isFallbackKey, fallbackKeys]

theorem fallbackOf_plainRule {address text : String} (h : IsPlainKey address text)
    (fallback outcome : Value) :
    Rule.fallbackOf (plainRule address text fallback outcome) =
      if fallback.isNull then none else some fallback := by
  have hvalue : plainKey address text ≠ "value" := fun hkey =>
    absurd (hkey ▸ h.isFallbackKey_eq_false) (by decide)
  rw [Rule.fallbackOf_eq]
  cases hnull : fallback.isNull <;>
    simp [plainRule, Entries.get?, hnull, hvalue.symm, Option.filter]

theorem branchesOf_plainRule {address text : String} (h : IsPlainKey address text)
    (fallback outcome : Value) :
    Rule.branchesOf (plainRule address text fallback outcome) =
      [Rule.branchOf (plainKey address text) outcome] := by
  have hdefault : isFallbackKey "default" = true := by decide
  simp [Rule.branchesOf, plainRule, hdefault, h.isFallbackKey_eq_false]

namespace Resolution

variable {σ : Type}

def consult (S : Setting σ) (d : Value → Resolution σ Value) (address : String)
    (alternatives : List String) : Resolution σ (Option Value) := do
  count fun m => { m with criteria := m.criteria + 1 }
  note (.reached (.oneOf address alternatives))
  access S d address

def matchVerdict (alternatives : List String) (found : Option Value) : Verdict :=
  match found.filter fun v => !v.isNull && v.isOneOf alternatives with
  | some v => .matched 1 v
  | none => .failed

theorem matchVerdict_some (texts : List String) (v : Value) :
    matchVerdict texts (some v) =
      if !v.isNull && v.isOneOf texts then .matched 1 v else .failed := by
  cases hv : !v.isNull && v.isOneOf texts <;> simp [matchVerdict, Option.filter, hv]

theorem matchVerdict_of_shows {text : String} {v : Value} (h : v.Shows text) :
    matchVerdict [text] (some v) = .matched 1 v := by
  rw [matchVerdict_some, if_pos (Value.shows_iff.mp h)]

theorem matchVerdict_of_not_shows {text : String} {found : Option Value}
    (h : ∀ v, found = some v → ¬v.Shows text) : matchVerdict [text] found = .failed := by
  cases found with
  | none => rfl
  | some v => rw [matchVerdict_some, if_neg (mt Value.shows_iff.mpr (h v rfl))]

variable {S : Setting σ} {d : Value → Resolution σ Value}

theorem judge_oneOf (address : String) (alternatives : List String) :
    judge S d [.oneOf address alternatives] = (do
      note (.reached (.oneOf address alternatives))
      return matchVerdict alternatives (← access S d address)) := by
  simp only [judge, judgeFrom, capture, bind_assoc, pure_bind]
  refine bind_congr fun _ => bind_congr fun found => ?_
  cases hfound : found.filter fun v => !v.isNull && v.isOneOf alternatives with
  | none => simp [matchVerdict, hfound]
  | some v => simp [matchVerdict, hfound, Clause.isBare]

theorem select_oneOf {branch : Branch} {address : String} {alternatives : List String}
    (h : branch.criterion = [.oneOf address alternatives]) (selection : Selection) :
    select S d [branch] selection = (do
      let found ← consult S d address alternatives
      count (countVerdict · (matchVerdict alternatives found))
      note (selection.event branch.key (matchVerdict alternatives found))
      return selection.consider branch (matchVerdict alternatives found)) := by
  simp only [select, consult, h, judge_oneOf, bind_assoc, pure_bind]

section PlainRule

variable {address text : String} (h : IsPlainKey address text) (fallback outcome : Value)
include h

theorem visitRule_plainRule (S : Setting σ) (s : State σ) : ∃ t,
    visitRule S (Rule.fallbackOf (plainRule address text fallback outcome)) s =
      (.ok (if fallback.isNull then none else some (supplied S s.probes fallback)), t) := by
  obtain ⟨t, hopen⟩ := openRule_supplied S
    (Rule.fallbackOf (plainRule address text fallback outcome))
    (s.count fun m => { m with nodes := m.nodes + 1 })
  have hseeded : (Rule.fallbackOf (plainRule address text fallback outcome)).map
      (supplied S s.probes) =
        if fallback.isNull then none else some (supplied S s.probes fallback) := by
    rw [fallbackOf_plainRule h]
    split <;> rfl
  exact ⟨t, hseeded ▸ hopen⟩

variable (hpair : ¬[':', ':'] <:+: ':' :: text.toList)
include hpair

theorem select_plainRule (selection : Selection) :
    select S d (Rule.branchesOf (plainRule address text fallback outcome)) selection = (do
      let found ← consult S d address [text]
      count (countVerdict · (matchVerdict [text] found))
      note (selection.event (plainKey address text) (matchVerdict [text] found))
      return selection.consider (Rule.branchOf (plainKey address text) outcome)
        (matchVerdict [text] found)) := by
  have hcriterion : (Rule.branchOf (plainKey address text) outcome).criterion =
      [.oneOf address [text]] := h.parse_eq_oneOf_iff.mpr hpair
  rw [branchesOf_plainRule h, select_oneOf hcriterion]
  rfl

/-- What the address resolves to decides between the outcome and what was chosen before. -/
theorem select_plainRule_of_ok {found : Option Value} {t u : State σ}
    (hfound : consult S d address [text] t = (.ok found, u)) (selection : Selection) :
    ∃ w, select S d (Rule.branchesOf (plainRule address text fallback outcome)) selection t =
      (.ok (selection.consider (Rule.branchOf (plainKey address text) outcome)
        (matchVerdict [text] found)), w) := by
  rw [select_plainRule h fallback outcome hpair, bind_of_ok hfound]
  exact ⟨_, rfl⟩

end PlainRule

theorem resolveWithin_of_visitRule (levels : Nat) {members : Record}
    (hrule : isRule members = true) {s t : State σ} {seeded : Option Value}
    (hvisit : visitRule S (Rule.fallbackOf members) s = (.ok seeded, t)) :
    resolveWithin S levels (.object members) s =
      (select S (descendWithin S levels) (Rule.branchesOf members) (.start seeded) >>=
        fun selection => settle S (descendWithin S levels) selection.chosen) t := by
  rw [resolveWithin_eq, walk_of_isRule hrule]
  exact bind_of_ok hvisit _

/-- A key that joins an address and a text is one match clause with them if and only if no two
colons stand in a row from the one between them on; else it is one call, well formed or not. As a
match it makes a rule choose the outcome of the key if and only if what the address resolves to
shows the text, and the fallback otherwise. Only resolving the address can fail. -/
theorem plain_key_chooses {address text : String} (h : IsPlainKey address text) :
    (Criterion.parse (plainKey address text) = [.oneOf address [text]] ↔
      ¬[':', ':'] <:+: ':' :: text.toList) ∧
    ([':', ':'] <:+: ':' :: text.toList →
      ∃ target, (∃ spec, Criterion.parse (plainKey address text) = [.call target spec]) ∨
        ∃ signature, Criterion.parse (plainKey address text) = [.malformed target signature]) ∧
    (¬[':', ':'] <:+: ':' :: text.toList →
      ∀ (S : Setting σ) (levels : Nat) (fallback outcome : Value) (s : State σ), ∃ seeded t,
        seeded = (if fallback.isNull then none else some (supplied S s.probes fallback)) ∧
        visitRule S (Rule.fallbackOf (plainRule address text fallback outcome)) s =
          (.ok seeded, t) ∧
        (∀ e u, consult S (descendWithin S levels) address [text] t = (.error e, u) →
          resolveWithin S levels (.object (plainRule address text fallback outcome)) s =
            (.error e, u)) ∧
        ∀ found u, consult S (descendWithin S levels) address [text] t = (.ok found, u) →
          ∃ selection w,
            select S (descendWithin S levels)
              (Rule.branchesOf (plainRule address text fallback outcome)) (.start seeded) t =
              (.ok selection, w) ∧
            resolveWithin S levels (.object (plainRule address text fallback outcome)) s =
              settle S (descendWithin S levels) selection.chosen w ∧
            (∀ v, found = some v → v.Shows text →
              selection = ⟨1, some ((Rule.branchOf (plainKey address text) outcome).result v)⟩) ∧
            ((∀ v, found = some v → ¬v.Shows text) → selection = ⟨0, seeded⟩)) := by
  refine ⟨h.parse_eq_oneOf_iff, fun hpair => ?_, fun hpair S levels fallback outcome s => ?_⟩
  · rw [h.parse_eq]
    simp only [List.singleton_inj]
    exact Clause.parse_of_pair ((Text.pair_infix_append_iff h.colon_notMem_address).mpr hpair)
  · obtain ⟨t, hvisit⟩ := visitRule_plainRule h fallback outcome S s
    have hresolve := resolveWithin_of_visitRule levels
      (isRule_plainRule address text fallback outcome) hvisit
    refine ⟨_, t, rfl, hvisit, fun e u herror => ?_, fun found u hfound => ?_⟩
    · rw [hresolve, select_plainRule h fallback outcome hpair]
      exact bind_of_error (bind_of_error herror _) _
    · obtain ⟨w, hselect⟩ := select_plainRule_of_ok h fallback outcome hpair hfound (.start _)
      refine ⟨_, w, hselect, hresolve.trans (bind_of_ok hselect _), ?_, fun hnone => ?_⟩
      · rintro v rfl hshows
        rw [matchVerdict_of_shows hshows]
        rfl
      · rw [matchVerdict_of_not_shows hnone]
        rfl

def hostSetting : Setting Unit where
  store := Store.ofRecord [
    ("@shop", .object [("slots", .array [.string "09:00", .string "12:30"])]),
    ("@net", .object [("host", .string "fe80::1")])]
  options := {}
  invoke := fun _ _ _ => (.null, ())

/-- A time has a colon, but no two in a row. -/
theorem plain_key_chooses_time : ∃ (t u : State Unit) (selection : Selection) (w : State Unit),
    IsPlainKey "@shop.slots" "12:30" ∧ ¬[':', ':'] <:+: ':' :: "12:30".toList ∧
    Criterion.parse (plainKey "@shop.slots" "12:30") = [.oneOf "@shop.slots" ["12:30"]] ∧
    consult hostSetting (descendWithin hostSetting 1) "@shop.slots" ["12:30"] t =
      (.ok (some (.array [.string "09:00", .string "12:30"])), u) ∧
    resolveWithin hostSetting 1
        (.object (plainRule "@shop.slots" "12:30" (.string "closed") (.string "open")))
        { probes := () } =
      settle hostSetting (descendWithin hostSetting 1) selection.chosen w ∧
    selection.chosen = some (.string "open") := by
  have hkey : IsPlainKey "@shop.slots" "12:30" := by decide +kernel
  have hpair : ¬[':', ':'] <:+: ':' :: "12:30".toList := by decide
  obtain ⟨hparse, -, hchooses⟩ := plain_key_chooses hkey
  obtain ⟨seeded, t, -, -, -, hfound⟩ := hchooses hpair hostSetting 1 (.string "closed")
    (.string "open") { probes := () }
  obtain ⟨u, hconsult⟩ : ∃ u,
      consult hostSetting (descendWithin hostSetting 1) "@shop.slots" ["12:30"] t =
        (.ok (some (.array [.string "09:00", .string "12:30"])), u) := ⟨_, Prod.ext rfl rfl⟩
  obtain ⟨selection, w, -, hresolve, hshown, -⟩ := hfound _ _ hconsult
  have hselection := hshown _ rfl ⟨.string "12:30", by simp, rfl⟩
  refine ⟨t, u, selection, w, hkey, hpair, hparse.mpr hpair, hconsult, hresolve, ?_⟩
  rw [hselection]
  rfl

/-- Two colons in a row: the text stands at the address, but the key is read as a call, so the
rule comes to its fallback. -/
theorem not_chosen_of_pair : ∃ (r : Value) (u w : State Unit),
    IsPlainKey "@net.host" "fe80::1" ∧
    Criterion.parse (plainKey "@net.host" "fe80::1") = [.malformed "@net.host:fe80" "1"] ∧
    consult hostSetting (descendWithin hostSetting 1) "@net.host" ["fe80::1"] { probes := () } =
      (.ok (some (.string "fe80::1")), u) ∧
    (Value.string "fe80::1").Shows "fe80::1" ∧
    resolveWithin hostSetting 1
        (.object (plainRule "@net.host" "fe80::1" (.string "other") (.string "local")))
        { probes := () } = (.ok r, w) ∧
      r.string? = some "other" := by
  have hkey : IsPlainKey "@net.host" "fe80::1" := by decide +kernel
  have hparse : Criterion.parse (plainKey "@net.host" "fe80::1") =
      [.malformed "@net.host:fe80" "1"] := by decide +kernel
  have hother : (resolveWithin hostSetting 1
      (.object (plainRule "@net.host" "fe80::1" (.string "other") (.string "local")))
      { probes := () }).1.toOption.bind Value.string? = some "other" := by
    decide +kernel
  obtain ⟨r, hrun⟩ := exists_of_isOk (m := resolveWithin hostSetting 1
      (.object (plainRule "@net.host" "fe80::1" (.string "other") (.string "local"))))
    (s := { probes := () }) (by decide +kernel)
  rw [hrun] at hother
  obtain ⟨u, hconsult⟩ : ∃ u,
      consult hostSetting (descendWithin hostSetting 1) "@net.host" ["fe80::1"] { probes := () } =
        (.ok (some (.string "fe80::1")), u) := ⟨_, Prod.ext rfl rfl⟩
  have hshows : (Value.string "fe80::1").Shows "fe80::1" := rfl
  exact ⟨r, u, _, hkey, hparse, hconsult, hshows, hrun, hother⟩

end Resolution
end RuleTemplate
