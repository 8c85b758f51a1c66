import RuleTemplate.Proofs.Resolution.PlainMatch

/-!
Keys with several texts for one address. Such a key is read as one match clause with the texts for
its alternatives, and it matches if and only if the key with one of them does. The address is
resolved once, whatever the texts are, so the texts decide neither what is captured nor whether
that fails.
-/
namespace RuleTemplate

/-- An address and texts, at least one, that a key joins. A text may be empty. -/
structure IsAlternation (address : String) (texts : List String) : Prop where
  texts_ne_nil : texts ≠ []
  colon_notMem_address : ':' ∉ address.toList
  address_not_blank : ∀ c ∈ address.toList, Text.isBlank c = false
  colon_notMem_text : ∀ text ∈ texts, ':' ∉ text.toList
  bar_notMem_text : ∀ text ∈ texts, '|' ∉ text.toList
  text_not_blank : ∀ text ∈ texts, ∀ c ∈ text.toList, Text.isBlank c = false

theorem isAlternation_iff {address : String} {texts : List String} :
    IsAlternation address texts ↔
      texts.isEmpty = false ∧ address.toList.contains ':' = false ∧
        (address.toList.all fun c => !Text.isBlank c) = true ∧
        (texts.all fun text => text.toList.all fun c =>
          c != ':' && c != '|' && !Text.isBlank c) = true := by
  simp only [List.isEmpty_eq_false_iff, List.contains_eq_mem, decide_eq_false_iff_not,
    List.all_eq_true, Bool.not_eq_true', Bool.and_eq_true, bne_iff_ne]
  constructor
  · refine fun h => ⟨h.texts_ne_nil, h.colon_notMem_address, h.address_not_blank, ?_⟩
    refine fun text htext c hc => ⟨⟨?_, ?_⟩, h.text_not_blank text htext c hc⟩
    · rintro rfl
      exact h.colon_notMem_text text htext hc
    · rintro rfl
      exact h.bar_notMem_text text htext hc
  · rintro ⟨hne, hcolon, haddress, htexts⟩
    exact ⟨hne, hcolon, haddress, fun text htext hc => (htexts text htext ':' hc).1.1 rfl,
      fun text htext hc => (htexts text htext '|' hc).1.2 rfl,
      fun text htext c hc => (htexts text htext c hc).2⟩

instance (address : String) (texts : List String) : Decidable (IsAlternation address texts) :=
  decidable_of_iff _ isAlternation_iff.symm

def alternationKey (address : String) (texts : List String) : String :=
  address ++ ":" ++ "||".intercalate texts

theorem toList_alternationKey (address : String) (texts : List String) :
    (alternationKey address texts).toList =
      address.toList ++ ':' :: ['|', '|'].intercalate (texts.map String.toList) := by
  simp [alternationKey]

namespace IsAlternation

variable {address : String} {texts others : List String}

/-- The same address goes with any of the texts, at least one. -/
theorem of_subset (h : IsAlternation address texts) (hne : others ≠ [])
    (hsubset : ∀ text ∈ others, text ∈ texts) : IsAlternation address others where
  texts_ne_nil := hne
  colon_notMem_address := h.colon_notMem_address
  address_not_blank := h.address_not_blank
  colon_notMem_text text htext := h.colon_notMem_text text (hsubset text htext)
  bar_notMem_text text htext := h.bar_notMem_text text (hsubset text htext)
  text_not_blank text htext := h.text_not_blank text (hsubset text htext)

theorem singleton (h : IsAlternation address texts) {text : String} (htext : text ∈ texts) :
    IsAlternation address [text] :=
  h.of_subset (List.cons_ne_nil text []) fun _ hother => List.mem_singleton.mp hother ▸ htext

/-- A character of the key after the address is the colon, a bar, or one of a text. -/
theorem of_mem_joined {c : Char}
    (hc : c ∈ ['|', '|'].intercalate (texts.map String.toList)) :
    c = '|' ∨ ∃ text ∈ texts, c ∈ text.toList := by
  rcases Text.of_mem_intercalate hc with hbar | ⟨piece, hpiece, hc⟩
  · exact Or.inl (by simpa using hbar)
  · obtain ⟨text, htext, rfl⟩ := List.mem_map.mp hpiece
    exact Or.inr ⟨text, htext, hc⟩

theorem isWord (h : IsAlternation address texts) :
    Criterion.IsWord (alternationKey address texts).toList := by
  rw [toList_alternationKey]
  refine ⟨by simp, fun c hc => ?_⟩
  rcases List.mem_append.mp hc with haddress | hrest
  · exact h.address_not_blank c haddress
  · rcases List.mem_cons.mp hrest with rfl | hjoined
    · exact Text.isBlank_colon
    · rcases of_mem_joined hjoined with rfl | ⟨text, htext, hc⟩
      · decide +kernel
      · exact h.text_not_blank text htext c hc

/-- There is one colon in the key, so no two stand in a row. -/
theorem pair_notMem_joined (h : IsAlternation address texts) :
    ¬[':', ':'] <:+: ':' :: ['|', '|'].intercalate (texts.map String.toList) := by
  have hcolon : ':' ∉ ['|', '|'].intercalate (texts.map String.toList) := by
    intro hmem
    rcases of_mem_joined hmem with hbar | ⟨text, htext, hc⟩
    · exact absurd hbar (by decide)
    · exact h.colon_notMem_text text htext hc
  rw [List.infix_cons_iff]
  rintro (hlead | hlater)
  · rw [List.cons_prefix_cons] at hlead
    exact hcolon (hlead.2.subset List.mem_cons_self)
  · exact hcolon (hlater.subset List.mem_cons_self)

/-- The key is read as one match clause, with the address and the texts. -/
theorem parse_eq (h : IsAlternation address texts) :
    Criterion.parse (alternationKey address texts) = [.oneOf address texts] := by
  have hbar : ∀ piece ∈ texts.map String.toList, '|' ∉ piece := by
    simpa only [List.forall_mem_map] using h.bar_notMem_text
  have hsplit := Text.splitPair_intercalate (b := '|') (mt List.map_eq_nil_iff.mp h.texts_ne_nil)
    hbar
  rw [Criterion.parse, Criterion.words_of_isWord h.isWord, toList_alternationKey,
    List.map_singleton, Clause.parse_match h.colon_notMem_address h.pair_notMem_joined, hsplit]
  simp

end IsAlternation

namespace Resolution

variable {σ : Type}

theorem matchVerdict_eq_matched_iff {texts : List String} {found : Option Value} {parts : Nat}
    {v : Value} : matchVerdict texts found = .matched parts v ↔
      parts = 1 ∧ found = some v ∧ ∃ text ∈ texts, v.Shows text := by
  cases found with
  | none => simp [matchVerdict]
  | some w =>
    rw [matchVerdict_some]
    constructor
    · intro h
      split at h
      · next hw =>
        obtain ⟨rfl, rfl⟩ := Verdict.matched.inj h
        exact ⟨rfl, rfl, Value.exists_shows_iff.mpr hw⟩
      · simp at h
    · rintro ⟨rfl, hfound, hshows⟩
      obtain rfl := Option.some.inj hfound
      rw [if_pos (Value.exists_shows_iff.mp hshows)]

/-- A match clause that stands alone matches or fails. -/
theorem matchVerdict_eq_failed_or (texts : List String) (found : Option Value) :
    matchVerdict texts found = .failed ∨ ∃ v, matchVerdict texts found = .matched 1 v := by
  cases found with
  | none => exact Or.inl rfl
  | some v =>
    rw [matchVerdict_some]
    split
    · exact Or.inr ⟨v, rfl⟩
    · exact Or.inl rfl

/-- The texts count as a set. -/
theorem matchVerdict_congr {texts others : List String}
    (h : ∀ text, text ∈ texts ↔ text ∈ others) : matchVerdict texts = matchVerdict others := by
  funext found
  have hmatched (v : Value) : matchVerdict texts found = .matched 1 v ↔
      matchVerdict others found = .matched 1 v := by
    simp only [matchVerdict_eq_matched_iff, h]
  rcases matchVerdict_eq_failed_or texts found with hfailed | ⟨v, hv⟩
  · rcases matchVerdict_eq_failed_or others found with hfailed' | ⟨v, hv⟩
    · rw [hfailed, hfailed']
    · rw [hv, (hmatched v).mpr hv]
  · rw [hv, (hmatched v).mp hv]

def judgeTexts (S : Setting σ) (levels : Nat) (address : String) (texts : List String) :
    Resolution σ Verdict :=
  judge S (descendWithin S levels) (Criterion.parse (alternationKey address texts))

section Texts

variable {S : Setting σ} {levels : Nat} {address : String} {texts : List String}
  (h : IsAlternation address texts) (s : State σ)
include h

/-- The address is resolved, and what it comes to is compared with the texts. Only the journal
shows which texts these are. -/
theorem judgeTexts_eq : ∃ journal,
    judgeTexts S levels address texts s =
      ((access S (descendWithin S levels) address s).1.map (matchVerdict texts),
        (access S (descendWithin S levels) address s).2.withJournal journal) := by
  have haccess := ((ignoresJournal_invariant S).lockstep.level levels).access address
  obtain ⟨journal, hrun⟩ := haccess.run s (.reached (.oneOf address texts) :: s.journal)
  refine ⟨journal, ?_⟩
  have hnoted : judgeTexts S levels address texts s =
      (matchVerdict texts <$> access S (descendWithin S levels) address)
        (s.withJournal (.reached (.oneOf address texts) :: s.journal)) := by
    rw [judgeTexts, h.parse_eq, judge_oneOf, map_eq_pure_bind]
    rfl
  rw [hnoted, map_eq_pure_bind, bind_apply, hrun]
  cases (access S (descendWithin S levels) address s).1 <;> rfl

theorem judgeTexts_fst : (judgeTexts S levels address texts s).1 =
    (access S (descendWithin S levels) address s).1.map (matchVerdict texts) := by
  obtain ⟨journal, hrun⟩ := judgeTexts_eq h s
  rw [hrun]

theorem judgeTexts_eq_matched_iff {parts : Nat} {v : Value} :
    (judgeTexts S levels address texts s).1 = .ok (.matched parts v) ↔
      parts = 1 ∧ (access S (descendWithin S levels) address s).1 = .ok (some v) ∧
        ∃ text ∈ texts, v.Shows text := by
  rw [judgeTexts_fst h s]
  cases (access S (descendWithin S levels) address s).1 with
  | error e => simp [Except.map]
  | ok found => simp only [Except.map, Except.ok.injEq, matchVerdict_eq_matched_iff]

/-- The texts are no reason for an error. -/
theorem judgeTexts_eq_error_iff {e : DepthExceeded} :
    (judgeTexts S levels address texts s).1 = .error e ↔
      (access S (descendWithin S levels) address s).1 = .error e := by
  rw [judgeTexts_fst h s]
  cases (access S (descendWithin S levels) address s).1 <;> simp [Except.map]

theorem judgeTexts_eq_failed_or {verdict : Verdict}
    (hrun : (judgeTexts S levels address texts s).1 = .ok verdict) :
    verdict = .failed ∨ ∃ v, verdict = .matched 1 v := by
  rw [judgeTexts_fst h s] at hrun
  cases haccess : (access S (descendWithin S levels) address s).1 with
  | error e => simp [haccess, Except.map] at hrun
  | ok found =>
    rw [haccess, Except.map, Except.ok.injEq] at hrun
    exact hrun ▸ matchVerdict_eq_failed_or texts found

end Texts

/-- A key with several texts matches if and only if the key with one of them does, with the same
parts and the same captured value. The parts are one, and the value is all that the address
resolves to, a list included, if that shows one of the texts. The key fails with an error if and
only if the key with any one of the texts does, with the same error, and otherwise it matches or
fails. It leaves the same state as the key with any one text, but for the journal. So only which
texts there are matters, not their order nor how often each one stands, and with more texts a match
stays one. -/
theorem alternation_is_union (S : Setting σ) (levels : Nat) {address : String}
    {texts : List String} (h : IsAlternation address texts) (s : State σ) :
    (∀ parts v, (judgeTexts S levels address texts s).1 = .ok (.matched parts v) ↔
      ∃ text ∈ texts, (judgeTexts S levels address [text] s).1 = .ok (.matched parts v)) ∧
    (∀ parts v, (judgeTexts S levels address texts s).1 = .ok (.matched parts v) ↔
      parts = 1 ∧ (access S (descendWithin S levels) address s).1 = .ok (some v) ∧
        ∃ text ∈ texts, v.Shows text) ∧
    (∀ verdict, (judgeTexts S levels address texts s).1 = .ok verdict →
      verdict = .failed ∨ ∃ v, verdict = .matched 1 v) ∧
    (∀ text ∈ texts, ∀ e, (judgeTexts S levels address texts s).1 = .error e ↔
      (judgeTexts S levels address [text] s).1 = .error e) ∧
    (∀ text ∈ texts, ∃ journal, (judgeTexts S levels address texts s).2 =
      (judgeTexts S levels address [text] s).2.withJournal journal) ∧
    (∀ others, (∀ text, text ∈ others ↔ text ∈ texts) →
      (judgeTexts S levels address others s).1 = (judgeTexts S levels address texts s).1) ∧
    ∀ others, IsAlternation address others → (∀ text ∈ texts, text ∈ others) → ∀ parts v,
      (judgeTexts S levels address texts s).1 = .ok (.matched parts v) →
        (judgeTexts S levels address others s).1 = .ok (.matched parts v) := by
  refine ⟨fun parts v => ?_, fun parts v => judgeTexts_eq_matched_iff h s,
    fun verdict => judgeTexts_eq_failed_or h s, fun text htext e => ?_, fun text htext => ?_,
    fun others hsame => ?_, fun others hothers hsubset parts v hrun => ?_⟩
  · rw [judgeTexts_eq_matched_iff h s]
    constructor
    · rintro ⟨hparts, haccess, text, htext, hshows⟩
      refine ⟨text, htext, (judgeTexts_eq_matched_iff (h.singleton htext) s).mpr ?_⟩
      exact ⟨hparts, haccess, text, List.mem_singleton_self text, hshows⟩
    · rintro ⟨text, htext, hrun⟩
      obtain ⟨hparts, haccess, other, hother, hshows⟩ :=
        (judgeTexts_eq_matched_iff (h.singleton htext) s).mp hrun
      exact ⟨hparts, haccess, text, htext, List.mem_singleton.mp hother ▸ hshows⟩
  · rw [judgeTexts_eq_error_iff h s, judgeTexts_eq_error_iff (h.singleton htext) s]
  · obtain ⟨journal, hrun⟩ := @judgeTexts_eq _ S levels _ _ h s
    obtain ⟨journal', hrun'⟩ := @judgeTexts_eq _ S levels _ _ (h.singleton htext) s
    exact ⟨journal, by rw [hrun, hrun']; rfl⟩
  · obtain ⟨text, htext⟩ := List.exists_mem_of_ne_nil texts h.texts_ne_nil
    have hne : others ≠ [] := List.ne_nil_of_mem ((hsame text).mpr htext)
    have hothers := h.of_subset hne fun other hother => (hsame other).mp hother
    rw [judgeTexts_fst hothers s, judgeTexts_fst h s, matchVerdict_congr hsame]
  · obtain ⟨hparts, haccess, text, htext, hshows⟩ := (judgeTexts_eq_matched_iff h s).mp hrun
    exact (judgeTexts_eq_matched_iff hothers s).mpr
      ⟨hparts, haccess, text, hsubset text htext, hshows⟩

def tagSetting : Setting Unit where
  store := Store.ofRecord [
    ("@post", .object [("tags", .array [.string "red", .null])]),
    ("@page", .object [("tags", .string "@post.tags")])]
  options := {}
  invoke := fun _ _ _ => (.null, ())

/-- A null element shows the text that a null has, and the whole list is captured. An empty text
and one that stands twice change nothing. -/
theorem alternation_is_union_tags :
    IsAlternation "@page.tags" ["blue", "", "null", "blue"] ∧
    (judgeTexts tagSetting 2 "@page.tags" ["null"] { probes := () }).1 =
      .ok (.matched 1 (.array [.string "red", .null])) ∧
    (judgeTexts tagSetting 2 "@page.tags" ["blue", "", "null", "blue"] { probes := () }).1 =
      .ok (.matched 1 (.array [.string "red", .null])) := by
  have hkey : IsAlternation "@page.tags" ["blue", "", "null", "blue"] := by decide +kernel
  have hsingle : (judgeTexts tagSetting 2 "@page.tags" ["null"] { probes := () }).1 =
      .ok (.matched 1 (.array [.string "red", .null])) := by
    refine (judgeTexts_eq_matched_iff (hkey.singleton (by simp)) _).mpr ⟨rfl, rfl, "null", ?_⟩
    exact ⟨List.mem_singleton_self "null", .null, by simp, rfl⟩
  obtain ⟨hunion, -⟩ := alternation_is_union tagSetting 2 hkey { probes := () }
  exact ⟨hkey, hsingle, (hunion 1 _).mpr ⟨"null", by simp, hsingle⟩⟩

end Resolution
end RuleTemplate
