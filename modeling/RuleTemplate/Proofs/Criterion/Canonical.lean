import Mathlib.Data.List.TakeWhile
import RuleTemplate.Criterion

/-!
Parsing and displaying criteria agree. The words of a key are found again however many blanks
stand between them, and what a clause displays is parsed to that clause, so the displayed form
of a criterion is a canonical one. It is the text that was parsed, unless the clause is a call
some argument of which has no colon.
-/
namespace RuleTemplate

namespace CallSpec

structure Signature where
  name : List Char
  args : List Char
  property : List Char
  matcher : List Char
  name_ne_nil : name ≠ []
  name_word : ∀ c ∈ name, Text.isWordChar c = true
  bracket_notMem_args : ']' ∉ args
  colon_notMem_property : ':' ∉ property

namespace Signature

def text (sig : Signature) : List Char :=
  sig.name ++ '[' :: (sig.args ++ ']' :: (sig.property ++ ':' :: sig.matcher))

def spec (sig : Signature) : CallSpec where
  name := String.ofList sig.name
  args := parseArgs sig.args
  property := String.ofList sig.property
  matcher := String.ofList sig.matcher

end Signature

theorem parse?_text (sig : Signature) : parse? sig.text = some sig.spec := by
  have htake : sig.text.takeWhile Text.isWordChar = sig.name := by
    rw [Signature.text, List.takeWhile_append_of_pos sig.name_word]
    simp [Text.isWordChar_bracket]
  have hdrop : sig.text.dropWhile Text.isWordChar =
      '[' :: (sig.args ++ ']' :: (sig.property ++ ':' :: sig.matcher)) := by
    rw [Signature.text, List.dropWhile_append_of_pos sig.name_word]
    simp [Text.isWordChar_bracket]
  have hargs : Text.cut ']' (sig.args ++ ']' :: (sig.property ++ ':' :: sig.matcher)) =
      some (sig.args, sig.property ++ ':' :: sig.matcher) :=
    Text.cut_eq_some.mpr ⟨rfl, sig.bracket_notMem_args⟩
  have hproperty : Text.cut ':' (sig.property ++ ':' :: sig.matcher) =
      some (sig.property, sig.matcher) := Text.cut_eq_some.mpr ⟨rfl, sig.colon_notMem_property⟩
  simp [parse?, htake, hdrop, sig.name_ne_nil, hargs, hproperty, Signature.spec]

/-- The signatures that are parsed are the written ones. -/
theorem parse?_eq_some_iff {text : List Char} {spec : CallSpec} :
    parse? text = some spec ↔ ∃ sig : Signature, sig.text = text ∧ sig.spec = spec := by
  constructor
  · intro h
    have htext := List.takeWhile_append_dropWhile (p := Text.isWordChar) (l := text)
    unfold parse? at h
    split at h
    · next rest hdrop =>
      by_cases hname : text.takeWhile Text.isWordChar = []
      · simp [hname] at h
      · simp only [hname, ite_false, Option.bind_eq_bind, Option.bind_eq_some_iff] at h
        obtain ⟨⟨args, tail⟩, hargs, ⟨property, matcher⟩, hproperty, hspec⟩ := h
        obtain ⟨rfl, hopen⟩ := Text.cut_eq_some.mp hargs
        obtain ⟨rfl, hcolon⟩ := Text.cut_eq_some.mp hproperty
        refine ⟨⟨text.takeWhile Text.isWordChar, args, property, matcher, hname,
          fun c hc => List.mem_takeWhile_imp hc, hopen, hcolon⟩, ?_, Option.some.inj hspec⟩
        rw [Signature.text, ← hdrop, htext]
    · simp at h
  · rintro ⟨sig, rfl, rfl⟩
    exact parse?_text sig

def argText (arg : String × String) : List Char := arg.1.toList ++ ':' :: arg.2.toList

theorem toList_displayArgs (args : List (String × String)) :
    (displayArgs args).toList = [','].intercalate (args.map argText) := by
  have htext : (String.toList ∘ fun arg => arg.1 ++ ":" ++ arg.2) = argText := by
    funext arg
    simp [argText]
  simp [displayArgs, htext]

theorem parseArg_argText {arg : String × String} (h : ':' ∉ arg.1.toList) :
    parseArg (argText arg) = arg := by
  have hcut : Text.cut ':' (argText arg) = some (arg.1.toList, arg.2.toList) :=
    Text.cut_eq_some.mpr ⟨rfl, h⟩
  simp [parseArg, hcut]

/-- A piece without a colon gets one when it is displayed. -/
theorem argText_parseArg (piece : List Char) :
    argText (parseArg piece) = if ':' ∈ piece then piece else piece ++ [':'] := by
  unfold parseArg
  cases hcut : Text.cut ':' piece with
  | none =>
    rw [if_neg (Text.cut_eq_none.mp hcut)]
    simp [argText]
  | some parts =>
    obtain ⟨rfl, -⟩ := Text.cut_eq_some.mp hcut
    simp [argText]

/-- An argument that is found again where it is displayed between others. -/
structure Separable (arg : String × String) : Prop where
  colon : ':' ∉ arg.1.toList
  comma : ',' ∉ argText arg

theorem parseArgs_displayArgs {args : List (String × String)}
    (h : ∀ arg ∈ args, Separable arg) : parseArgs (displayArgs args).toList = args := by
  rw [toList_displayArgs]
  cases args with
  | nil => rfl
  | cons first rest =>
    have hsplit : ([','].intercalate ((first :: rest).map argText)).splitOn ',' =
        (first :: rest).map argText := by
      refine List.splitOn_intercalate ',' ?_ (by simp)
      simp only [List.forall_mem_map]
      exact fun arg harg => (h arg harg).comma
    have hfull : ∀ piece ∈ (first :: rest).map argText, decide (piece ≠ []) = true := by
      simp only [List.forall_mem_map, decide_eq_true_eq]
      exact fun arg _ => List.append_ne_nil_of_right_ne_nil _ (List.cons_ne_nil ':' _)
    rw [parseArgs, hsplit, List.filter_eq_self.mpr hfull, List.map_map]
    have hback : ∀ arg ∈ first :: rest, (parseArg ∘ argText) arg = id arg :=
      fun arg harg => parseArg_argText (h arg harg).colon
    rw [List.map_congr_left hback, List.map_id]

/-- An argument that is parsed holds no other characters than its piece, and a colon. -/
theorem of_mem_parseArgs {text : List Char} {arg : String × String} (h : arg ∈ parseArgs text) :
    Separable arg ∧ ∀ c ∈ argText arg, c ∈ text ∨ c = ':' := by
  obtain ⟨piece, hpiece, rfl⟩ := List.mem_map.mp h
  obtain ⟨hcomma, htext⟩ := Text.of_mem_splitOn (List.mem_filter.mp hpiece).1
  have hchars : ∀ c ∈ argText (parseArg piece), c ∈ piece ∨ c = ':' := by
    intro c hc
    rw [argText_parseArg] at hc
    split at hc
    · exact Or.inl hc
    · simpa using hc
  refine ⟨⟨?_, fun hc => ?_⟩, fun c hc => (hchars c hc).imp_left (htext c)⟩
  · unfold parseArg
    cases hcut : Text.cut ':' piece with
    | none => simpa using Text.cut_eq_none.mp hcut
    | some parts => simpa using (Text.cut_eq_some.mp hcut).2
  · rcases hchars ',' hc with hmem | hcolon
    · exact hcomma hmem
    · exact absurd hcolon (by decide)

theorem of_mem_displayArgs_parseArgs {text : List Char} {c : Char}
    (h : c ∈ (displayArgs (parseArgs text)).toList) : c ∈ text ∨ c = ':' ∨ c = ',' := by
  rw [toList_displayArgs] at h
  rcases Text.of_mem_intercalate h with hsep | ⟨piece, hpiece, hc⟩
  · exact Or.inr (Or.inr (List.mem_singleton.mp hsep))
  · obtain ⟨arg, harg, rfl⟩ := List.mem_map.mp hpiece
    exact ((of_mem_parseArgs harg).2 c hc).imp_right Or.inl

theorem parseArgs_displayArgs_parseArgs (text : List Char) :
    parseArgs (displayArgs (parseArgs text)).toList = parseArgs text :=
  parseArgs_displayArgs fun _ harg => (of_mem_parseArgs harg).1

/-- The signature with its arguments as they are displayed. They stand where the written ones
stood, because they hold no closing bracket either. -/
def Signature.displayed (sig : Signature) : Signature where
  name := sig.name
  args := (displayArgs (parseArgs sig.args)).toList
  property := sig.property
  matcher := sig.matcher
  name_ne_nil := sig.name_ne_nil
  name_word := sig.name_word
  bracket_notMem_args h := by
    rcases of_mem_displayArgs_parseArgs h with hmem | hcolon | hcomma
    · exact sig.bracket_notMem_args hmem
    · exact absurd hcolon (by decide)
    · exact absurd hcomma (by decide)
  colon_notMem_property := sig.colon_notMem_property

theorem Signature.spec_displayed (sig : Signature) : sig.displayed.spec = sig.spec := by
  simp only [spec, displayed, parseArgs_displayArgs_parseArgs]

/-- Arguments are displayed as they were written if there were none, or if each piece between
commas, the empty ones too, had a colon. -/
theorem displayArgs_parseArgs_eq_iff {text : List Char} :
    (displayArgs (parseArgs text)).toList = text ↔
      text = [] ∨ ∀ piece ∈ text.splitOn ',', ':' ∈ piece := by
  rw [toList_displayArgs]
  constructor
  · intro h
    cases hargs : parseArgs text with
    | nil =>
      rw [hargs] at h
      exact Or.inl h.symm
    | cons first rest =>
      right
      have hcomma : ∀ piece ∈ (parseArgs text).map argText, ',' ∉ piece := by
        simp only [List.forall_mem_map]
        exact fun arg harg => (of_mem_parseArgs harg).1.comma
      have hsplit := List.splitOn_intercalate ',' hcomma (by simp [hargs])
      rw [h] at hsplit
      rw [hsplit]
      simp only [List.forall_mem_map]
      exact fun arg _ => List.mem_append_right _ List.mem_cons_self
  · rintro (rfl | hcolon)
    · rfl
    · have hfull : ∀ piece ∈ text.splitOn ',', decide (piece ≠ []) = true := by
        intro piece hpiece
        simpa using List.ne_nil_of_mem (hcolon piece hpiece)
      have hback : ∀ piece ∈ text.splitOn ',', (argText ∘ parseArg) piece = id piece := by
        intro piece hpiece
        exact (argText_parseArg piece).trans (if_pos (hcolon piece hpiece))
      rw [parseArgs, List.filter_eq_self.mpr hfull, List.map_map, List.map_congr_left hback,
        List.map_id, List.intercalate_splitOn]

theorem Signature.text_displayed_eq_iff {sig : Signature} :
    sig.displayed.text = sig.text ↔
      sig.args = [] ∨ ∀ piece ∈ sig.args.splitOn ',', ':' ∈ piece := by
  rw [← displayArgs_parseArgs_eq_iff]
  simp [text, displayed]

end CallSpec

namespace Clause

structure IsCallText (text target : List Char) (sig : CallSpec.Signature) : Prop where
  text_eq : text = target ++ ':' :: ':' :: sig.text
  pair_notMem_target : ¬[':', ':'] <:+: target ++ [':']

theorem parse_of_isCallText {text target : List Char} {sig : CallSpec.Signature}
    (h : IsCallText text target sig) : parse text = call (String.ofList target) sig.spec := by
  rw [parse, h.text_eq, Text.cutPair_append h.pair_notMem_target]
  simp [CallSpec.parse?_text]

theorem display_parse_of_isCallText {text target : List Char} {sig : CallSpec.Signature}
    (h : IsCallText text target sig) :
    (parse text).display.toList = target ++ ':' :: ':' :: sig.displayed.text := by
  rw [parse_of_isCallText h]
  simp [display, CallSpec.display, CallSpec.Signature.spec, CallSpec.Signature.displayed,
    CallSpec.Signature.text]

/-- Every text is that of a call clause or is displayed as it is. -/
theorem isCallText_or_display_parse (text : List Char) :
    (∃ target sig, IsCallText text target sig) ∨
      (∀ target spec, parse text ≠ call target spec) ∧ (parse text).display.toList = text := by
  unfold parse
  cases hpair : Text.cutPair ':' ':' text with
  | some parts =>
    obtain ⟨target, signature⟩ := parts
    obtain ⟨htext, htarget⟩ := Text.cutPair_eq_some.mp hpair
    cases hspec : CallSpec.parse? signature with
    | some spec =>
      obtain ⟨sig, rfl, -⟩ := CallSpec.parse?_eq_some_iff.mp hspec
      exact Or.inl ⟨target, sig, htext, htarget⟩
    | none =>
      right
      simp [hspec, display, htext]
  | none =>
    right
    cases hcut : Text.cut ':' text with
    | some parts =>
      obtain ⟨htext, -⟩ := Text.cut_eq_some.mp hcut
      have hvalues := Text.intercalate_splitPair '|' '|' parts.2
      simpa [display, htext] using hvalues
    | none => simp [display]

/-- A clause displays as the text that it was parsed from, unless it is a call with an argument
that has no colon. -/
theorem display_parse_eq_iff {text : List Char} :
    (parse text).display = String.ofList text ↔
      (∀ target spec, parse text ≠ call target spec) ∨
      ∃ target sig, IsCallText text target sig ∧
        (sig.args = [] ∨ ∀ piece ∈ sig.args.splitOn ',', ':' ∈ piece) := by
  rw [← String.toList_inj, String.toList_ofList]
  constructor
  · intro h
    rcases isCallText_or_display_parse text with ⟨target, sig, hcall⟩ | hother
    · right
      rw [display_parse_of_isCallText hcall, hcall.text_eq] at h
      have hsame : sig.displayed.text = sig.text := by simpa using h
      exact ⟨target, sig, hcall, CallSpec.Signature.text_displayed_eq_iff.mp hsame⟩
    · exact Or.inl hother.1
  · rintro (hother | ⟨target, sig, hcall, hargs⟩)
    · rcases isCallText_or_display_parse text with ⟨target, sig, hcall⟩ | ⟨-, hsame⟩
      · exact absurd (parse_of_isCallText hcall) (hother _ _)
      · exact hsame
    · rw [display_parse_of_isCallText hcall, hcall.text_eq,
        CallSpec.Signature.text_displayed_eq_iff.mpr hargs]

/-- The displayed form of a clause is parsed to the clause. -/
theorem parse_display_parse (text : List Char) :
    parse (parse text).display.toList = parse text := by
  rcases isCallText_or_display_parse text with ⟨target, sig, hcall⟩ | ⟨-, hsame⟩
  · have hcall' : IsCallText (parse text).display.toList target sig.displayed :=
      ⟨display_parse_of_isCallText hcall, hcall.pair_notMem_target⟩
    calc parse (parse text).display.toList
        = call (String.ofList target) sig.displayed.spec := parse_of_isCallText hcall'
      _ = call (String.ofList target) sig.spec := by rw [sig.spec_displayed]
      _ = parse text := (parse_of_isCallText hcall).symm
  · rw [hsame]

theorem of_mem_display_parse {text : List Char} {c : Char}
    (h : c ∈ (parse text).display.toList) : c ∈ text ∨ c = ':' ∨ c = ',' := by
  rcases isCallText_or_display_parse text with ⟨target, sig, hcall⟩ | ⟨-, hsame⟩
  · rw [display_parse_of_isCallText hcall] at h
    rw [hcall.text_eq]
    simp only [CallSpec.Signature.text, CallSpec.Signature.displayed, List.mem_append,
      List.mem_cons] at h ⊢
    have hargs : c ∈ (CallSpec.displayArgs (CallSpec.parseArgs sig.args)).toList → _ :=
      CallSpec.of_mem_displayArgs_parseArgs
    grind
  · rw [hsame] at h
    exact Or.inl h

theorem display_parse_ne_nil {text : List Char} (h : text ≠ []) :
    (parse text).display.toList ≠ [] := by
  rcases isCallText_or_display_parse text with ⟨target, sig, hcall⟩ | ⟨-, hsame⟩
  · rw [display_parse_of_isCallText hcall]
    simp
  · rwa [hsame]

end Clause

namespace Criterion

structure IsWord (word : List Char) : Prop where
  ne_nil : word ≠ []
  not_blank : ∀ c ∈ word, Text.isBlank c = false

/-- Words, each with the blanks after it. Only after the last one there may be none. -/
structure IsSpaced (spaced : List (List Char × List Char)) : Prop where
  word : ∀ part ∈ spaced, IsWord part.1
  blank : ∀ part ∈ spaced, ∀ c ∈ part.2, Text.isBlank c = true
  apart : ∀ part ∈ spaced.dropLast, part.2 ≠ []

theorem isWord_iff {word : List Char} :
    IsWord word ↔ word ≠ [] ∧ (word.all fun c => !Text.isBlank c) = true := by
  simp only [List.all_eq_true, Bool.not_eq_true']
  exact ⟨fun h => ⟨h.ne_nil, h.not_blank⟩, fun h => ⟨h.1, h.2⟩⟩

instance : DecidablePred IsWord := fun _ => decidable_of_iff _ isWord_iff.symm

theorem isSpaced_iff {spaced : List (List Char × List Char)} :
    IsSpaced spaced ↔ (spaced.all fun part => IsWord part.1) = true ∧
      (spaced.all fun part => part.2.all Text.isBlank) = true ∧
      (spaced.dropLast.all fun part => part.2 ≠ []) = true := by
  simp only [List.all_eq_true, decide_eq_true_eq]
  exact ⟨fun h => ⟨h.word, h.blank, h.apart⟩, fun h => ⟨h.1, h.2.1, h.2.2⟩⟩

instance : DecidablePred IsSpaced := fun _ => decidable_of_iff _ isSpaced_iff.symm

theorem words_blank_append {lead : List Char} (hlead : ∀ c ∈ lead, Text.isBlank c = true)
    (text : List Char) : words (lead ++ text) = words text := by
  induction lead with
  | nil => rfl
  | cons c rest ih =>
    have hc : Text.isBlank c = true := hlead c List.mem_cons_self
    rw [List.cons_append, words, List.splitOnP_cons_eq_if_modifyHead, if_pos hc]
    exact ih fun d hd => hlead d (List.mem_cons_of_mem _ hd)

theorem words_of_isWord {word : List Char} (h : IsWord word) : words word = [word] := by
  rw [words, List.splitOnP_eq_singleton h.not_blank]
  simp [h.ne_nil]

theorem words_append_blank {word : List Char} (h : IsWord word) {c : Char}
    (hc : Text.isBlank c = true) (rest : List Char) :
    words (word ++ c :: rest) = word :: words rest := by
  rw [words, List.splitOnP_append_cons_of_forall_mem h.not_blank c hc]
  simp [h.ne_nil, words]

theorem isWord_of_mem_words {text word : List Char} (h : word ∈ words text) : IsWord word := by
  obtain ⟨hpiece, hne⟩ := List.mem_filter.mp h
  exact ⟨by simpa using hne, fun c hc => (Text.of_mem_splitOnP hpiece c hc).2⟩

/-- The words of a key do not depend on the blanks between them and around them. -/
theorem words_spaced {lead : List Char} (hlead : ∀ c ∈ lead, Text.isBlank c = true)
    {spaced : List (List Char × List Char)} (h : IsSpaced spaced) :
    words (lead ++ spaced.flatMap fun part => part.1 ++ part.2) = spaced.map Prod.fst := by
  rw [words_blank_append hlead]
  induction spaced with
  | nil => rfl
  | cons part rest ih =>
    obtain ⟨word, gap⟩ := part
    have hword : IsWord word := h.word _ List.mem_cons_self
    have hgap : ∀ c ∈ gap, Text.isBlank c = true := h.blank _ List.mem_cons_self
    rw [List.flatMap_cons, List.map_cons, List.append_assoc]
    cases rest with
    | nil =>
      cases gap with
      | nil => simpa using words_of_isWord hword
      | cons c others =>
        rw [List.cons_append, words_append_blank hword (hgap c List.mem_cons_self),
          words_blank_append fun d hd => hgap d (List.mem_cons_of_mem _ hd)]
        rfl
    | cons next others =>
      have hrest : IsSpaced (next :: others) :=
        ⟨fun p hp => h.word p (List.mem_cons_of_mem _ hp),
          fun p hp => h.blank p (List.mem_cons_of_mem _ hp),
          fun p hp => h.apart p (by simpa using Or.inr hp)⟩
      obtain ⟨c, blanks, rfl⟩ := List.exists_cons_of_ne_nil (h.apart (word, gap) (by simp))
      rw [List.cons_append, words_append_blank hword (hgap c List.mem_cons_self),
        words_blank_append fun d hd => hgap d (List.mem_cons_of_mem _ hd), ih hrest]

theorem words_intercalate {ws : List (List Char)} (h : ∀ word ∈ ws, IsWord word) :
    words ([' '].intercalate ws) = ws := by
  induction ws with
  | nil => rfl
  | cons word rest ih =>
    have hword : IsWord word := h word List.mem_cons_self
    cases rest with
    | nil => simpa using words_of_isWord hword
    | cons next others =>
      have hrest := ih fun w hw => h w (List.mem_cons_of_mem _ hw)
      rw [List.intercalate_cons_cons, List.append_assoc, List.singleton_append,
        words_append_blank hword Text.isBlank_space, hrest]

theorem isWord_display_parse {word : List Char} (h : IsWord word) :
    IsWord (Clause.parse word).display.toList := by
  refine ⟨Clause.display_parse_ne_nil h.ne_nil, fun c hc => ?_⟩
  rcases Clause.of_mem_display_parse hc with hmem | rfl | rfl
  · exact h.not_blank c hmem
  · exact Text.isBlank_colon
  · decide

theorem toList_display (criterion : Criterion) :
    (display criterion).toList = [' '].intercalate (criterion.map fun c => c.display.toList) := by
  simp [display, Function.comp_def]

/-- The displayed form of a criterion has the displayed forms of its clauses for words. -/
theorem parse_display_parse (key : String) : parse (display (parse key)) = parse key := by
  have hwords : words (display (parse key)).toList =
      (words key.toList).map fun word => (Clause.parse word).display.toList := by
    rw [toList_display, parse, List.map_map]
    refine words_intercalate ?_
    simp only [List.forall_mem_map, Function.comp_apply]
    exact fun word hword => isWord_display_parse (isWord_of_mem_words hword)
  rw [parse, hwords, List.map_map, parse]
  exact List.map_congr_left fun word _ => Clause.parse_display_parse word

/-- What a parsed criterion displays is parsed to the same criterion, so keys with the same
criterion are those with the same displayed form. The blanks between the clauses and around them
do not matter. A single clause displays as the text that was parsed if and only if it is no call,
or it is a call without arguments or with a colon in each piece between the commas. -/
theorem parse_display_canonical :
    (∀ key : String, parse (display (parse key)) = parse key) ∧
    (∀ key other : String,
      display (parse key) = display (parse other) ↔ parse key = parse other) ∧
    (∀ (lead : List Char) (spaced : List (List Char × List Char)),
      (∀ c ∈ lead, Text.isBlank c = true) → IsSpaced spaced →
      parse (String.ofList (lead ++ spaced.flatMap fun part => part.1 ++ part.2)) =
        spaced.map fun part => Clause.parse part.1) ∧
    (∀ text : List Char, (Clause.parse text).display = String.ofList text ↔
      (∀ target spec, Clause.parse text ≠ .call target spec) ∨
      ∃ target sig, Clause.IsCallText text target sig ∧
        (sig.args = [] ∨ ∀ piece ∈ sig.args.splitOn ',', ':' ∈ piece)) := by
  refine ⟨parse_display_parse, fun key other => ⟨fun h => ?_, congrArg display⟩,
    fun lead spaced hlead hspaced => ?_, fun text => Clause.display_parse_eq_iff⟩
  · calc parse key = parse (display (parse key)) := (parse_display_parse key).symm
      _ = parse (display (parse other)) := by rw [h]
      _ = parse other := parse_display_parse other
  · rw [parse, String.toList_ofList, words_spaced hlead hspaced, List.map_map]
    rfl

theorem parse_display_canonical_loose :
    parse (String.ofList ([' '] ++ [("@a".toList, ['\t', '\u2003']),
        ("@b::f[k]:v".toList, [])].flatMap fun part => part.1 ++ part.2)) =
      [.bare "@a", .call "@b" ⟨"f", [("k", "")], "", "v"⟩] ∧
    (Clause.parse "@b::f[k]:v".toList).display = "@b::f[k:]:v" := by
  obtain ⟨-, -, hspaced, -⟩ := parse_display_canonical
  have hlead : ∀ c ∈ [' '], Text.isBlank c = true := by simp [Text.isBlank_space]
  refine ⟨(hspaced _ _ hlead (by decide)).trans ?_, by decide +kernel⟩
  decide +kernel

end Criterion
end RuleTemplate
