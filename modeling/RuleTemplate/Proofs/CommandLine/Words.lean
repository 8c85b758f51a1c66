import RuleTemplate.CommandLine.Configuration

/-!
Command lines in two parts. The first part is complete if an option may stand after it: every
option in it has its value, and nothing in it ends the options. Whatever follows, a complete part
comes to a configuration from which the rest is read, or to an error.
-/
namespace RuleTemplate.CommandLine

namespace ValueOption

def joined (o : ValueOption) (value : String) : String := o.name ++ "=" ++ value

/-- What the word of an option and its value holds as the value: what follows all copies of the
name and the equals sign. -/
def held (o : ValueOption) (value : String) : String :=
  String.ofList (Text.dropCopies o.lead value.toList)

theorem toList_joined (o : ValueOption) (value : String) :
    (o.joined value).toList = o.lead ++ value.toList := by
  simp [joined, lead]

theorem lead_ne_nil (o : ValueOption) : o.lead ≠ [] := by
  simp [lead]

/-- The beginning of one option's word is not that of another one's. -/
theorem eq_of_lead_opens {o other : ValueOption} (h : o.lead <+: other.lead) : o = other := by
  cases o <;> cases other <;> revert h <;> decide

theorem eq_of_lead_isPrefixOf {o other : ValueOption} {text : List Char}
    (h : other.lead.isPrefixOf (o.lead ++ text) = true) : other = o := by
  rcases List.prefix_or_prefix_of_prefix (List.isPrefixOf_iff_prefix.mp h)
    (List.prefix_append o.lead text) with hother | ho
  · exact eq_of_lead_opens hother
  · exact (eq_of_lead_opens ho).symm

end ValueOption

namespace Word

open ValueOption

theorem head?_of_mem_table {word : String} (h : word ∈ Entries.keys table) :
    word.toList.head? = some '-' := by
  revert word
  decide

theorem equals_notMem_of_mem_table {word : String} (h : word ∈ Entries.keys table) :
    '=' ∉ word.toList := by
  revert word
  decide

theorem ofText_name (o : ValueOption) : ofText o.name = option o := by
  cases o <;> decide

theorem ofText_joined (o : ValueOption) (value : String) :
    ofText (o.joined value) = assignment o (o.held value) := by
  have hkey : o.joined value ∉ Entries.keys table := by
    intro hmem
    refine equals_notMem_of_mem_table hmem ?_
    simp [toList_joined, lead]
  have hown : o.assigned? (o.joined value).toList = some (o.held value) := by
    rw [toList_joined, assigned?, if_pos (by simp), Text.dropCopies_append o.lead_ne_nil, held]
  have hothers (other : ValueOption) (hother : other ≠ o) :
      other.assigned? (o.joined value).toList = none := by
    rw [toList_joined, assigned?, if_neg fun h => hother (eq_of_lead_isPrefixOf h)]
  have hfound : assignment? (o.joined value).toList = some (assignment o (o.held value)) := by
    cases o <;> simp [assignment?, all, hown, hothers]
  rw [ofText, Entries.get?_eq_none.mpr hkey, hfound]

/-- A word that does not begin with a dash is a file. -/
theorem ofText_of_head {text : String} (h : text.toList.head? ≠ some '-') :
    ofText text = positional := by
  have hkey : text ∉ Entries.keys table := fun hmem => h (head?_of_mem_table hmem)
  have hassigned (o : ValueOption) : o.assigned? text.toList = none := by
    refine if_neg fun hlead => h ?_
    obtain ⟨rest, hrest⟩ := List.isPrefixOf_iff_prefix.mp hlead
    rw [← hrest]
    cases o <;> rfl
  have hnone : assignment? text.toList = none := by simp [assignment?, hassigned]
  rw [ofText, Entries.get?_eq_none.mpr hkey, hnone, if_neg h]

def isSelfContained : Word → Bool
  | switch _ | assignment _ _ | unknown | positional => true
  | help | version | option _ | separator => false

end Word

/-- An option may stand after these words. -/
inductive Complete : List String → Prop
  | nil : Complete []
  | word {text : String} {rest : List String} :
      (Word.ofText text).isSelfContained = true → Complete rest → Complete (text :: rest)
  | option {text value : String} {o : ValueOption} {rest : List String} :
      Word.ofText text = .option o → Complete rest → Complete (text :: value :: rest)

/-- At the end of the words the configuration is what is asked for. -/
theorem bind_parseFrom_nil (result : Except ArgumentError Configuration) :
    result.bind (parseFrom · []) = result.map .resolve := by
  cases result <;> rfl

theorem parseFrom_switch {text : String} {s : Switch} (h : Word.ofText text = .switch s)
    (c : Configuration) (rest : List String) :
    parseFrom c (text :: rest) = parseFrom (c.apply s) rest := by
  simp only [parseFrom.eq_def c, h]

theorem parseFrom_assignment {text value : String} {o : ValueOption}
    (h : Word.ofText text = .assignment o value) (c : Configuration) (rest : List String) :
    parseFrom c (text :: rest) = (c.set o value).bind (parseFrom · rest) := by
  simp only [parseFrom.eq_def c, h]
  cases c.set o value <;> rfl

theorem parseFrom_option {text : String} {o : ValueOption} (h : Word.ofText text = .option o)
    (c : Configuration) (value : String) (rest : List String) :
    parseFrom c (text :: value :: rest) = (c.set o value).bind (parseFrom · rest) := by
  simp only [parseFrom.eq_def c, h]
  cases c.set o value <;> rfl

theorem parseFrom_positional {text : String} (h : Word.ofText text = .positional)
    (c : Configuration) (rest : List String) :
    parseFrom c (text :: rest) = (c.take text).bind (parseFrom · rest) := by
  simp only [parseFrom.eq_def c, h]
  cases c.take text <;> rfl

theorem parseFrom_unknown {text : String} (h : Word.ofText text = .unknown) (c : Configuration)
    (rest : List String) : parseFrom c (text :: rest) = .error (.unknownOption text) := by
  simp only [parseFrom.eq_def c, h]

theorem parseFrom_separator_nil {text : String} (h : Word.ofText text = .separator)
    (c : Configuration) : parseFrom c [text] = parseFrom c [] := by
  simp only [parseFrom.eq_def c, h]

theorem parseFrom_separator_cons {text : String} (h : Word.ofText text = .separator)
    (c : Configuration) (file : String) (rest : List String) :
    parseFrom c (text :: file :: rest) = (c.take file).bind (parseFrom · []) := by
  simp only [parseFrom.eq_def c, h, bind_parseFrom_nil]

/-- A word that stands for itself comes to a configuration or to an error, whatever follows. -/
theorem exists_result_of_isSelfContained {text : String}
    (h : (Word.ofText text).isSelfContained = true) (c : Configuration) :
    ∃ result : Except ArgumentError Configuration, ∀ rest,
      parseFrom c (text :: rest) = result.bind (parseFrom · rest) := by
  cases hword : Word.ofText text with
  | switch s => exact ⟨.ok (c.apply s), parseFrom_switch hword c⟩
  | assignment o value => exact ⟨c.set o value, parseFrom_assignment hword c⟩
  | positional => exact ⟨c.take text, parseFrom_positional hword c⟩
  | unknown => exact ⟨.error (.unknownOption text), parseFrom_unknown hword c⟩
  | _ => simp [hword, Word.isSelfContained] at h

/-- Complete words come to a configuration or to an error, whatever follows. -/
theorem Complete.exists_result {front : List String} (h : Complete front) (c : Configuration) :
    ∃ result : Except ArgumentError Configuration, ∀ back,
      parseFrom c (front ++ back) = result.bind (parseFrom · back) := by
  -- the part read first comes to an error, which stays, or to a configuration to go on from
  have hfurther (first : Except ArgumentError Configuration) {rest : List String}
      (ih : ∀ d, ∃ result : Except ArgumentError Configuration, ∀ back,
        parseFrom d (rest ++ back) = result.bind (parseFrom · back)) :
      ∃ result : Except ArgumentError Configuration, ∀ back,
        first.bind (parseFrom · (rest ++ back)) = result.bind (parseFrom · back) := by
    cases first with
    | ok d => exact ih d
    | error e => exact ⟨.error e, fun _ => rfl⟩
  induction h generalizing c with
  | nil => exact ⟨.ok c, fun _ => rfl⟩
  | word hword _ ih =>
    obtain ⟨first, hfirst⟩ := exists_result_of_isSelfContained hword c
    simpa only [List.cons_append, hfirst] using hfurther first ih
  | option hword _ ih =>
    simpa only [List.cons_append, parseFrom_option hword] using hfurther (c.set _ _) ih

/-- Complete words are in error for good, or the words after them are read from what they come
to. -/
theorem Complete.error_or_reads {front : List String} (h : Complete front) :
    (∃ e, parse front = .error e ∧ ∀ back, parse (front ++ back) = .error e) ∨
    ∃ c, parse front = .ok (.resolve c) ∧ ∀ back, parse (front ++ back) = parseFrom c back := by
  obtain ⟨result, hresult⟩ := h.exists_result {}
  have hend := hresult []
  rw [List.append_nil, bind_parseFrom_nil] at hend
  cases result with
  | error e => exact .inl ⟨e, hend, hresult⟩
  | ok c => exact .inr ⟨c, hend, hresult⟩

end RuleTemplate.CommandLine
