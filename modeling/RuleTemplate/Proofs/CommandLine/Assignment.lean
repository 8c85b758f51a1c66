import RuleTemplate.Proofs.CommandLine.Words

/-!
The two spellings of an option with a value: two words, or one word with an equals sign between
them. They say the same unless the value begins with the name and the equals sign once more. Then
the one word holds only what follows all of these, and the two spellings are not the same.
-/
namespace RuleTemplate

/-- No moment begins with two dashes. -/
theorem Moment.parse?_of_dashes {text : String} (h : ['-', '-'] <+: text.toList) :
    Moment.parse? text = none := by
  obtain ⟨rest, hrest⟩ := h
  have hblank : Text.isBlank '-' = false := by decide
  have hyear : readYear text.toList = none := by
    simp [← hrest, readYear, readYear.unlimited, hblank]
  simp [parse?, hyear]

namespace CommandLine

/-- No depth limit begins with a dash. -/
theorem parseDepth?_of_dash {text : String} (h : ['-'] <+: text.toList) :
    parseDepth? text = none := by
  obtain ⟨rest, hrest⟩ := h
  simp [parseDepth?, Text.unsigned?, ← hrest, Text.dropPlus]

theorem ValueOption.held_eq_iff {o : ValueOption} {value : String} :
    o.held value = value ↔ ¬o.lead <+: value.toList := by
  rw [← List.isPrefixOf_iff_prefix, Bool.not_eq_true]
  constructor
  · intro h
    have hfree := Text.not_isPrefixOf_dropCopies o.lead_ne_nil value.toList
    rwa [← h, held, String.toList_ofList]
  · intro h
    rw [held, Text.dropCopies_of_not_isPrefixOf h, String.ofList_toList]

/-- What is left out of the value shows, in the configuration or in the error. -/
theorem Configuration.set_held_ne {o : ValueOption} {value : String}
    (h : o.lead <+: value.toList) (c : Configuration) : c.set o (o.held value) ≠ c.set o value := by
  have hne : o.held value ≠ value := fun heq => ValueOption.held_eq_iff.mp heq h
  have hdashes : ['-', '-'] <+: value.toList := by
    refine List.IsPrefix.trans ?_ h
    cases o <;> decide
  cases o with
  | template => simp [set, hne]
  | context => simp [set, hne]
  | reference =>
    rw [set, set, Moment.parse?_of_dashes hdashes]
    cases Moment.parse? (ValueOption.reference.held value) <;> simp [hne]
  | maxDepth =>
    have hdash : ['-'] <+: value.toList := List.IsPrefix.trans (by decide) hdashes
    rw [set, set, parseDepth?_of_dash hdash]
    cases parseDepth? (ValueOption.maxDepth.held value) <;> simp [hne]

/-- The one word is always the same as the two words with the value that it holds. -/
theorem parse_joined {front : List String} (hfront : Complete front) (o : ValueOption)
    (value : String) (back : List String) :
    parse (front ++ o.joined value :: back) = parse (front ++ o.name :: o.held value :: back) := by
  obtain ⟨e, -, herror⟩ | ⟨c, -, hread⟩ := hfront.error_or_reads
  · rw [herror, herror]
  · rw [hread, hread, parseFrom_assignment (Word.ofText_joined o value),
      parseFrom_option (Word.ofText_name o)]

theorem eq_of_map_resolve_eq {first second : Except ArgumentError Configuration}
    (h : first.map Request.resolve = second.map .resolve) : first = second := by
  cases first <;> cases second <;> simp_all [Except.map]

/-- Where an option may stand, the option with its value in one word is the same as in two words if
the value does not begin with the name and the equals sign. If it does, the value is what follows
all copies of these. So the two spellings differ in their configurations or errors where they are
the last words, unless an error before them decides. -/
theorem parse_joined_of_complete {front : List String} (hfront : Complete front) (o : ValueOption)
    (value : String) :
    (∀ back, parse (front ++ o.joined value :: back) =
      parse (front ++ o.name :: o.held value :: back)) ∧
    (¬o.lead <+: value.toList → ∀ back,
      parse (front ++ o.joined value :: back) = parse (front ++ o.name :: value :: back)) ∧
    (o.lead <+: value.toList → (parse front).isOk = true →
      parse (front ++ [o.joined value]) ≠ parse (front ++ [o.name, value])) := by
  refine ⟨parse_joined hfront o value, fun hfree back => ?_, fun hlead hok heq => ?_⟩
  · rw [parse_joined hfront, ValueOption.held_eq_iff.mpr hfree]
  · obtain ⟨e, herror, -⟩ | ⟨c, -, hread⟩ := hfront.error_or_reads
    · rw [herror] at hok
      exact Bool.noConfusion hok
    · have hlast (text : String) :
          parse (front ++ [o.name, text]) = (c.set o text).map .resolve := by
        rw [hread, parseFrom_option (Word.ofText_name o), bind_parseFrom_nil]
      rw [parse_joined hfront, hlast, hlast] at heq
      exact c.set_held_ne hlead (eq_of_map_resolve_eq heq)

theorem parse_joined_of_complete_options :
    Complete ["-v", "-t", "t.json"] ∧
    parse ["-v", "-t", "t.json", "--context=-c=--", "c.json"] =
      parse ["-v", "-t", "t.json", "--context", "-c=--", "c.json"] ∧
    parse ["-v", "-t", "t.json", "--max-depth=--max-depth=5"] ≠
      parse ["-v", "-t", "t.json", "--max-depth", "--max-depth=5"] := by
  have hfront : Complete ["-v", "-t", "t.json"] :=
    .word (by decide) (.option (by decide : Word.ofText "-t" = .option .template) .nil)
  obtain ⟨-, hsame, -⟩ := parse_joined_of_complete hfront .context "-c=--"
  obtain ⟨-, -, hapart⟩ := parse_joined_of_complete hfront .maxDepth "--max-depth=5"
  exact ⟨hfront, hsame (by decide) ["c.json"], hapart (by decide) (by decide)⟩

/-- In two words the value is no number, in one word it is. -/
theorem not_same_of_repeated_name :
    parse ["--max-depth", "--max-depth=5"] = .error (.badDepth "--max-depth=5") ∧
    parse ["--max-depth=--max-depth=5"] =
      .ok (.resolve { options := { maxDepth := 5 } }) := by
  have hheld : ValueOption.maxDepth.held "--max-depth=5" = "5" := by
    have hcut : "--max-depth=5".toList = ValueOption.maxDepth.lead ++ ['5'] := by decide
    rw [ValueOption.held, hcut, Text.dropCopies_append (ValueOption.lead_ne_nil _),
      Text.dropCopies_of_not_isPrefixOf (by decide)]
  have hjoined := parse_joined .nil .maxDepth "--max-depth=5" []
  rw [hheld] at hjoined
  exact ⟨rfl, hjoined⟩

end CommandLine
end RuleTemplate
