import RuleTemplate.Proofs.CommandLine.Words

/-!
The separator before the file of a template. In front of one file, or of none, it may stand or not.
In front of several it makes all but the first of them count for nothing, while without it the
second one is an error.
-/
namespace RuleTemplate.CommandLine

/-- Only the first word after the separator counts. -/
theorem parseFrom_separator (c : Configuration) {files : List String}
    (hfiles : ∀ file ∈ files, file.toList.head? ≠ some '-') :
    parseFrom c ("--" :: files) = parseFrom c (files.take 1) := by
  have hword : Word.ofText "--" = .separator := by decide
  cases files with
  | nil => exact parseFrom_separator_nil hword c
  | cons file rest =>
    have hfile := Word.ofText_of_head (hfiles file List.mem_cons_self)
    rw [List.take_succ_cons, List.take_zero, parseFrom_positional hfile,
      parseFrom_separator_cons hword]

/-- A file where there is a template already is an error. -/
theorem parseFrom_file_of_template {c : Configuration} (hc : c.template.isSome = true)
    {file : String} (hfile : file.toList.head? ≠ some '-') (rest : List String) :
    parseFrom c (file :: rest) = .error .secondTemplate := by
  obtain ⟨template, htemplate⟩ := Option.isSome_iff_exists.mp hc
  rw [parseFrom_positional (Word.ofText_of_head hfile), Configuration.take, htemplate]
  rfl

/-- A second file is an error. -/
theorem parseFrom_files (c : Configuration) {first second : String}
    (hfirst : first.toList.head? ≠ some '-') (hsecond : second.toList.head? ≠ some '-')
    (rest : List String) : parseFrom c (first :: second :: rest) = .error .secondTemplate := by
  cases htemplate : c.template with
  | some file => exact parseFrom_file_of_template (by simp [htemplate]) hfirst _
  | none =>
    rw [parseFrom_positional (Word.ofText_of_head hfirst), Configuration.take, htemplate]
    exact parseFrom_file_of_template rfl hsecond rest

variable {options : List String}

/-- After complete words the separator leaves only the first file. -/
theorem parse_separator (hoptions : Complete options) {files : List String}
    (hfiles : ∀ file ∈ files, file.toList.head? ≠ some '-') :
    parse (options ++ "--" :: files) = parse (options ++ files.take 1) := by
  obtain ⟨e, -, herror⟩ | ⟨c, -, hread⟩ := hoptions.error_or_reads
  · rw [herror, herror]
  · rw [hread, hread, parseFrom_separator c hfiles]

/-- Several files are an error, the same one as the first of them alone if it is one. -/
theorem parse_files (hoptions : Complete options) {first second : String} (rest : List String)
    (hfirst : first.toList.head? ≠ some '-') (hsecond : second.toList.head? ≠ some '-') :
    ∃ e, parse (options ++ first :: second :: rest) = .error e ∧
      ∀ d, parse (options ++ [first]) = .error d → d = e := by
  obtain ⟨e, -, herror⟩ | ⟨c, -, hread⟩ := hoptions.error_or_reads
  · refine ⟨e, herror _, fun d hd => ?_⟩
    rw [herror] at hd
    exact (Except.error.inj hd).symm
  · refine ⟨.secondTemplate, (hread _).trans (parseFrom_files c hfirst hsecond rest),
      fun d hd => ?_⟩
    rw [hread] at hd
    cases htemplate : c.template with
    | some template =>
      rw [parseFrom_file_of_template (by simp [htemplate]) hfirst] at hd
      exact (Except.error.inj hd).symm
    | none =>
      -- the one file is taken, so it is in no error
      rw [parseFrom_positional (Word.ofText_of_head hfirst), Configuration.take, htemplate] at hd
      simp [Except.bind, parseFrom] at hd

/-- A file after words that give a template is an error. -/
theorem parse_file_of_template (hoptions : Complete options) {c : Configuration}
    (hc : parse options = .ok (.resolve c)) (htemplate : c.template.isSome = true) {file : String}
    (hfile : file.toList.head? ≠ some '-') (rest : List String) :
    parse (options ++ file :: rest) = .error .secondTemplate := by
  obtain ⟨e, herror, -⟩ | ⟨d, hd, hread⟩ := hoptions.error_or_reads
  · cases herror.symm.trans hc
  · obtain rfl : d = c := Request.resolve.inj (Except.ok.inj (hd.symm.trans hc))
    rw [hread, parseFrom_file_of_template htemplate hfile]

/-- After complete words, the separator before some files leaves only the first of them, so it
may stand or not if there is one file at most. Without the separator a second file is always an
error, so the two differ for several files, unless the first one is an error already. It is one, in
both forms, if the words before give a template. -/
theorem separator_leaves_one (hoptions : Complete options) {files : List String}
    (hfiles : ∀ file ∈ files, file.toList.head? ≠ some '-') :
    parse (options ++ "--" :: files) = parse (options ++ files.take 1) ∧
    (2 ≤ files.length → ∃ e, parse (options ++ files) = .error e) ∧
    (parse (options ++ "--" :: files) = parse (options ++ files) ↔
      files.length ≤ 1 ∨ ∃ e, parse (options ++ files.take 1) = .error e) ∧
    ∀ c, parse options = .ok (.resolve c) → c.template.isSome = true → files ≠ [] →
      parse (options ++ "--" :: files) = .error .secondTemplate ∧
      parse (options ++ files) = .error .secondTemplate := by
  rw [parse_separator hoptions hfiles]
  match files, hfiles with
  | [], _ => simp
  | [file], hfiles =>
    have hfile := hfiles file List.mem_cons_self
    simp +contextual [parse_file_of_template hoptions _ _ hfile]
  | first :: second :: rest, hfiles =>
    have hfirst := hfiles first List.mem_cons_self
    have hsecond := hfiles second (List.mem_cons_of_mem _ List.mem_cons_self)
    obtain ⟨e, he, hsame⟩ := parse_files hoptions rest hfirst hsecond
    refine ⟨rfl, fun _ => ⟨e, he⟩, ⟨fun heq => .inr ⟨e, heq.trans he⟩, ?_⟩, ?_⟩
    · rintro (hlength | ⟨d, hd⟩)
      · simp at hlength
      · rw [he, ← hsame d hd]
        exact hd
    · intro c hc htemplate _
      exact ⟨parse_file_of_template hoptions hc htemplate hfirst [],
        parse_file_of_template hoptions hc htemplate hfirst _⟩

theorem separator_leaves_one_context :
    Complete ["-c", "--", "-v"] ∧
    parse ["-c", "--", "-v", "--", "t.json"] = parse ["-c", "--", "-v", "t.json"] ∧
    parse ["-c", "--", "-v", "--", "t.json", "u.json"] ≠
      parse ["-c", "--", "-v", "t.json", "u.json"] ∧
    parse ["--template", "t.json", "--", "u.json"] = .error .secondTemplate := by
  have hoptions : Complete ["-c", "--", "-v"] :=
    .option (by decide : Word.ofText "-c" = .option .context) (.word (by decide) .nil)
  have htemplate : Complete ["--template", "t.json"] :=
    .option (by decide : Word.ofText "--template" = .option .template) .nil
  have hfiles : ∀ file ∈ ["t.json", "u.json"], file.toList.head? ≠ some '-' := by decide
  have hfirst : ∀ file ∈ ["t.json"], file.toList.head? ≠ some '-' := by decide
  have hlast : ∀ file ∈ ["u.json"], file.toList.head? ≠ some '-' := by decide
  obtain ⟨-, -, hone, -⟩ := separator_leaves_one hoptions hfirst
  obtain ⟨-, -, hseveral, -⟩ := separator_leaves_one hoptions hfiles
  obtain ⟨-, -, -, hsecond⟩ := separator_leaves_one htemplate hlast
  refine ⟨hoptions, hone.mpr (.inl (by decide)), fun heq => ?_, (hsecond _ rfl rfl (by decide)).1⟩
  rcases hseveral.mp heq with hlength | ⟨e, he⟩
  · exact absurd hlength (by decide)
  · have hok : parse ["-c", "--", "-v", "t.json"] =
        .ok (.resolve { template := some "t.json", context := some "--", verbose := true }) := rfl
    simp [hok] at he

/-- The second of two files is an error, but after the separator it counts for nothing. -/
theorem not_same_of_second_file :
    parse ["t.json", "u.json"] = .error .secondTemplate ∧
    parse ["--", "t.json", "u.json"] = .ok (.resolve { template := some "t.json" }) :=
  ⟨rfl, rfl⟩

end RuleTemplate.CommandLine
