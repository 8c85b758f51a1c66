import RuleTemplate.CommandLine.Run
import RuleTemplate.Proofs.CommandLine.Words

/-!
Diagnostics leave the result alone. The switches for the report and its colours may be put in
wherever an option may stand, and the log may be set to anything: the exit code and the output stay
the same, because a run reads nothing of these before it has its result. A run that fails leaves the
output empty.
-/
namespace RuleTemplate.CommandLine

def Configuration.quiet (c : Configuration) : Configuration :=
  { c with verbose := false, color := none }

def Request.quiet : Request → Request
  | resolve c => resolve c.quiet
  | request => request

def diagnosticFlags : List String := ["-v", "--verbose", "--color", "--no-color"]

/-- The second words are the first ones with any number of flags put in, each where an option may
stand. -/
inductive WithFlags (words : List String) : List String → Prop
  | none : WithFlags words words
  | flag {front back : List String} {flag : String} : WithFlags words (front ++ back) →
      Complete front → flag ∈ diagnosticFlags → WithFlags words (front ++ flag :: back)

namespace Configuration

variable {c d : Configuration}

theorem apply_quiet (h : c.quiet = d.quiet) (s : Switch) :
    (c.apply s).quiet = (d.apply s).quiet := by
  simp only [quiet, mk.injEq] at h
  cases s <;> simp [apply, quiet, h]

theorem map_quiet_set (c : Configuration) (o : ValueOption) (value : String) :
    (c.set o value).map quiet = c.quiet.set o value := by
  cases o with
  | template | context => rfl
  | reference => cases h : Moment.parse? value <;> simp [set, h, quiet, Except.map]
  | maxDepth => cases h : parseDepth? value <;> simp [set, h, quiet, Except.map]

theorem map_quiet_take (c : Configuration) (file : String) :
    (c.take file).map quiet = c.quiet.take file := by
  cases h : c.template <;> simp [take, h, quiet, Except.map]

end Configuration

/-- The rest is read alike from results that are alike. -/
theorem bind_quiet {first second : Except ArgumentError Configuration} {rest : List String}
    (h : first.map Configuration.quiet = second.map Configuration.quiet)
    (hrest : ∀ {c d : Configuration}, c.quiet = d.quiet →
      (parseFrom c rest).map Request.quiet = (parseFrom d rest).map Request.quiet) :
    (first.bind (parseFrom · rest)).map Request.quiet =
      (second.bind (parseFrom · rest)).map Request.quiet := by
  cases first <;> cases second <;> simp only [Except.map, Except.ok.injEq, Except.error.injEq,
    reduceCtorEq] at h
  case error.error => rw [h]
  case ok.ok => exact hrest h

/-- Configurations that differ in the report only come to the same, whatever words follow. -/
theorem parseFrom_quiet (words : List String) {c d : Configuration} (h : c.quiet = d.quiet) :
    (parseFrom c words).map Request.quiet = (parseFrom d words).map Request.quiet := by
  have hset (o : ValueOption) (value : String) :
      (c.set o value).map Configuration.quiet = (d.set o value).map Configuration.quiet := by
    rw [Configuration.map_quiet_set, Configuration.map_quiet_set, h]
  have htake (file : String) :
      (c.take file).map Configuration.quiet = (d.take file).map Configuration.quiet := by
    rw [Configuration.map_quiet_take, Configuration.map_quiet_take, h]
  have hend {c d : Configuration} (h : c.quiet = d.quiet) :
      (parseFrom c []).map Request.quiet = (parseFrom d []).map Request.quiet := by
    simp [parseFrom, Except.map, Request.quiet, h]
  match words with
  | [] => exact hend h
  | text :: rest =>
    cases hword : Word.ofText text with
    | help | version | unknown => simp only [parseFrom.eq_def _ (text :: rest), hword]
    | switch s =>
      -- A flag may change one of the two, but only in what is left out of both.
      rw [parseFrom_switch hword, parseFrom_switch hword]
      exact parseFrom_quiet rest (Configuration.apply_quiet h s)
    | option o =>
      match rest with
      | [] => simp only [parseFrom.eq_def _ [text], hword]
      | value :: rest =>
        rw [parseFrom_option hword, parseFrom_option hword]
        exact bind_quiet (hset o value) (parseFrom_quiet rest)
    | assignment o value =>
      rw [parseFrom_assignment hword, parseFrom_assignment hword]
      exact bind_quiet (hset o value) (parseFrom_quiet rest)
    | separator =>
      cases rest with
      | nil =>
        rw [parseFrom_separator_nil hword, parseFrom_separator_nil hword]
        exact hend h
      | cons file rest =>
        rw [parseFrom_separator_cons hword, parseFrom_separator_cons hword]
        exact bind_quiet (htake file) hend
    | positional =>
      rw [parseFrom_positional hword, parseFrom_positional hword]
      exact bind_quiet (htake text) (parseFrom_quiet rest)

/-- The flags are switches that only change the report. -/
theorem exists_switch_of_mem_diagnosticFlags {flag : String} (h : flag ∈ diagnosticFlags) :
    ∃ s, Word.ofText flag = .switch s ∧ ∀ c : Configuration, (c.apply s).quiet = c.quiet := by
  simp only [diagnosticFlags, List.mem_cons, List.not_mem_nil, or_false] at h
  rcases h with rfl | rfl | rfl | rfl
  · exact ⟨.verbose, by decide, fun _ => rfl⟩
  · exact ⟨.verbose, by decide, fun _ => rfl⟩
  · exact ⟨.color, by decide, fun _ => rfl⟩
  · exact ⟨.noColor, by decide, fun _ => rfl⟩

theorem parse_flag {front : List String} (hfront : Complete front) {flag : String}
    (hflag : flag ∈ diagnosticFlags) (back : List String) :
    (parse (front ++ flag :: back)).map Request.quiet =
      (parse (front ++ back)).map Request.quiet := by
  obtain ⟨s, hword, hquiet⟩ := exists_switch_of_mem_diagnosticFlags hflag
  obtain ⟨e, -, herror⟩ | ⟨c, -, hread⟩ := hfront.error_or_reads
  · rw [herror, herror]
  · rw [hread, hread, parseFrom_switch hword]
    exact parseFrom_quiet back (hquiet c)

/-- Flags do not change what is asked for, or in what error the words are. -/
theorem parse_withFlags {words more : List String} (h : WithFlags words more) :
    (parse more).map Request.quiet = (parse words).map Request.quiet := by
  induction h with
  | none => rfl
  | flag _ hfront hflag ih => rw [parse_flag hfront hflag, ih]

def Outcome.result (o : Outcome) : Nat × String := (o.code, o.output)

/-- The messages of a job are in the error output. -/
theorem Job.result_run (job : Job) (s t : Surroundings) (c d : Configuration) :
    (job.run s c).result = (job.run t d).result := by
  simp only [Outcome.result, Job.run]
  cases job.resolve.1 <;> simp only

/-- The job depends on what is read and on the time. -/
theorem prepare_congr {s t : Surroundings} (hread : t.read = s.read) (hnow : t.now = s.now)
    {c d : Configuration} (h : c.quiet = d.quiet) : prepare t c = prepare s d := by
  have hdocument (source : Source) : readDocument t source = readDocument s source := by
    rw [readDocument, readDocument, hread]
  simp only [Configuration.quiet, Configuration.mk.injEq, and_true] at h
  obtain ⟨htemplate, hcontext, hreference, hoptions⟩ := h
  simp only [prepare, readStore, templateSource, hdocument, hnow, htemplate, hcontext, hreference,
    hoptions]

theorem result_runConfiguration {s t : Surroundings} (hread : t.read = s.read)
    (hnow : t.now = s.now) {c d : Configuration} (h : c.quiet = d.quiet) :
    (runConfiguration t c).result = (runConfiguration s d).result := by
  rw [runConfiguration, runConfiguration, prepare_congr hread hnow h]
  cases prepare s d with
  | ok job => exact job.result_run t s c d
  | error e => rfl

/-- Words that differ in the report only come to the same. -/
theorem result_run {s t : Surroundings} (hread : t.read = s.read) (hnow : t.now = s.now)
    {words more : List String}
    (h : (parse more).map Request.quiet = (parse words).map Request.quiet) :
    (run t more).result = (run s words).result := by
  rw [run, run]
  cases hmore : parse more <;> cases hwords : parse words <;>
    simp only [hmore, hwords, Except.map, Except.ok.injEq, Except.error.injEq, reduceCtorEq] at h
  case error.error => rw [h]
  case ok.ok asked asked' =>
    cases asked <;> cases asked' <;>
      simp only [Request.quiet, Request.resolve.injEq, reduceCtorEq] at h
    case help.help => rfl
    case version.version => rfl
    case resolve.resolve => exact result_runConfiguration hread hnow h

/-- A run that fails has no output. -/
theorem output_of_code_ne_zero (s : Surroundings) (words : List String)
    (h : (run s words).code ≠ 0) : (run s words).output = "" := by
  revert h
  rw [run]
  cases parse words with
  | error e => exact fun _ => rfl
  | ok request =>
    cases request with
    | help => exact fun h => absurd rfl h
    | version => exact fun h => absurd rfl h
    | resolve c =>
      simp only [runConfiguration]
      cases prepare s c with
      | error e => exact fun _ => rfl
      | ok job =>
        simp only [Job.run]
        cases job.resolve.1 with
        | ok resolved => exact fun h => absurd rfl h
        | error e => exact fun _ => rfl

/-- Flags for the report and its colours, put in wherever an option may stand, leave the exit code
and the output as they are, whatever the log is set to and whether or not the error output is a
terminal. The output of a run that fails is empty. -/
theorem run_withFlags (s : Surroundings) (words : List String) :
    (∀ more log terminal, WithFlags words more →
      (run { s with log := log, terminal := terminal } more).code = (run s words).code ∧
      (run { s with log := log, terminal := terminal } more).output = (run s words).output) ∧
    ((run s words).code ≠ 0 → (run s words).output = "") := by
  refine ⟨fun more log terminal hmore => ?_, output_of_code_ne_zero s words⟩
  have hread : ({ s with log := log, terminal := terminal } : Surroundings).read = s.read := rfl
  have hnow : ({ s with log := log, terminal := terminal } : Surroundings).now = s.now := rfl
  exact Prod.mk.inj (result_run hread hnow (parse_withFlags hmore))

def desk : Surroundings where
  read source :=
    if source = .file "t.json" then .ok "\x7b\"a\": [1, null]\x7d" else .error .notFound
  now := ⟨2024, 1, 6, 18, 30, 0⟩
  terminal := false
  log := none

theorem run_withFlags_desk :
    WithFlags ["t.json"] ["-v", "t.json", "--color"] ∧
    (run { desk with log := some "trace", terminal := true } ["-v", "t.json", "--color"]).output =
      "\x7b\n  \"a\": [\n    1,\n    null\n  ]\n\x7d\n" ∧
    (run desk ["t.json", "-x"]).code ≠ 0 ∧ (run desk ["t.json", "-x"]).output = "" := by
  have hlast : WithFlags ["t.json"] (["t.json"] ++ "--color" :: []) :=
    .flag .none (.word (by decide) .nil) (by decide)
  have hboth : WithFlags ["t.json"] ([] ++ "-v" :: ["t.json", "--color"]) :=
    .flag hlast .nil (by decide)
  have hshown : (run desk ["t.json"]).output =
      "\x7b\n  \"a\": [\n    1,\n    null\n  ]\n\x7d\n" := by decide +kernel
  have hcode : (run desk ["t.json", "-x"]).code ≠ 0 := by decide +kernel
  have hsame := (run_withFlags desk ["t.json"]).1 _ (some "trace") true hboth
  exact ⟨hboth, hsame.2.trans hshown, hcode, (run_withFlags desk ["t.json", "-x"]).2 hcode⟩

end RuleTemplate.CommandLine
