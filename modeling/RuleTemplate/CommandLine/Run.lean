import RuleTemplate.Clock.Namespace
import RuleTemplate.CommandLine.Configuration
import RuleTemplate.CommandLine.Help
import RuleTemplate.Json.Reader
import RuleTemplate.Log.Line
import RuleTemplate.Report.Summary
import RuleTemplate.Resolution.Run

/-!
A run of the command line, as a function of the words, of what can be read and of the
surroundings. The result goes to the output; log lines, then the report or the error, go
to the error output.
-/
namespace RuleTemplate.CommandLine

inductive Source
  | standardInput
  | file (path : String)
deriving DecidableEq, Repr

inductive ReadError
  | notFound
  | isDirectory
  | other (text : String)
deriving DecidableEq, Repr

structure Surroundings where
  read : Source → Except ReadError String
  now : Moment
  /-- Is the error output a terminal? -/
  terminal : Bool
  log : Option String

/-- Why a run with an understood command line fails. A text that is no document is only
known not to be one: what its parser found wrong, and at which line and column, is not
kept. -/
inductive Failure
  | unreadable (e : ReadError)
  | notJson
  | notTemplate (v : Value)
  | notNamespaces (e : NotNamespaces)
  | tooDeep (e : DepthExceeded)

/-- What a run leaves: the exit code, the output and, given the text for the time taken,
the error output. -/
structure Outcome where
  code : Nat
  output : String
  errors : String → String

def ReadError.message : ReadError → String
  | notFound => "No such file or directory (os error 2)"
  | isDirectory => "Is a directory (os error 21)"
  | other text => text

/-- What is printed of a failure. After `invalid JSON` comes a colon and the parser's own
message, which is left out here (see `Failure`). -/
def Failure.message : Failure → String
  | unreadable e => "IO error: " ++ e.message
  | notJson => "invalid JSON"
  | notTemplate v => "invalid template: template must be a JSON object, got " ++ v.display
  | notNamespaces e => e.message
  | tooDeep e => e.message

def errorLine (message : String) : String := "error: " ++ message ++ "\n"

def readDocument (s : Surroundings) (source : Source) : Except Failure Json :=
  match s.read source with
  | .error e => .error (.unreadable e)
  | .ok text =>
    match Json.read text with
    | some document => .ok document
    | none => .error .notJson

def templateSource (c : Configuration) : Source :=
  match c.template with
  | some path => .file path
  | none => .standardInput

def templateOf (document : Json) : Except Failure Record :=
  match Value.ofJson document with
  | .object members => .ok members
  | v => .error (.notTemplate v)

def readStore (s : Surroundings) (c : Configuration) : Except Failure Store :=
  match c.context with
  | none => .ok Store.empty
  | some path =>
    match readDocument s (.file path) with
    | .error e => .error e
    | .ok document =>
      match Store.ofJson document with
      | .ok store => .ok store
      | .error e => .error (.notNamespaces e)

def clockProbe : Probe := ⟨0⟩

def withClock (store : Store) (moment : Moment) : Store :=
  if (store.get? Clock.namespaceName).isSome then store
  else store.insert Clock.namespaceName (.object (Clock.dateNamespace moment clockProbe))

structure Job where
  template : Record
  setting : Setting Unit

def prepare (s : Surroundings) (c : Configuration) : Except Failure Job := do
  let template ← templateOf (← readDocument s (templateSource c))
  let moment := c.reference.getD s.now
  let store := withClock (← readStore s c) moment
  return ⟨template, store, c.options, fun _ args _ => (Clock.getTime moment args, ())⟩

def Job.resolve (job : Job) : Except DepthExceeded Record × State Unit :=
  Resolution.resolveTemplate job.setting job.template { probes := () }

def reportText (s : Surroundings) (c : Configuration) (summary : Report.Summary)
    (elapsed : String) : String :=
  if c.verbose then summary.text (c.color.getD s.terminal) elapsed else ""

def Job.run (s : Surroundings) (c : Configuration) (job : Job) : Outcome :=
  let (result, state) := job.resolve
  let log := Log.textOf (.ofSetting s.log) none state.journal.reverse
  match result with
  | .ok resolved =>
    ⟨0, (Value.object resolved).toJson.pretty ++ "\n",
      fun elapsed => log ++ reportText s c ⟨job.template, resolved, state.metrics⟩ elapsed⟩
  | .error e => ⟨1, "", fun _ => log ++ errorLine (Failure.tooDeep e).message⟩

def runConfiguration (s : Surroundings) (c : Configuration) : Outcome :=
  match prepare s c with
  | .ok job => job.run s c
  | .error e => ⟨1, "", fun _ => errorLine e.message⟩

def run (s : Surroundings) (words : List String) : Outcome :=
  match parse words with
  | .error e => ⟨2, "", fun _ => errorLine e.message⟩
  | .ok .help => ⟨0, helpText ++ "\n", fun _ => ""⟩
  | .ok .version => ⟨0, versionText ++ "\n", fun _ => ""⟩
  | .ok (.resolve c) => runConfiguration s c

end RuleTemplate.CommandLine
