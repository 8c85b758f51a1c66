import RuleTemplate.Clock.Duration
import RuleTemplate.CommandLine.Run
import Std.Time.Format

/-!
The program: it reads what a run depends on, runs the command line and shows the outcome.
-/
namespace RuleTemplate

open CommandLine

def universalNow : IO Std.Time.PlainDateTime := do
  return .ofWallTime ((← Std.Time.Timestamp.now).toWallTime Std.Time.TimeZone.UTC.offset)

def localNow : IO Moment := do
  let now ← try Std.Time.PlainDateTime.now catch _ => universalNow
  return ⟨now.date.year, now.date.month.val.toNat, now.date.day.val.toNat,
    now.time.hour.val.toNat, now.time.minute.val.toNat, now.time.second.val.toNat⟩

def readErrorOf : IO.Error → ReadError
  | .noFileOrDirectory .. => .notFound
  | .inappropriateType _ _ _ => .isDirectory
  | e => .other (toString e)

def readSource (source : Source) : IO (Except ReadError String) := do
  try
    match source with
    | .standardInput => return .ok (← (← IO.getStdin).readToEnd)
    | .file path => return .ok (← IO.FS.readFile path)
  catch e => return .error (readErrorOf e)

def sourcesOf (words : List String) : List Source :=
  match parse words with
  | .ok (.resolve c) => templateSource c :: (c.context.map Source.file).toList
  | _ => []

end RuleTemplate

open RuleTemplate CommandLine

def main (words : List String) : IO UInt32 := do
  let texts ← (sourcesOf words).mapM fun source => return (source, ← readSource source)
  let surroundings : Surroundings := {
    read := fun source => (texts.lookup source).getD (.error .notFound)
    now := ← localNow
    terminal := ← (← IO.getStderr).isTty
    log := ← IO.getEnv logVariable }
  let start ← IO.monoNanosNow
  let outcome ← IO.lazyPure fun _ => run surroundings words
  let stop ← IO.monoNanosNow
  (← IO.getStderr).putStr (outcome.errors (Clock.durationText (stop - start)))
  (← IO.getStdout).putStr outcome.output
  return outcome.code.toUInt32
