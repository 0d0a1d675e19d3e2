/-
  Audience routing — the program.

  The command line is read, run, and its outcome shown: what the run prints goes
  to the standard output, and events and errors to the standard error output.
-/
import AudienceRouting.CommandLine.Arguments
import AudienceRouting.CommandLine.Run

namespace AudienceRouting

/-- The text of a file, unless it cannot be read. -/
def readFile? (path : String) : IO (Option String) := do
  try return some (← IO.FS.readFile path)
  catch _ => return none

/-- The variables of this process. -/
def processVariables : IO Environment := do
  let text := (← readFile? "/proc/self/environ").getD ""
  return (text.splitOn "\x00").filterMap fun entry =>
    match Scope.splitValue entry.toList with
    | (name, some value) => some (name, value)
    | _ => none

/-- The files that a command line may read. -/
def filesFor (line : CommandLine) : IO Files := do
  let paths := line.paths.flatMap fun path => path :: (Files.tried path).map (·.2)
  let contents ← paths.mapM fun path => return (path, ← readFile? path)
  return ⟨fun path => (contents.find? (·.1 = path)).bind (·.2)⟩

/-- Shows events; without `verbose` only warnings. -/
def showEvents (verbose : Bool) (events : List Event) : IO Unit :=
  (events.filter fun e => verbose || e.isWarning).forM fun e => IO.eprintln e.logLine

def showError (e : RunError) : IO Unit := do
  IO.eprintln ("Error: " ++ e.message)
  match e.cause? with
  | some cause => IO.eprintln ("\nCaused by:\n    " ++ cause)
  | none => pure ()

/-- Runs the program with its arguments, and gives the exit status. -/
def program (args : List String) : IO UInt32 := do
  let env ← processVariables
  let configPath := (env.find? (·.1 = CommandLine.configVariable)).map (·.2)
  match CommandLine.read? configPath args with
  | none =>
    IO.eprintln "Usage: tagroute [OPTIONS] <parse|eval|explain|resolve|route>"
    return 2
  | some line =>
    let (result, transcript) := line.outcome (← filesFor line) env
    IO.print transcript.output
    showEvents line.verbose transcript.events
    match result with
    | .ok status => return status.toUInt32
    | .error e =>
      showError e
      return 1

end AudienceRouting

def main (args : List String) : IO UInt32 := AudienceRouting.program args
