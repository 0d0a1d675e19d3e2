/-
  Audience routing — running a command line.

  A run prints, and notes events, until it is done or fails.  Configurations and
  files come first and the expression last, so the first of several faults in this
  order is the one that a run fails with.
-/
import AudienceRouting.CommandLine
import AudienceRouting.Config.Load
import AudienceRouting.Engine
import AudienceRouting.Explanation.Encoding
import AudienceRouting.Expr.Encoding
import AudienceRouting.Json.Printer
import AudienceRouting.RoutingTable

namespace AudienceRouting

/-- Why a run fails. -/
inductive RunError where
  | load (cause : LoadError)
  | compile (cause : CompileError)
  | expression (cause : SyntaxError)
  deriving Repr, Inhabited

namespace RunError

def message : RunError → String
  | load cause => cause.message
  | compile cause => cause.message
  | expression cause => "CLI: Invalid expression\n" ++ cause.caret

/-- What is behind the message, if it does not say it itself. -/
def cause? : RunError → Option String
  | load cause => cause.cause?
  | _ => none

end RunError

/-- What a run leaves behind. -/
structure Transcript where
  output : String := ""
  events : List Event := []
  deriving DecidableEq, Repr, Inhabited

/-- A step of a run. -/
abbrev Run := ExceptT RunError (StateM Transcript)

namespace Run

/-- Prints a line. -/
def printLine (line : String) : Run Unit :=
  modify fun t => { t with output := t.output ++ line ++ "\n" }

/-- Notes events. -/
def note (events : List Event) : Run Unit :=
  modify fun t => { t with events := t.events ++ events }

/-- Goes on with a result, or fails. -/
def orFail {ε α : Type} (wrap : ε → RunError) : Except ε α → Run α
  | .ok a => pure a
  | .error e => throw (wrap e)

/-- Prints a value as JSON. -/
def printJson (pretty : Bool) (j : Json) : Run Unit :=
  printLine (j.print (if pretty then .indented else .compact))

/-- Loads a registry. -/
def loadRegistry (files : Files) (path : String) : Run Registry := do
  let (registry, event) ← orFail .load (Registry.load files path)
  note [event]
  return registry

end Run

open Run

/-- Runs a command with the configuration of the engine, and gives the exit status. -/
def Command.run (files : Files) (config : EngineConfig) : Command → Run Nat
  | .parse expression pretty => do
    let (tree, _) := (Engine.ofConfig config).compile expression
    printJson pretty (← orFail .expression tree).toJson.sorted
    return 0
  | .eval expression tags flags => do
    let engine := Engine.ofConfig { config with matching := flags.onto config.matching }
    let (result, _) := engine.holds expression (.ofList tags)
    let matched ← orFail .expression result
    printLine (toString matched)
    return if matched then 0 else 1
  | .explain expression tags flags pretty => do
    let engine := Engine.ofConfig { config with matching := flags.onto config.matching }
    let (explanation, _) := engine.explain expression (.ofList tags)
    printJson pretty (← orFail .expression explanation).toJson
    return 0
  | .resolve expression entities flags => do
    let engine := Engine.ofConfig { config with matching := flags.onto config.matching }
    let registry ← loadRegistry files entities
    let (answer, _) := engine.resolve expression registry
    let (matched, events) ← orFail .expression answer
    note events
    matched.forM printLine
    return 0
  | .route audiences entities severity flags pretty => do
    let audiences ← orFail .load (AudiencesConfig.load files audiences)
    let (table, compiled) ← orFail .compile (RoutingTable.compile audiences)
    note compiled
    let registry ← loadRegistry files entities
    let (routes, events) := table.route registry severity (flags.onto config.matching)
    note events
    printJson pretty (.array (routes.map AudienceRoute.toJson))
    return 0

/-- Runs a command line, and gives the exit status. -/
def CommandLine.run (files : Files) (env : Environment) (line : CommandLine) : Run Nat := do
  let config ← Run.orFail .load (EngineConfig.load files env line.config)
  line.command.run files config

/-- The outcome of a run, and what it leaves behind. -/
def CommandLine.outcome (files : Files) (env : Environment) (line : CommandLine) :
    Except RunError Nat × Transcript :=
  (line.run files env).run.run {}

end AudienceRouting
