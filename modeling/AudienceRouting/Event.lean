/-
  Audience routing — what is noted while audiences are routed.

  Events are collected in the order in which they happen.
-/
import AudienceRouting.Text.Quoted

namespace AudienceRouting

inductive Event where
  /-- an expression was resolved to `matched` of `total` entities -/
  | resolved (expression : String) (matched total : Nat)
  /-- a routing table was compiled -/
  | compiled (audiences : Nat)
  /-- a registry was read from a file -/
  | loaded (entities : Nat) (path : String)
  /-- an audience was left out because the severity is below its minimum -/
  | belowMinimum (severity audience : String)
  /-- a severity that is none of the levels -/
  | unknownSeverity (severity : String)
  /-- an audience whose expression matches no entity -/
  | reachesNone (audience : String)
  deriving DecidableEq, Repr, Inhabited

namespace Event

/-- Whether the event is a warning. -/
def isWarning : Event → Bool
  | .unknownSeverity _ | .reachesNone _ => true
  | _ => false

def message : Event → String
  | .resolved expression matched total =>
    "Resolved '" ++ expression ++ "' to " ++ toString matched ++ " of " ++ toString total ++
      " entities"
  | .compiled audiences => "Compiled " ++ toString audiences ++ " audiences"
  | .loaded entities path =>
    "Loaded " ++ toString entities ++ " entities from " ++ Text.quoted path
  | .belowMinimum severity audience =>
    "Severity '" ++ severity ++ "' below minimum for audience '" ++ audience ++ "'"
  | .unknownSeverity severity =>
    "Unknown severity level '" ++ severity ++ "'; no audience will be reached"
  | .reachesNone audience => "Audience '" ++ audience ++ "' reaches no entities"

/-- The line that the event adds to the log. -/
def logLine (e : Event) : String :=
  (if e.isWarning then "WARN " else "INFO ") ++ e.message

end Event

end AudienceRouting
