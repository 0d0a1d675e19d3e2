/-
  Audience routing — audiences, and which entities a notification reaches.

  A routing table holds audiences with their expressions read, in the order of
  their definition, and the severity levels that they share.  A notification of
  some severity passes the gate of an audience if it is at least as severe as
  the minimum of the audience; without a severity it passes every gate.
-/
import AudienceRouting.Config
import AudienceRouting.Event
import AudienceRouting.Expr.Reader
import AudienceRouting.Json
import AudienceRouting.Registry

namespace AudienceRouting

/-! ## Audiences -/

/-- An audience whose expression has been read. -/
structure Audience where
  name : String
  expression : String
  tree : Expr
  services : List String
  minSeverity : Option String
  deriving Repr, Inhabited

/-- Why audiences cannot be compiled. -/
inductive CompileError where
  | severity (cause : SeverityError)
  | duplicateName (name : String)
  | unknownMinSeverity (name severity : String)
  | expression (name : String) (cause : SyntaxError)
  deriving Repr, Inhabited

def CompileError.message : CompileError → String
  | .severity cause => cause.message
  | .duplicateName name => "Duplicate audience name '" ++ name ++ "'"
  | .unknownMinSeverity name minimum =>
    "Audience '" ++ name ++ "' has unknown min_severity '" ++ minimum ++ "'"
  | .expression name cause =>
    "Error parsing expression of audience '" ++ name ++ "': " ++ cause.message

namespace Audience

/-- Reads the expression of an audience. -/
def compile (config : AudienceConfig) : Except CompileError Audience :=
  match Expr.read config.expression with
  | .error cause => .error (.expression config.name cause)
  | .ok tree =>
    .ok ⟨config.name, config.expression, tree, config.services, config.minSeverity⟩

/-- Whether an entity with these tags belongs to the audience. -/
def covers (a : Audience) (tags : TagSet) (options : MatchOptions) : Bool :=
  a.tree.holds tags options

/-- Whether notifications of a severity are delivered to the audience. -/
def accepts (a : Audience) (levels : SeverityLevels) (severity : String) : Bool :=
  levels.isAtLeast severity (a.minSeverity.getD levels.lowest)

end Audience

/-! ## Routing tables -/

structure RoutingTable where
  audiences : List Audience
  levels : SeverityLevels

/-- What one audience gets of a notification. -/
structure AudienceRoute where
  audience : String
  services : List String
  entities : List String
  /-- the severity is below the minimum of the audience, which gets nothing -/
  belowMinimum : Bool
  deriving DecidableEq, Repr, Inhabited

namespace RoutingTable

instance : Inhabited RoutingTable := ⟨⟨[], default⟩⟩

/-- Compiles one audience; `names` are those of the audiences before it. -/
def compileAudience (levels : SeverityLevels) (names : List String) (config : AudienceConfig) :
    Except CompileError Audience :=
  if config.name ∈ names then .error (.duplicateName config.name)
  else match config.minSeverity.filter (!levels.contains ·) with
    | some severity => .error (.unknownMinSeverity config.name severity)
    | none => Audience.compile config

/-- Compiles audiences in order; `names` are those of the audiences before them. -/
def compileAll (levels : SeverityLevels) (names : List String) :
    List AudienceConfig → Except CompileError (List Audience)
  | [] => .ok []
  | config :: rest => do
    let audience ← compileAudience levels names config
    let audiences ← compileAll levels (config.name :: names) rest
    .ok (audience :: audiences)

/-- The table of a configuration, with a note of its size. -/
def compile (config : AudiencesConfig) : Except CompileError (RoutingTable × List Event) := do
  let levels ← (SeverityLevels.ofNames config.severityLevels).mapError .severity
  let audiences ← compileAll levels [] config.audiences
  .ok (⟨audiences, levels⟩, [.compiled audiences.length])

/-- The audience with a name. -/
def find? (t : RoutingTable) (name : String) : Option Audience :=
  t.audiences.find? (·.name = name)

def size (t : RoutingTable) : Nat := t.audiences.length

def isEmpty (t : RoutingTable) : Bool := t.audiences.isEmpty

/-- Whether a notification passes the gate of an audience. -/
def passes (t : RoutingTable) (severity : Option String) (a : Audience) : Bool :=
  match severity with
  | none => true
  | some s => a.accepts t.levels s

/-- A warning if the severity is given but is no level. -/
def severityWarnings (t : RoutingTable) (severity : Option String) : List Event :=
  match severity.filter (!t.levels.contains ·) with
  | some s => [.unknownSeverity s]
  | none => []

/-- The audiences to which an entity with these tags belongs and whose gate is passed. -/
def audiencesFor (t : RoutingTable) (tags : TagSet) (severity : Option String)
    (options : MatchOptions) : List Audience × List Event :=
  (t.audiences.filter fun a => t.passes severity a && a.covers tags options,
    t.severityWarnings severity)

/-- What one audience gets, and what there is to note about it. -/
def routeTo (t : RoutingTable) (registry : Registry) (severity : Option String)
    (options : MatchOptions) (a : Audience) : AudienceRoute × List Event :=
  if t.passes severity a then
    let reached := registry.resolve a.tree options
    (⟨a.name, a.services, reached, false⟩, if reached.isEmpty then [.reachesNone a.name] else [])
  else (⟨a.name, [], [], true⟩, [.belowMinimum (severity.getD "") a.name])

/-- What every audience gets, in the order of the table. -/
def route (t : RoutingTable) (registry : Registry) (severity : Option String)
    (options : MatchOptions) : List AudienceRoute × List Event :=
  let routes := t.audiences.map (t.routeTo registry severity options)
  (routes.map (·.1), t.severityWarnings severity ++ routes.flatMap (·.2))

end RoutingTable

namespace AudienceRoute

/-- The mark for being below the minimum is written only where it is set. -/
def toJson (r : AudienceRoute) : Json :=
  .object ([("audience", .string r.audience), ("services", .ofStrings r.services),
    ("entities", .ofStrings r.entities)] ++
    if r.belowMinimum then [("below_min_severity", .bool true)] else [])

end AudienceRoute

end AudienceRouting
