/-
  Audience routing — what the command line can ask for.

  An expression can be read, evaluated or explained, resolved over the entities of
  a file, and notifications can be routed to the audiences of a file.  Flags for
  matching are put on top of the configuration; they turn things on only.
-/
import AudienceRouting.Matching

namespace AudienceRouting

/-- Flags that change how tags match. -/
structure MatchFlags where
  ignoreCase : Bool := false
  categoryMode : Bool := false
  wildcards : Bool := false
  deriving DecidableEq, Repr, Inhabited

/-- The options of a configuration with the flags on top. -/
def MatchFlags.onto (flags : MatchFlags) (options : MatchOptions) : MatchOptions where
  caseSensitive := options.caseSensitive && !flags.ignoreCase
  categoryMode := options.categoryMode || flags.categoryMode
  wildcards := options.wildcards || flags.wildcards

inductive Command where
  /-- prints the tree of an expression -/
  | parse (expression : String) (pretty : Bool)
  /-- says whether an expression holds of tags -/
  | eval (expression : String) (tags : List String) (flags : MatchFlags)
  /-- says why an expression holds of tags or does not -/
  | explain (expression : String) (tags : List String) (flags : MatchFlags) (pretty : Bool)
  /-- lists the entities in a file of which an expression holds -/
  | resolve (expression : String) (entities : String) (flags : MatchFlags)
  /-- says what the audiences in a file get of a notification -/
  | route (audiences entities : String) (severity : Option String) (flags : MatchFlags)
      (pretty : Bool)
  deriving DecidableEq, Repr, Inhabited

structure CommandLine where
  command : Command
  /-- the file with the configuration of the engine -/
  config : Option String := none
  verbose : Bool := false
  deriving DecidableEq, Repr, Inhabited

/-- The files that a command reads, but for that of the configuration. -/
def Command.paths : Command → List String
  | .parse .. | .eval .. | .explain .. => []
  | .resolve _ entities _ => [entities]
  | .route audiences entities _ _ _ => [audiences, entities]

/-- The files that a command line reads. -/
def CommandLine.paths (line : CommandLine) : List String :=
  line.config.toList ++ line.command.paths

end AudienceRouting
