/-
  Audience routing — settings from environment variables.

  A variable counts if its name in lowercase starts with `tagroute_`; the rest of
  the name is the path of the setting, with `__` between its parts.  The value is
  a boolean, an integer or a fraction if it reads as one, and text otherwise.
-/
import AudienceRouting.Settings
import AudienceRouting.Text.Numeral

namespace AudienceRouting

/-- The variables of an environment and their values. -/
abbrev Environment := List (String × String)

namespace Environment

/-- What the names of variables start with. -/
def namePrefix : List Char := "tagroute_".toList

/-- Writes a dot for every `__`. -/
def dotted : List Char → List Char
  | '_' :: '_' :: rest => '.' :: dotted rest
  | c :: rest => c :: dotted rest
  | [] => []

/-- The path of the setting that a variable gives, if it gives any. -/
def path? (name : String) : Option String :=
  let lower := (Text.lowercase name).toList
  if namePrefix.isPrefixOf lower then
    some (String.ofList (dotted (lower.drop namePrefix.length)))
  else none

/-- What the value of a variable stands for. -/
def readValue (s : String) : Scalar :=
  match Text.lowercase s with
  | "true" => .bool true
  | "false" => .bool false
  | _ =>
    match Text.readInt64? s.toList, Text.readFloat? s.toList with
    | some n, _ => .integer n
    | none, some x => .float x
    | none, none => .text s

/-- The settings that an environment gives, each with its path. -/
def settings (env : Environment) : List (String × Setting) :=
  env.filterMap fun (name, value) =>
    (path? name).map fun path => (path, .scalar (some .environment) (readValue value))

end Environment

end AudienceRouting
