/-
  Audience routing — values that do not have the required shape.

  A `Mismatch` says what was found and what was expected instead.
-/
import AudienceRouting.Binary64.Text
import AudienceRouting.Json
import AudienceRouting.Text.Quoted

namespace AudienceRouting

/-- How a value of the wrong shape is described. -/
def Json.describe : Json → String
  | .null => "null"
  | .bool value => "boolean `" ++ (if value then "true" else "false") ++ "`"
  | .number (.integer n) => "integer `" ++ toString n ++ "`"
  | .number (.double x) => "floating point `" ++ x.scientificText ++ "`"
  | .string s => "string " ++ Text.quoted s
  | .array _ => "sequence"
  | .object _ => "map"

/-- Why a value cannot be read. -/
inductive Mismatch where
  /-- a value of another type -/
  | type (found : Json) (expected : String)
  /-- a value of the right type that is out of range -/
  | value (found : Json) (expected : String)
  | missingField (name : String)
  | unknownVariant (name : String) (known : List String)
  | length (found : Nat) (expected : String)
  deriving Repr, Inhabited

def Mismatch.message : Mismatch → String
  | .type found expected => "invalid type: " ++ found.describe ++ ", expected " ++ expected
  | .value found expected => "invalid value: " ++ found.describe ++ ", expected " ++ expected
  | .missingField name => "missing field `" ++ name ++ "`"
  | .unknownVariant name known =>
    "unknown variant `" ++ name ++ "`, expected one of " ++
      ", ".intercalate (known.map fun v => "`" ++ v ++ "`")
  | .length found expected => "invalid length " ++ toString found ++ ", expected " ++ expected

end AudienceRouting
