/-
  Audience routing — TOML values.

  The members of a table are in ascending order of their names.  A date or time
  keeps nothing but its text.
-/
import AudienceRouting.Binary64

namespace AudienceRouting

inductive Toml where
  | string (value : String)
  | integer (value : Int)
  | float (value : Binary64)
  | bool (value : Bool)
  | dateTime (text : String)
  | array (items : List Toml)
  | table (members : List (String × Toml))
  deriving Repr, Inhabited

end AudienceRouting
