/-
  Audience routing — settings that cannot be used.

  An error says what was found, what was expected, at which setting, and where
  that comes from if it is known.
-/
import AudienceRouting.Binary64.Text
import AudienceRouting.Record
import AudienceRouting.Settings
import AudienceRouting.Text.Quoted

namespace AudienceRouting

/-- The name of an origin in messages. -/
def Origin.text : Origin → String
  | .file name => name
  | .environment => "the environment"

/-- What is wrong with a setting. -/
inductive SettingFault where
  /-- a scalar was expected, and there was something that does not convert to it -/
  | scalar (found : String) (expected : String) (origin : Option Origin)
  /-- a list or a table was expected -/
  | container (found : String) (expected : String)
  /-- a list is too short for the fields of a record -/
  | length (found : Nat) (expected : String)
  /-- a field that has to be there is not -/
  | missing (name : String)
  deriving DecidableEq, Repr, Inhabited

/-- A fault at the end of a path. -/
structure SettingError where
  path : List Segment
  fault : SettingFault
  deriving DecidableEq, Repr, Inhabited

namespace SettingError

/-- The text of a path: a dot stands between names, none before or behind an index. -/
def pathText : List Segment → String
  | [] => ""
  | .key name :: rest =>
    let inner := pathText rest
    if inner.isEmpty || inner.toList.head? == some '[' then name ++ inner
    else name ++ "." ++ inner
  | .index position :: rest => "[" ++ toString position ++ "]" ++ pathText rest

/-- Where the setting is. -/
def place (e : SettingError) : String :=
  if e.path.isEmpty then "" else " for key `" ++ pathText e.path ++ "`"

def message (e : SettingError) : String :=
  match e.fault with
  | .scalar found expected origin =>
    "invalid type: " ++ found ++ ", expected " ++ expected ++ e.place ++
      match origin with
      | some origin => " in " ++ origin.text
      | none => ""
  | .container found expected =>
    "invalid type: " ++ found ++ ", expected " ++ expected ++ e.place
  | .length found expected =>
    "invalid length " ++ toString found ++ ", expected " ++ expected ++ e.place
  | .missing name =>
    "missing configuration field " ++ Text.quoted (pathText (e.path ++ [.key name]))

end SettingError

namespace Setting

/-- How a setting is described where a scalar was expected. -/
def describe : Setting → String
  | .scalar _ .null => "unit value"
  | .scalar _ (.bool value) => "boolean `" ++ toString value ++ "`"
  | .scalar _ (.integer n) => "64-bit integer `" ++ toString n ++ "`"
  | .scalar _ (.float x) => "floating point `" ++ x.text ++ "`"
  | .scalar _ (.text s) => "string " ++ Text.quoted s
  | .list .. => "sequence"
  | .table .. => "map"

/-- How a setting is described where a list or a table was expected. -/
def describeShort : Setting → String
  | .scalar _ (.integer n) => "integer `" ++ toString n ++ "`"
  | .scalar _ (.float x) =>
    let text := x.text
    let whole := match x with
      | .finite .. => !text.toList.contains '.'
      | _ => false
    "floating point `" ++ (if whole then text ++ ".0" else text) ++ "`"
  | s => s.describe

def origin : Setting → Option Origin
  | .scalar origin _ | .list origin _ | .table origin _ => origin

end Setting

end AudienceRouting
