/-
  Audience routing — what the scalars of YAML stand for.

  Quoted scalars are text.  A plain scalar is null, a boolean or a number if it
  reads as one, unless it has a tag that says otherwise.
-/
import AudienceRouting.Text.Numeral
import AudienceRouting.Yaml.Event

namespace AudienceRouting.Yaml

/-- What a scalar stands for. -/
inductive Meaning where
  | null
  | bool (value : Bool)
  | integer (value : Int)
  /-- a fraction, which need not be one that can be used -/
  | fraction
  | text
  /-- nothing, as it does not fit its tag -/
  | misfit
  deriving DecidableEq, Repr, Inhabited

/-- The boolean that a text stands for. -/
def readBool? (text : String) : Option Bool :=
  if ["true", "True", "TRUE"].contains text then some true
  else if ["false", "False", "FALSE"].contains text then some false
  else none

/-- Whether a text is a fraction: it has a digit and reads as one, or it is a name of infinity or
    of what is not a number. -/
def isFraction (text : String) : Bool :=
  [".inf", ".Inf", ".INF", "+.inf", "+.Inf", "+.INF", "-.inf", "-.Inf", "-.INF", ".nan", ".NaN",
    ".NAN"].contains text ||
  (text.toList.any Char.isDigit && (Text.readFloat? text.toList).isSome)

/-- The integer that a text stands for. -/
def readInteger? (text : List Char) : Option Int :=
  let marked := match text with
    | '0' :: 'x' :: rest => Text.readInt64In? 16 rest
    | '0' :: 'o' :: rest => Text.readInt64In? 8 rest
    | '+' :: rest => Text.readInt64? rest
    | _ => none
  marked.or (Text.readInt64? text)

/-- What a plain scalar stands for. -/
def meaningOfPlain (text : String) : Meaning :=
  if ["", "~", "null"].contains text then .null
  else match readBool? text, readInteger? text.toList with
    | some value, _ => .bool value
    | none, some n => .integer n
    | none, none => if isFraction text then .fraction else .text

/-- What a plain scalar with a tag stands for. -/
def meaningOfTagged (tag : YamlTag) (text : String) : Meaning :=
  if tag.handle != coreHandle then .text
  else match tag.suffix with
    | "bool" => ((readBool? text).map .bool).getD .misfit
    | "int" => ((Text.readInt64? text.toList).map .integer).getD .misfit
    | "float" => if isFraction text then .fraction else .misfit
    | "null" => if ["~", "null"].contains text then .null else .misfit
    | _ => .text

/-- What a scalar stands for. -/
def meaning (tag : Option YamlTag) (plain : Bool) (text : String) : Meaning :=
  match plain, tag with
  | false, _ => .text
  | true, none => meaningOfPlain text
  | true, some tag => meaningOfTagged tag text

end AudienceRouting.Yaml
