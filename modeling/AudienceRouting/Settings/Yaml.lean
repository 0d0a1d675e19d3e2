/-
  Audience routing — settings in YAML.

  The keys of a mapping are scalars other than null, and different from each
  other; a number and a text with the same characters are different.  What stands
  for nothing is null as a value, and is left out as a key.
-/
import AudienceRouting.Settings
import AudienceRouting.Yaml.Meaning

namespace AudienceRouting

namespace Yaml

/-- The scalar with a meaning and a text, unless it is a fraction that cannot be used. -/
def Meaning.toScalar? (text : String) : Meaning → Option Scalar
  | .null | .misfit => some .null
  | .bool value => some (.bool value)
  | .integer n => some (.integer n)
  | .fraction => (Text.readFloat? text.toList).map .float
  | .text => some (.text text)

/-- The key of a pair. -/
inductive Key where
  | bool (value : Bool)
  | integer (value : Int)
  | fraction (text : String)
  | text (text : String)
  deriving DecidableEq, Repr, Inhabited

/-- The name that a key stands for. -/
def Key.name : Key → String
  | .bool value => toString value
  | .integer n => toString n
  | .fraction name | .text name => name

/-- The key that a value is. -/
def key? : Yaml → Option Key
  | .scalar tag plain text =>
    match meaning tag plain text with
    | .null | .misfit => none
    | .bool value => some (.bool value)
    | .integer n => some (.integer n)
    | .fraction => some (.fraction text)
    | .text => some (.text text)
  | _ => none

/-- Whether a value stands for nothing. -/
def isNothing : Yaml → Bool
  | .scalar tag plain text => meaning tag plain text == .misfit
  | .alias _ | .unfinished => true
  | _ => false

end Yaml

namespace Setting

mutual

/-- The setting that a value stands for. -/
def ofYaml? (origin : Origin) : Yaml → Option Setting
  | .scalar tag plain text =>
    ((Yaml.meaning tag plain text).toScalar? text).map (.scalar origin ·)
  | .sequence items => (ofYamlItems? origin items).map (.list origin ·)
  | .mapping parts => do
    let members ← ofYamlParts? origin parts
    if (members.map (·.1)).Nodup then
      some (.table origin (Ascending.ofPairs (members.map fun m => (m.1.name, m.2))))
    else none
  | .alias _ | .unfinished => some (.scalar origin .null)

def ofYamlItems? (origin : Origin) : List Yaml → Option (List Setting)
  | [] => some []
  | item :: rest => do some ((← ofYaml? origin item) :: (← ofYamlItems? origin rest))

/-- The pairs of keys and values that follow each other; a part without a partner is left out. -/
def ofYamlParts? (origin : Origin) : List Yaml → Option (List (Yaml.Key × Setting))
  | [] => some []
  | part :: rest =>
    if part.isNothing then ofYamlParts? origin rest
    else match rest with
      | [] => some []
      | value :: rest => do
        let key ← part.key?
        let value ← ofYaml? origin value
        some ((key, value) :: (← ofYamlParts? origin rest))

end

end Setting

end AudienceRouting
