/-
  Audience routing — settings in JSON.

  Of several members with one name the last one counts.
-/
import AudienceRouting.Json
import AudienceRouting.Settings

namespace AudienceRouting

def Scalar.ofNumber : Json.Number → Scalar
  | .integer n => .integer n
  | .double x => .float x

namespace Setting

mutual

def ofJson (origin : Origin) : Json → Setting
  | .null => .scalar origin .null
  | .bool value => .scalar origin (.bool value)
  | .number n => .scalar origin (.ofNumber n)
  | .string s => .scalar origin (.text s)
  | .array items => .list origin (ofJsonItems origin items)
  | .object members => .table origin (Ascending.ofPairs (ofJsonMembers origin members))

def ofJsonItems (origin : Origin) : List Json → List Setting
  | [] => []
  | item :: rest => ofJson origin item :: ofJsonItems origin rest

def ofJsonMembers (origin : Origin) : List (String × Json) → List (String × Setting)
  | [] => []
  | (name, value) :: rest => (name, ofJson origin value) :: ofJsonMembers origin rest

end

end Setting

end AudienceRouting
