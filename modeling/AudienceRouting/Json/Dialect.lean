/-
  Audience routing — records in JSON.

  Values are taken strictly: only booleans are booleans, and only integers from
  0 to 2^64-1 are words.  Errors do not say where in the value they are.
-/
import AudienceRouting.Json.Mismatch
import AudienceRouting.Record

namespace AudienceRouting.Json

def toBool : Json → Except Mismatch Bool
  | .bool value => .ok value
  | j => .error (.type j "a boolean")

def toText : Json → Except Mismatch String
  | .string value => .ok value
  | j => .error (.type j "a string")

/-- An integer from 0 to 2^64-1. -/
def toWord : Json → Except Mismatch Nat
  | .number (.integer n) =>
    if 0 ≤ n then .ok n.toNat else .error (.value (.ofInt n) "u64")
  | j => .error (.type j "u64")

def toItems : Json → Except Mismatch (List Json)
  | .array items => .ok items
  | j => .error (.type j "a sequence")

/-- The fields of the record with a name. -/
def toFields (name : String) (j : Json) : Except Mismatch (Record Json) :=
  match j.sorted with
  | .object members => .ok (.byName members)
  | .array items => .ok (.byPosition items)
  | j => .error (.type j ("struct " ++ name))

def isNull : Json → Bool
  | .null => true
  | _ => false

/-- How records are read from JSON. -/
def dialect : Dialect Json Mismatch where
  bool := toBool
  word := toWord
  text := toText
  isNull := isNull
  items := toItems
  fields := toFields
  under := fun _ e => e
  missing := .missingField
  tooShort := fun name fields =>
    .length 0 ("struct " ++ name ++ " with " ++ toString fields ++ " elements")
  tooLong := fun items => some (.length items "fewer elements in array")

end AudienceRouting.Json
