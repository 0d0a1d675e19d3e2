/-
  Audience routing — registries as JSON and YAML.

  A registry is an object whose members are the entities with the lists of their
  tags.  Of several members with one name the last one counts, but all of them
  have to be lists of tags.  In YAML every scalar stands for its text, and a
  value that is left out for an empty list or an empty registry; aliases may not
  be followed too often.
-/
import AudienceRouting.Json
import AudienceRouting.Registry
import AudienceRouting.Yaml.Document

namespace AudienceRouting

/-- The string that a value is. -/
def Json.string? : Json → Option String
  | .string s => some s
  | _ => none

namespace Registry

/-- The tags of an entity. -/
def tagsOfJson? : Json → Option TagSet
  | .array items => (items.mapM Json.string?).map TagSet.ofList
  | _ => none

/-- An entity and its tags. -/
def entryOfJson? (member : String × Json) : Option (String × TagSet) :=
  (tagsOfJson? member.2).map (member.1, ·)

def ofJson? : Json → Option Registry
  | .object members => (members.mapM entryOfJson?).map ofList
  | _ => none

/-! ## YAML -/

/-- The text of a scalar. -/
def textOfYaml? : Yaml → Option String
  | .scalar _ _ text => some text
  | _ => none

/-- Whether nothing is written for a value. -/
def isAbsent : Yaml → Bool
  | .scalar _ plain text => plain && text.isEmpty
  | _ => false

/-- What a value stands for, which for an alias is in the document. -/
def follow (d : Yaml.Document) (y : Yaml) : Yaml :=
  match y with
  | .alias number => (d.find? number).getD .unfinished
  | y => y

/-- How many aliases have to be followed to read some values. -/
def aliases (items : List Yaml) : Nat :=
  (items.filter fun y => match y with
    | .alias _ => true
    | _ => false).length

/-- The items of a sequence. -/
def itemsOfYaml? : Yaml → Option (List Yaml)
  | .sequence items => some items
  | y => if isAbsent y then some [] else none

/-- An entity with its tags, and how many aliases have been followed. -/
def entryOfYaml? (d : Yaml.Document) (key value : Yaml) : Option ((String × TagSet) × Nat) := do
  let id ← textOfYaml? (follow d key)
  let items ← itemsOfYaml? (follow d value)
  let tags ← items.mapM fun item => textOfYaml? (follow d item)
  some ((id, .ofList tags), aliases [key, value] + aliases items)

/-- The entities that keys and values in turn stand for. -/
def entriesOfYaml? (d : Yaml.Document) : List Yaml → Option (List ((String × TagSet) × Nat))
  | key :: value :: rest => do
    some ((← entryOfYaml? d key value) :: (← entriesOfYaml? d rest))
  | _ => some []

/-- How many aliases may be followed for each event of a document. -/
def maxAliases : Nat := 100

/-- The registry that a document stands for. -/
def ofYaml? (d : Yaml.Document) : Option Registry :=
  match d.root with
  | .mapping parts => do
    let entries ← entriesOfYaml? d parts
    if maxAliases * d.size < (entries.map (·.2)).foldl (· + ·) 0 then none
    else some (ofList (entries.map (·.1)))
  | y => if isAbsent y then some (ofList []) else none

end Registry

end AudienceRouting
