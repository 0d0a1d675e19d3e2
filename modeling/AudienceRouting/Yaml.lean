/-
  Audience routing — YAML values.

  A scalar keeps its text and its tag, and whether it was written plainly; what
  it stands for is left to whoever reads it.
-/

namespace AudienceRouting

/-- The kind of a value: the name behind the handle, and what the handle stands for. -/
structure YamlTag where
  handle : String
  suffix : String
  deriving DecidableEq, Repr, Inhabited

inductive Yaml where
  | scalar (tag : Option YamlTag) (plain : Bool) (text : String)
  | sequence (items : List Yaml)
  /-- keys and values in turn -/
  | mapping (parts : List Yaml)
  /-- what the anchor with a number stands for -/
  | alias (anchor : Nat)
  /-- an alias inside of the value that it stands for -/
  | unfinished
  deriving Repr, Inhabited, BEq

end AudienceRouting
