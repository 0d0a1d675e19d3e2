/-
  Audience routing — the tokens of YAML.

  Where the indentation of the lines makes a block begin or end, there is a token
  for that, as there is one in front of a key that nothing but the colon behind
  it marks as one.
-/

namespace AudienceRouting.Yaml

inductive Token where
  /-- a directive with the version of YAML -/
  | version (major minor : Nat)
  /-- a directive for a handle of tags -/
  | handle (name : String) (meaning : String)
  | documentStart
  | documentEnd
  | blockSequenceStart
  | blockMappingStart
  | blockEnd
  | flowSequenceStart
  | flowSequenceEnd
  | flowMappingStart
  | flowMappingEnd
  /-- a dash -/
  | blockEntry
  /-- a comma -/
  | flowEntry
  | key
  | value
  | alias (name : String)
  | anchor (name : String)
  | tag (handle suffix : String)
  | scalar (plain : Bool) (text : String)
  deriving DecidableEq, Repr, Inhabited

end AudienceRouting.Yaml
