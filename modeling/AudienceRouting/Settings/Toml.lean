/-
  Audience routing — settings in TOML.

  A date or time is text.
-/
import AudienceRouting.Settings
import AudienceRouting.Toml

namespace AudienceRouting.Setting

mutual

def ofToml (origin : Origin) : Toml → Setting
  | .string s => .scalar origin (.text s)
  | .integer n => .scalar origin (.integer n)
  | .float x => .scalar origin (.float x)
  | .bool value => .scalar origin (.bool value)
  | .dateTime s => .scalar origin (.text s)
  | .array items => .list origin (ofTomlItems origin items)
  | .table members => .table origin (ofTomlMembers origin members)

def ofTomlItems (origin : Origin) : List Toml → List Setting
  | [] => []
  | item :: rest => ofToml origin item :: ofTomlItems origin rest

def ofTomlMembers (origin : Origin) : List (String × Toml) → List (String × Setting)
  | [] => []
  | (name, value) :: rest => (name, ofToml origin value) :: ofTomlMembers origin rest

end

end AudienceRouting.Setting
