/-
  Audience routing — settings in files.

  The extension of a file says in which format it is written: TOML, JSON or YAML.
  Other formats of settings are left out, INI, RON and JSON5 among them: a file
  with the extension of one is refused, as one with an unknown extension is, and
  none is tried for a file that is not there.
-/
import AudienceRouting.Json.Reader
import AudienceRouting.Settings.Json
import AudienceRouting.Settings.Toml
import AudienceRouting.Settings.Yaml
import AudienceRouting.Toml.Reader
import AudienceRouting.Yaml.Document

namespace AudienceRouting

/-- A format of files. -/
inductive FileFormat where
  | toml
  | json
  | yaml
  deriving DecidableEq, Repr, Inhabited

namespace FileFormat

def all : List FileFormat := [.toml, .json, .yaml]

/-- The extensions of the names of such files. -/
def extensions : FileFormat → List String
  | .toml => ["toml"]
  | .json => ["json"]
  | .yaml => ["yaml", "yml"]

/-- The format of files with an extension. -/
def ofExtension? (extension : String) : Option FileFormat :=
  all.find? (·.extensions.contains extension)

/-- Reads a text as a setting. -/
def read? (format : FileFormat) (origin : Origin) (text : String) : Option Setting :=
  match format with
  | .toml => (Toml.read? text).map fun members => .ofToml origin (.table members)
  | .json => (Json.read? text).map (.ofJson origin)
  | .yaml =>
    match Yaml.Document.read? .v1_2 text with
    | some (some document) => Setting.ofYaml? origin document.root
    | some none => some .empty
    | none => none

/-- Leaves a byte order mark out. -/
def dropMark (text : String) : String :=
  match text.toList with
  | '\ufeff' :: rest => String.ofList rest
  | _ => text

/-- The members of the table that a text of a file stands for. -/
def readMembers? (format : FileFormat) (origin : Origin) (text : String) :
    Option (List (String × Setting)) :=
  match format.read? origin (dropMark text) with
  | some (.table _ members) => some members
  | _ => none

end FileFormat

end AudienceRouting
