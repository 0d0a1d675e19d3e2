/-
  Audience routing — loading configurations and registries.

  The settings of an engine are those of a file, if one is given, with those of
  the environment on top.  Audiences come from a file of settings too.  A file
  that is not there is looked for with the extensions of the formats behind its
  name, or behind a name of its own in a directory.  Registries are read from
  files in YAML if the extension says so, and in JSON otherwise.
-/
import AudienceRouting.Config.Shape
import AudienceRouting.Event
import AudienceRouting.Files
import AudienceRouting.Registry.Encoding
import AudienceRouting.Settings.Dialect
import AudienceRouting.Settings.Environment
import AudienceRouting.Settings.FileFormat

namespace AudienceRouting

/-- What went wrong while something was loaded. -/
inductive LoadError where
  | engineUnreadable
  | engineInvalid (cause : SettingError)
  | audiencesUnreadable (path : String)
  | audiencesInvalid (path : String) (cause : SettingError)
  | entitiesUnreadable (path : String)
  | entitiesInvalid (path : String) (format : FileFormat)
  deriving DecidableEq, Repr, Inhabited

namespace LoadError

def message : LoadError → String
  | engineUnreadable => "Config: Failed to read engine configuration"
  | engineInvalid _ => "Config: Invalid engine configuration"
  | audiencesUnreadable path => "Config: Failed to read audiences from " ++ Text.quoted path
  | audiencesInvalid path _ => "Config: Invalid audiences file " ++ Text.quoted path
  | entitiesUnreadable path => "Config: Failed to read entities file " ++ Text.quoted path
  | entitiesInvalid path .yaml => "Config: Invalid YAML entities file " ++ Text.quoted path
  | entitiesInvalid path _ => "Config: Invalid JSON entities file " ++ Text.quoted path

/-- The setting that is to blame, in words. -/
def cause? : LoadError → Option String
  | engineInvalid cause | audiencesInvalid _ cause => some cause.message
  | _ => none

end LoadError

/-! ## Settings -/

namespace Files

/-- A file of settings: its path, format and text. -/
structure Found where
  path : String
  format : FileFormat
  text : String
  deriving Repr, Inhabited

/-- The paths that are tried for a file that is not there, with their formats. -/
def tried (path : String) : List (FileFormat × String) :=
  let name := if path.isEmpty || path.endsWith "/" then path ++ ".placeholder" else path
  FileFormat.all.flatMap fun format =>
    format.extensions.map fun extension => (format, name ++ "." ++ extension)

/-- Finds a file of settings.  One that is there has to have the extension of a format. -/
def find? (files : Files) (path : String) : Option Found :=
  match files.read? path with
  | some text => do
    let format ← FileFormat.ofExtension? (← Path.extension? path)
    some ⟨Path.plain path, format, text⟩
  | none =>
    (tried path).findSome? fun (format, path) => (files.read? path).map (⟨Path.plain path, format, ·⟩)

/-- The members of the settings in a file. -/
def settings? (files : Files) (path : String) : Option (List (String × Setting)) := do
  let found ← files.find? path
  found.format.readMembers? (.file found.path) found.text

end Files

def EngineConfig.load (files : Files) (env : Environment) (path : Option String) :
    Except LoadError EngineConfig := do
  let below ← match path with
    | none => .ok Setting.empty
    | some path =>
      match files.settings? path with
      | some members => .ok (Setting.empty.layer members)
      | none => .error .engineUnreadable
  (EngineConfig.decode Setting.dialect (below.layer env.settings)).mapError .engineInvalid

def AudiencesConfig.load (files : Files) (path : String) : Except LoadError AudiencesConfig :=
  match files.settings? path with
  | some members =>
    (AudiencesConfig.decode Setting.dialect (Setting.empty.layer members)).mapError
      (.audiencesInvalid path)
  | none => .error (.audiencesUnreadable path)

/-! ## Registries -/

/-- The format of a file of entities. -/
def Registry.formatOf (path : String) : FileFormat :=
  match (Path.extension? path).map Text.lowercase with
  | some "yaml" | some "yml" => .yaml
  | _ => .json

/-- Reads a registry in a format. -/
def Registry.read? (format : FileFormat) (text : String) : Option Registry :=
  match format with
  | .yaml =>
    match Yaml.Document.read? .v1_1 text with
    | some (some document) => ofYaml? document
    | some none => some (ofList [])
    | none => none
  | _ => (Json.read? text).bind ofJson?

/-- Loads a registry, and notes that. -/
def Registry.load (files : Files) (path : String) : Except LoadError (Registry × Event) :=
  match files.read? path with
  | none => .error (.entitiesUnreadable path)
  | some text =>
    let format := formatOf path
    match Registry.read? format text with
    | none => .error (.entitiesInvalid path format)
    | some registry => .ok (registry, .loaded registry.size path)

end AudienceRouting
