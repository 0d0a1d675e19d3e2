/-
  Audience routing — configurations as JSON.
-/
import AudienceRouting.Config.Shape
import AudienceRouting.Json.Dialect

namespace AudienceRouting

def MatchOptions.ofJson (j : Json) : Except Mismatch MatchOptions := decode Json.dialect j

def MatchOptions.toJson (o : MatchOptions) : Json :=
  .object [("case_sensitive", .bool o.caseSensitive), ("category_mode", .bool o.categoryMode),
    ("wildcards", .bool o.wildcards)]

def EngineConfig.ofJson (j : Json) : Except Mismatch EngineConfig := decode Json.dialect j

def EngineConfig.toJson (c : EngineConfig) : Json :=
  .object [("matching", c.matching.toJson),
    ("cache", .object [("capacity", .ofNat c.cache.capacity)])]

def AudienceConfig.ofJson (j : Json) : Except Mismatch AudienceConfig := decode Json.dialect j

/-- Text that may be missing, which is written as null. -/
def Json.ofOption (s : Option String) : Json := (s.map Json.string).getD .null

def AudienceConfig.toJson (c : AudienceConfig) : Json :=
  .object [("name", .string c.name), ("expression", .string c.expression),
    ("services", .ofStrings c.services), ("min_severity", .ofOption c.minSeverity),
    ("description", .ofOption c.description)]

def AudiencesConfig.ofJson (j : Json) : Except Mismatch AudiencesConfig := decode Json.dialect j

def AudiencesConfig.toJson (c : AudiencesConfig) : Json :=
  .object [("audiences", .array (c.audiences.map AudienceConfig.toJson)),
    ("severity_levels", .ofStrings c.severityLevels)]

end AudienceRouting
