/-
  Audience routing — the shape of configurations.

  Each configuration is a record.  Everything but the name of an audience may be
  left out.
-/
import AudienceRouting.Config
import AudienceRouting.Record

namespace AudienceRouting

variable {α ε : Type}

def MatchOptions.decode (d : Dialect α ε) (a : α) : Except ε MatchOptions := do
  let r ← d.fields "MatchOptions" a
  let caseSensitive := d.field r "case_sensitive" 0 d.bool true
  let categoryMode := d.field r "category_mode" 1 d.bool false
  let wildcards := d.field r "wildcards" 2 d.bool false
  d.visit r [("case_sensitive", outcome caseSensitive), ("category_mode", outcome categoryMode),
    ("wildcards", outcome wildcards)]
  .ok ⟨← caseSensitive, ← categoryMode, ← wildcards⟩

def CacheConfig.decode (d : Dialect α ε) (a : α) : Except ε CacheConfig := do
  let r ← d.fields "CacheConfig" a
  let capacity := d.field r "capacity" 0 d.word ExpressionCache.defaultCapacity
  d.visit r [("capacity", outcome capacity)]
  .ok ⟨← capacity⟩

def EngineConfig.decode (d : Dialect α ε) (a : α) : Except ε EngineConfig := do
  let r ← d.fields "EngineConfig" a
  let matching := d.field r "matching" 0 (MatchOptions.decode d) {}
  let cache := d.field r "cache" 1 (CacheConfig.decode d) {}
  d.visit r [("matching", outcome matching), ("cache", outcome cache)]
  .ok ⟨← matching, ← cache⟩

def AudienceConfig.decode (d : Dialect α ε) (a : α) : Except ε AudienceConfig := do
  let r ← d.fields "AudienceConfig" a
  let name := d.field? r "name" 0 d.text
  let named := match name, r with
    | some name, _ => name
    | none, .byName _ => .ok ""
    | none, .byPosition _ => .error (d.tooShort "AudienceConfig" 5)
  let expression := d.field r "expression" 1 d.text ""
  let services := d.field r "services" 2 (d.list d.text) []
  let minSeverity := d.field r "min_severity" 3 (d.option d.text) none
  let description := d.field r "description" 4 (d.option d.text) none
  d.visit r [("name", outcome named), ("expression", outcome expression),
    ("services", outcome services), ("min_severity", outcome minSeverity),
    ("description", outcome description)]
  match name with
  | none => .error (d.missing "name")
  | some name => .ok ⟨← name, ← expression, ← services, ← minSeverity, ← description⟩

def AudiencesConfig.decode (d : Dialect α ε) (a : α) : Except ε AudiencesConfig := do
  let r ← d.fields "AudiencesConfig" a
  let audiences := d.field r "audiences" 0 (d.list (AudienceConfig.decode d)) []
  let levels := d.field r "severity_levels" 1 (d.list d.text) SeverityLevels.defaultNames
  d.visit r [("audiences", outcome audiences), ("severity_levels", outcome levels)]
  .ok ⟨← audiences, ← levels⟩

end AudienceRouting
