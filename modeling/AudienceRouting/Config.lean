/-
  Audience routing — what can be configured.

  An engine is configured by how it matches and by how much it caches; routing
  by the audiences and the severity levels.
-/
import AudienceRouting.ExpressionCache
import AudienceRouting.Matching
import AudienceRouting.Severity

namespace AudienceRouting

structure CacheConfig where
  /-- the most expressions that are kept; 0 turns the cache off -/
  capacity : Nat := ExpressionCache.defaultCapacity
  deriving DecidableEq, Repr, Inhabited

structure EngineConfig where
  matching : MatchOptions := {}
  cache : CacheConfig := {}
  deriving DecidableEq, Repr, Inhabited

/-- A target of notifications. -/
structure AudienceConfig where
  name : String
  /-- which entities belong to it; an empty expression takes all -/
  expression : String := ""
  /-- how the notifications are delivered -/
  services : List String := []
  /-- the least severity that is delivered; the lowest level if there is none -/
  minSeverity : Option String := none
  description : Option String := none
  deriving DecidableEq, Repr, Inhabited

structure AudiencesConfig where
  audiences : List AudienceConfig := []
  /-- the names of the severity levels, the least severe first -/
  severityLevels : List String := SeverityLevels.defaultNames
  deriving DecidableEq, Repr, Inhabited

end AudienceRouting
