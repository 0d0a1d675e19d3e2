/-
  Audience routing — an engine: options for matching, and a cache of its own.

  Every operation looks its expression up in the cache, and so gives the engine
  after it beside its answer.  The answers do not depend on what the cache keeps.
-/
import AudienceRouting.Config
import AudienceRouting.Event
import AudienceRouting.Explanation
import AudienceRouting.Registry

namespace AudienceRouting

structure Engine where
  options : MatchOptions
  cache : ExpressionCache
  deriving Repr, Inhabited

namespace Engine

/-- The engine with a configuration, nothing cached yet. -/
def ofConfig (config : EngineConfig) : Engine :=
  ⟨config.matching, .empty config.cache.capacity⟩

/-- The engine with options for matching and a cache of the usual size. -/
def withOptions (options : MatchOptions) : Engine :=
  ⟨options, .empty ExpressionCache.defaultCapacity⟩

/-- The tree of an expression. -/
def compile (engine : Engine) (expression : String) (eviction : Eviction := .oldest) :
    Except SyntaxError Expr × Engine :=
  let (tree, cache) := engine.cache.getOrRead eviction expression
  (tree, { engine with cache })

/-- Whether an expression holds of a set of tags. -/
def holds (engine : Engine) (expression : String) (tags : TagSet)
    (eviction : Eviction := .oldest) : Except SyntaxError Bool × Engine :=
  let (tree, engine) := engine.compile expression eviction
  (tree.map (·.holds tags engine.options), engine)

/-- Why an expression holds of a set of tags or does not. -/
def explain (engine : Engine) (expression : String) (tags : TagSet)
    (eviction : Eviction := .oldest) : Except SyntaxError Explanation × Engine :=
  let (tree, engine) := engine.compile expression eviction
  (tree.map (·.explain tags engine.options), engine)

/-- The entities of which an expression holds, with a note of how many they are. -/
def resolve (engine : Engine) (expression : String) (registry : Registry)
    (eviction : Eviction := .oldest) : Except SyntaxError (List String × List Event) × Engine :=
  let (tree, engine) := engine.compile expression eviction
  let answer (tree : Expr) : List String × List Event :=
    let matched := registry.resolve tree engine.options
    (matched, [.resolved expression matched.length registry.size])
  (tree.map answer, engine)

end Engine

end AudienceRouting
