/-
  Audience routing — a bounded cache of expressions that have been read.

  The cache maps texts to trees and counts how often a text was found.  Texts
  that do not read are not kept.  Once there are more trees than the capacity
  allows, an `Eviction` says which of them stay; a capacity of zero keeps none.
-/
import AudienceRouting.Expr.Reader

namespace AudienceRouting

/-- A rule for which entries of a cache stay when at most `capacity` of them may. -/
structure Eviction where
  keep : (capacity : Nat) → List (String × Expr) → List (String × Expr)
  sublist : ∀ capacity entries, (keep capacity entries).Sublist entries
  length_le : ∀ capacity entries, (keep capacity entries).length ≤ capacity

/-- The latest entries stay. -/
def Eviction.oldest : Eviction where
  keep := fun capacity entries => entries.take capacity
  sublist := fun capacity entries => List.take_sublist capacity entries
  length_le := fun capacity entries => List.length_take_le capacity entries

instance : Inhabited Eviction := ⟨.oldest⟩

structure ExpressionCache where
  /-- the most trees that are kept -/
  capacity : Nat
  /-- texts with their trees, latest first -/
  entries : List (String × Expr)
  hits : Nat
  misses : Nat
  deriving Repr, Inhabited

namespace ExpressionCache

/-- The capacity that caches have by default. -/
def defaultCapacity : Nat := 256

/-- The cache in which nothing is kept and nothing was looked for. -/
def empty (capacity : Nat) : ExpressionCache := ⟨capacity, [], 0, 0⟩

/-- Whether the cache ever keeps anything. -/
def isEnabled (cache : ExpressionCache) : Bool := 0 < cache.capacity

/-- The tree kept for a text. -/
def find? (cache : ExpressionCache) (text : String) : Option Expr :=
  (cache.entries.find? (·.1 = text)).map (·.2)

/-- The tree of a text, kept or read, and the cache after that. -/
def getOrRead (cache : ExpressionCache) (eviction : Eviction) (text : String) :
    Except SyntaxError Expr × ExpressionCache :=
  match cache.find? text with
  | some tree => (.ok tree, { cache with hits := cache.hits + 1 })
  | none =>
    let missed := { cache with misses := cache.misses + 1 }
    match Expr.read text with
    | .error e => (.error e, missed)
    | .ok tree =>
      (.ok tree,
        { missed with entries := eviction.keep cache.capacity ((text, tree) :: cache.entries) })

/-- The number of trees that are kept. -/
def size (cache : ExpressionCache) : Nat := cache.entries.length

def isEmpty (cache : ExpressionCache) : Bool := cache.size = 0

/-- Whether a tree is kept for a text. -/
def contains (cache : ExpressionCache) (text : String) : Bool :=
  cache.entries.any (·.1 = text)

/-- Drops all trees; the counters stay. -/
def clear (cache : ExpressionCache) : ExpressionCache := { cache with entries := [] }

/-- A line on the state of the cache. -/
def describe (cache : ExpressionCache) : String :=
  "ExpressionCache \x7b enabled: " ++ toString cache.isEnabled ++
    ", stats: CacheStats \x7b hits: " ++ toString cache.hits ++
    ", misses: " ++ toString cache.misses ++ " \x7d, .. \x7d"

end ExpressionCache

end AudienceRouting
