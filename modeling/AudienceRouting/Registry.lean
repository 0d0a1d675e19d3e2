/-
  Audience routing — the entities and their tags.

  A registry has one set of tags for each entity, in ascending order of the
  entities.  Resolving an expression gives the entities of which it holds.  A
  registry of `scanThreshold` entities or more may be scanned in parts; the
  matches then come in any order, and are sorted at the end.
-/
import AudienceRouting.Evaluation

namespace AudienceRouting

/-- The tags of all entities. -/
structure Registry where
  entries : List (String × TagSet)
  ascending : (entries.map (·.1)).Pairwise (· < ·)

namespace Registry

/-- The registry with the given entities; of several with one name the last one counts. -/
def ofList (entries : List (String × TagSet)) : Registry :=
  ⟨Ascending.ofPairs entries, Ascending.pairwise_ofPairs entries⟩

instance : Inhabited Registry := ⟨ofList []⟩

def size (r : Registry) : Nat := r.entries.length

/-- The tags of an entity. -/
def tagsOf? (r : Registry) (id : String) : Option TagSet :=
  (r.entries.find? (·.1 = id)).map (·.2)

/-- From this many entities on the matches may come in any order. -/
def scanThreshold : Nat := 1024

/-- An order in which the matches of a large registry come in. -/
structure Delivery where
  arrange : List String → List String
  perm : ∀ found, (arrange found).Perm found

/-- The matches come in as they are found. -/
def Delivery.inOrder : Delivery := ⟨id, fun _ => .refl _⟩

instance : Inhabited Delivery := ⟨.inOrder⟩

/-- The entities of which `e` holds, as a scan from the front finds them. -/
def scan (e : Expr) (options : MatchOptions) (entries : List (String × TagSet)) : List String :=
  (entries.filter fun entry => e.holds entry.2 options).map (·.1)

/-- The entities of which `e` holds, in ascending order, whatever the order in which the matches
    come in. -/
def resolveWith (delivery : Delivery) (e : Expr) (r : Registry) (options : MatchOptions) :
    List String :=
  let found := scan e options r.entries
  let delivered := if r.size < scanThreshold then found else delivery.arrange found
  delivered.mergeSort (fun a b => a ≤ b)

/-- The entities of which `e` holds, in ascending order. -/
def resolve (r : Registry) (e : Expr) (options : MatchOptions) : List String :=
  resolveWith .inOrder e r options

end Registry

end AudienceRouting
