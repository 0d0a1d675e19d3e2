/-
  Audience routing — the kinds of nodes and their names in JSON.
-/
import AudienceRouting.Expr

namespace AudienceRouting

inductive NodeKind where
  | always
  | tag
  | not
  | chain (connective : Connective)
  deriving DecidableEq, Repr, Inhabited

namespace NodeKind

/-- All kinds, in the order in which messages list them. -/
def all : List NodeKind := [.always, .tag, .not, .chain .and, .chain .or]

def name : NodeKind → String
  | .always => "always_match"
  | .tag => "tag"
  | .not => "not"
  | .chain .and => "and"
  | .chain .or => "or"

/-- The kind with a name. -/
def ofName? (name : String) : Option NodeKind := all.find? (·.name = name)

end NodeKind

/-- The kind of the root. -/
def Expr.kind : Expr → NodeKind
  | .always => .always
  | .tag _ => .tag
  | .not _ => .not
  | .chain c _ => .chain c

theorem NodeKind.ofName?_name (k : NodeKind) : ofName? k.name = some k := by
  rcases k with _ | _ | _ | c
  iterate 3 decide
  cases c <;> decide

end AudienceRouting
