/-
  Audience routing — whether an expression holds of a set of tags.
-/
import AudienceRouting.Expr.SyntaxError
import AudienceRouting.Expr.Walk
import AudienceRouting.Matching

namespace AudienceRouting

/-- A tree with more levels than `maxDepth`. -/
structure DepthExceeded where
  depth : Nat
  deriving DecidableEq, Repr, Inhabited

def DepthExceeded.message (e : DepthExceeded) : String :=
  "expression tree depth " ++ toString e.depth ++ " exceeds limit of " ++ toString maxDepth

namespace Expr

mutual

/-- Whether the expression holds of `tags`. -/
def holds (tags : TagSet) (options : MatchOptions) : Expr → Bool
  | .always => true
  | .tag value => tags.satisfies value options
  | .not child => !holds tags options child
  | .chain .and operands => allHold tags options operands
  | .chain .or operands => someHolds tags options operands

def allHold (tags : TagSet) (options : MatchOptions) : List Expr → Bool
  | [] => true
  | e :: rest => holds tags options e && allHold tags options rest

def someHolds (tags : TagSet) (options : MatchOptions) : List Expr → Bool
  | [] => false
  | e :: rest => holds tags options e || someHolds tags options rest

end

theorem allHold_eq_all (tags : TagSet) (options : MatchOptions) (es : List Expr) :
    allHold tags options es = es.all (holds tags options) := by
  induction es with
  | nil => rfl
  | cons e rest ih => simp [allHold, ih]

theorem someHolds_eq_any (tags : TagSet) (options : MatchOptions) (es : List Expr) :
    someHolds tags options es = es.any (holds tags options) := by
  induction es with
  | nil => rfl
  | cons e rest ih => simp [someHolds, ih]

/-- Refuses trees that no text reads as because they are too deep. -/
def checkDepth (e : Expr) : Except DepthExceeded Unit :=
  if e.depth ≤ maxDepth then .ok () else .error ⟨e.depth⟩

/-- Whether the expression holds of `tags`, for trees of any origin. -/
def holdsChecked (tags : TagSet) (options : MatchOptions) (e : Expr) :
    Except DepthExceeded Bool := do
  e.checkDepth
  .ok (e.holds tags options)

end Expr

end AudienceRouting
