/-
  Audience routing — walking a tree with an explicit stack.

  Trees that are read from JSON or built by hand may be arbitrarily deep.
  `Expr.visit` goes through a tree in preorder, left to right, and keeps the
  nodes still to visit, each with its level, on a stack of its own.  The depth,
  the number of nodes and the distinct tags of a tree are read off such a walk.
-/
import AudienceRouting.Expr

namespace AudienceRouting.Expr

/-- The nodes below `e` that a walk has to visit once it has seen `e` at `level`. -/
def pushChildren (level : Nat) (e : Expr) (stack : List (Nat × Expr)) : List (Nat × Expr) :=
  e.children.map (level + 1, ·) ++ stack

theorem sizes_pushChildren (level : Nat) (e : Expr) (stack : List (Nat × Expr)) :
    sizes ((pushChildren level e stack).map (·.2)) + 1 = size e + sizes (stack.map (·.2)) := by
  simp [pushChildren, sizes_append, size_eq, Function.comp_def]
  omega

/-- Feeds the waiting nodes and all below them to `see`, the node on top of the stack first. -/
def visit {α : Type} (see : α → Nat → Expr → α) (found : α) (stack : List (Nat × Expr)) : α :=
  match stack with
  | [] => found
  | (level, e) :: rest => visit see (see found level e) (pushChildren level e rest)
termination_by sizes (stack.map (·.2))
decreasing_by
  have := sizes_pushChildren level e rest
  simp [sizes]; omega

/-- Feeds every node of a tree to `see`; the root is at level 1. -/
def walk {α : Type} (see : α → Nat → Expr → α) (found : α) (e : Expr) : α :=
  visit see found [(1, e)]

/-- The deepest level of a tree. -/
def depth (e : Expr) : Nat :=
  e.walk (fun deepest level _ => max deepest level) 0

/-- The number of nodes of a tree. -/
def nodeCount (e : Expr) : Nat :=
  e.walk (fun count _ _ => count + 1) 0

/-- Notes a tag that was not seen before. -/
def noteLiteral (seen : List String) : Expr → List String
  | .tag value => if value ∈ seen then seen else seen ++ [value]
  | _ => seen

/-- The distinct tags of a tree in the order of their first appearance. -/
def literals (e : Expr) : List String :=
  e.walk (fun seen _ e => noteLiteral seen e) []

end AudienceRouting.Expr
