/-
  Audience routing — walks with a stack, structurally.

  `Expr.nodes` lists the nodes of a tree in preorder, each with its level.
  `walk_eq_foldl`: a walk with an explicit stack feeds exactly these nodes to its
  function, in this order; so `depth` is the structural height (`depth_eq_height`),
  and `literals` depends on the leaves only (`literals_eq`).
-/
import Mathlib.Data.List.Basic
import AudienceRouting.Expr.Walk

namespace AudienceRouting.Expr

mutual

/-- The nodes in preorder, each with its level; the root is at `level`. -/
def nodes (level : Nat) : Expr → List (Nat × Expr)
  | .always => [(level, .always)]
  | .tag value => [(level, .tag value)]
  | .not child => (level, .not child) :: nodes (level + 1) child
  | .chain c operands => (level, .chain c operands) :: nodesOfAll (level + 1) operands

/-- The nodes of all trees, one tree after the other. -/
def nodesOfAll (level : Nat) : List Expr → List (Nat × Expr)
  | [] => []
  | e :: es => nodes level e ++ nodesOfAll level es

end

theorem nodesOfAll_eq_flatMap (level : Nat) (es : List Expr) :
    nodesOfAll level es = es.flatMap (nodes level) := by
  induction es with
  | nil => rfl
  | cons e es ih => simp [nodesOfAll, ih]

theorem nodes_eq (level : Nat) (e : Expr) :
    e.nodes level = (level, e) :: e.children.flatMap (nodes (level + 1)) := by
  cases e <;> simp [nodes, children, nodesOfAll_eq_flatMap]

/-- Seeing a node and then the trees that its children wait among. -/
theorem flatMap_nodes_cons (level : Nat) (e : Expr) (rest : List (Nat × Expr)) :
    (((level, e) :: rest).flatMap fun x => x.2.nodes x.1) =
      (level, e) :: (pushChildren level e rest).flatMap fun x => x.2.nodes x.1 := by
  rw [List.flatMap_cons, nodes_eq]
  simp [pushChildren, List.flatMap_map]

/-- The invariant of the walk: what is left to see are the nodes of the trees on the stack. -/
theorem visit_eq_foldl {α : Type} (see : α → Nat → Expr → α) (found : α)
    (stack : List (Nat × Expr)) :
    visit see found stack =
      (stack.flatMap fun x => x.2.nodes x.1).foldl (fun a x => see a x.1 x.2) found := by
  fun_induction visit see found stack with
  | case1 found => rfl
  | case2 found level e rest ih =>
    rw [ih, flatMap_nodes_cons, List.foldl_cons]

theorem walk_eq_foldl {α : Type} (see : α → Nat → Expr → α) (found : α) (e : Expr) :
    e.walk see found = (e.nodes 1).foldl (fun a x => see a x.1 x.2) found := by
  simp [walk, visit_eq_foldl]

/-! ## The depth of a tree -/

theorem height_pos (e : Expr) : 0 < e.height := by
  cases e <;> simp [height]

theorem heights_le_iff {es : List Expr} {n : Nat} : heights es ≤ n ↔ ∀ e ∈ es, e.height ≤ n := by
  induction es with
  | nil => simp [heights]
  | cons e es ih => rw [heights, Nat.max_le, ih, List.forall_mem_cons]

theorem height_le_heights {e : Expr} {es : List Expr} (h : e ∈ es) : e.height ≤ heights es :=
  heights_le_iff.1 (Nat.le_refl _) e h

theorem heights_pos {es : List Expr} (h : es ≠ []) : 0 < heights es := by
  obtain ⟨e, he⟩ := List.exists_mem_of_ne_nil es h
  exact Nat.lt_of_lt_of_le e.height_pos (height_le_heights he)

theorem heights_append (as bs : List Expr) :
    heights (as ++ bs) = max (heights as) (heights bs) := by
  induction as with
  | nil => simp [heights]
  | cons a as ih => simp [heights, ih, Nat.max_assoc]

/-- The level of the deepest node, if nothing deeper was found before. -/
def deepest (found : Nat) (nodes : List (Nat × Expr)) : Nat :=
  nodes.foldl (fun d x => max d x.1) found

theorem deepest_flatMap {level : Nat} {es : List Expr}
    (h : ∀ e ∈ es, ∀ found, deepest found (e.nodes (level + 1)) = max found (level + e.height))
    {found : Nat} (hfound : level ≤ found) :
    deepest found (es.flatMap (nodes (level + 1))) = max found (level + heights es) := by
  induction es generalizing found with
  | nil =>
    simp only [deepest, List.flatMap_nil, List.foldl_nil, heights]
    omega
  | cons e es ih =>
    have he := h e (by simp) found
    have hes := ih (List.forall_mem_cons.1 h).2
      (Nat.le_trans hfound (Nat.le_max_left found (level + e.height)))
    simp only [deepest] at he hes ⊢
    rw [List.flatMap_cons, List.foldl_append, he, hes, heights]
    omega

/-- A tree reaches as many levels below the one above its root as it is high. -/
theorem deepest_nodes (e : Expr) (level found : Nat) :
    deepest found (e.nodes (level + 1)) = max found (level + e.height) := by
  induction e generalizing level found with
  | always => rfl
  | tag value => rfl
  | not child ih =>
    have := ih (level + 1) (max found (level + 1))
    simp only [deepest, nodes, List.foldl_cons, height] at this ⊢
    omega
  | chain c operands ih =>
    have := deepest_flatMap (fun e he => ih e he (level + 1)) (Nat.le_max_right found (level + 1))
    simp only [deepest, nodes, nodesOfAll_eq_flatMap, List.foldl_cons, height] at this ⊢
    omega

theorem depth_eq_height (e : Expr) : e.depth = e.height := by
  have := deepest_nodes e 0 0
  simpa [depth, walk_eq_foldl, deepest] using this

/-! ## The tags of a tree -/

/-- Noting the tags of all nodes is noting the leaves. -/
theorem foldl_noteLiteral_nodes (e : Expr) (level : Nat) (seen : List String) :
    (e.nodes level).foldl (fun seen x => noteLiteral seen x.2) seen =
      e.leaves.foldl (fun seen value => noteLiteral seen (.tag value)) seen := by
  induction e generalizing level seen with
  | always => rfl
  | tag value => rfl
  | not child ih => exact ih (level + 1) seen
  | chain c es ih =>
    rw [nodes, leaves, nodesOfAll_eq_flatMap, leavesAll_eq_flatMap, List.foldl_cons,
      List.foldl_flatMap, List.foldl_flatMap]
    exact List.foldl_ext _ _ seen fun seen e he => ih e he (level + 1) seen

theorem literals_eq (e : Expr) :
    e.literals = e.leaves.foldl (fun seen value => noteLiteral seen (.tag value)) [] := by
  rw [literals, walk_eq_foldl, foldl_noteLiteral_nodes]

end AudienceRouting.Expr
