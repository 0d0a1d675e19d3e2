/-
  Audience routing — depth, number of nodes and distinct tags of a tree.

  * `Expr.WorkedOff waiting seen`: `seen` are the waiting nodes and all below them, in an order in
    which they can be seen: any waiting node is next, and its children wait with the others.

  The number of nodes that a walk sees is the structural size (`nodeCount_eq_size`), and the tags
  that it notes are the leaves without repetitions (`literals_eq_eraseDups`).  What the nodes add up
  to does not depend on the order in which they are seen (`WorkedOff.foldl_eq_walk`), so depth and
  number of nodes do not.

  `queries_structural`: each query in terms of the trees right below the root.
-/
import Mathlib.Algebra.GroupWithZero.Nat
import AudienceRouting.Proofs.Preorder

namespace AudienceRouting.Expr

/-! ## Measures, child by child -/

theorem sizes_eq_sum (es : List Expr) : sizes es = (es.map size).sum := by
  induction es with
  | nil => rfl
  | cons e es ih => rw [sizes, ih, List.map_cons, List.sum_cons]

theorem heights_eq_foldr (es : List Expr) : heights es = (es.map height).foldr max 0 := by
  induction es with
  | nil => rfl
  | cons e es ih => rw [heights, ih, List.map_cons, List.foldr_cons]

theorem height_eq (e : Expr) : e.height = heights e.children + 1 := by
  cases e <;> simp [height, heights, children]

/-! ## The number of nodes -/

theorem length_nodes (e : Expr) (level : Nat) : (e.nodes level).length = e.size := by
  induction e generalizing level with
  | always => rfl
  | tag value => rfl
  | not child ih => rw [nodes, size, List.length_cons, ih]
  | chain c es ih =>
    rw [nodes, size, nodesOfAll_eq_flatMap, List.length_cons, List.length_flatMap, sizes_eq_sum,
      List.map_congr_left fun e he => ih e he (level + 1)]

theorem nodeCount_eq_size (e : Expr) : e.nodeCount = e.size := by
  rw [nodeCount, walk_eq_foldl, List.foldl_add_const, length_nodes]
  omega

/-! ## The distinct tags -/

/-- The tags that are noted after those in `seen` are new, and each of them is noted once. -/
theorem foldl_noteLiteral (values seen : List String) :
    values.foldl (fun seen value => noteLiteral seen (.tag value)) seen =
      seen ++ (values.removeAll seen).eraseDups := by
  induction values generalizing seen with
  | nil => simp [List.removeAll]
  | cons value values ih =>
    rw [List.foldl_cons, ih, List.cons_removeAll]
    by_cases hseen : value ∈ seen
    · simp [noteLiteral, hseen]
    · have hnote : noteLiteral seen (.tag value) = seen ++ [value] := if_neg hseen
      have hrest : values.removeAll (seen ++ [value]) =
          (values.removeAll seen).filter fun other => !other == value := by
        simp only [List.removeAll, List.filter_filter]
        exact List.filter_congr fun other _ => by simp [Bool.and_comm, beq_eq_decide]
      rw [hnote, hrest, if_pos (by simpa using hseen), List.eraseDups_cons, List.append_assoc,
        List.singleton_append]

theorem literals_eq_eraseDups (e : Expr) : e.literals = e.leaves.eraseDups := by
  rw [literals_eq, foldl_noteLiteral]
  simp [List.removeAll]

/-! ## The order in which nodes are seen -/

inductive WorkedOff : List (Nat × Expr) → List (Nat × Expr) → Prop
  | done : WorkedOff [] []
  | take {waiting rest seen : List (Nat × Expr)} {level : Nat} {e : Expr} :
      waiting.Perm ((level, e) :: rest) → WorkedOff (pushChildren level e rest) seen →
      WorkedOff waiting ((level, e) :: seen)

namespace WorkedOff

variable {waiting seen : List (Nat × Expr)} {e : Expr}

/-- Taking the first node each time is one of the orders. -/
theorem preorder (waiting : List (Nat × Expr)) :
    WorkedOff waiting (waiting.flatMap fun x => x.2.nodes x.1) :=
  match waiting with
  | [] => .done
  | (level, e) :: rest => by
    rw [flatMap_nodes_cons]
    exact .take (.refl _) (preorder (pushChildren level e rest))
termination_by sizes (waiting.map (·.2))
decreasing_by
  have := sizes_pushChildren level e rest
  simp [sizes]; omega

/-- Whichever node is taken, the same nodes are left to be seen. -/
theorem perm (h : WorkedOff waiting seen) :
    seen.Perm (waiting.flatMap fun x => x.2.nodes x.1) := by
  induction h with
  | done => exact .nil
  | @take waiting rest seen level e htake _ ih =>
    have hseen : ((level, e) :: seen).Perm
        (((level, e) :: rest).flatMap fun x => x.2.nodes x.1) := by
      rw [flatMap_nodes_cons]
      exact ih.cons _
    exact hseen.trans (htake.flatMap_right _).symm

/-- **The order does not matter**, if it does not matter which of two nodes comes first. -/
theorem foldl_eq_walk {α : Type} (see : α → Nat → Expr → α)
    (hsee : ∀ a l x l' x', see (see a l x) l' x' = see (see a l' x') l x)
    (h : WorkedOff [(1, e)] seen) (found : α) :
    seen.foldl (fun a x => see a x.1 x.2) found = e.walk see found := by
  have hperm : seen.Perm (e.nodes 1) := by simpa using h.perm
  rw [walk_eq_foldl]
  exact hperm.foldl_eq' (fun x _ y _ a => hsee a x.1 x.2 y.1 y.2) found

theorem depth_eq (h : WorkedOff [(1, e)] seen) :
    seen.foldl (fun deepest x => max deepest x.1) 0 = e.depth :=
  h.foldl_eq_walk (fun deepest level _ => max deepest level)
    (fun deepest l _ l' _ => Nat.max_right_comm deepest l l') 0

theorem nodeCount_eq (h : WorkedOff [(1, e)] seen) : seen.length = e.nodeCount := by
  have hlength := h.perm.length_eq
  rw [nodeCount_eq_size, hlength]
  simp [length_nodes]

end WorkedOff

/-- **The queries, structurally.**  A tree is one level deeper than the deepest tree right below its
    root, has one node more than these have together, and its distinct tags are its leaves from
    left to right, each where it first appears. -/
theorem queries_structural (e : Expr) :
    e.depth = 1 + (e.children.map depth).foldr max 0 ∧
    e.nodeCount = 1 + (e.children.map nodeCount).sum ∧
    e.literals = e.leaves.eraseDups := by
  refine ⟨?_, ?_, literals_eq_eraseDups e⟩
  · rw [depth_eq_height, height_eq, heights_eq_foldr, Nat.add_comm,
      List.map_congr_left fun child _ => depth_eq_height child]
  · rw [nodeCount_eq_size, size_eq, sizes_eq_sum, Nat.add_comm,
      List.map_congr_left fun child _ => nodeCount_eq_size child]

/-- An empty chain is a node, and a chain of the same connective a level of its own. -/
example :
    let e := chain .or [chain .and [], .not (.tag "b"), chain .or [.tag "a", .tag "b"]]
    e.depth = 3 ∧ e.nodeCount = 7 ∧ e.literals = ["b", "a"] := by
  decide +kernel

end AudienceRouting.Expr
