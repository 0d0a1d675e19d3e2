/-
  Audience routing — tag expressions as trees.

  An expression is a tag, a negation, a chain of operands under one connective,
  or the empty expression, which matches everything.  A chain holds all the
  operands of `a|b|c` in one node, so the height of a tree follows the nesting
  of parentheses and negations only.

  `Expr.join` builds a chain and merges operands that are chains of the same
  connective, one level deep.  `size`, `height` and `leaves` are the structural
  measures of a tree.
-/

namespace AudienceRouting

/-- What holds the operands of a chain together. -/
inductive Connective where
  /-- `+`: all operands hold -/
  | and
  /-- `|`: some operand holds -/
  | or
  deriving DecidableEq, Repr, Inhabited

/-- A tag expression. -/
inductive Expr where
  /-- the empty expression, which matches every set of tags -/
  | always
  | tag (value : String)
  | not (child : Expr)
  | chain (connective : Connective) (operands : List Expr)
  deriving Repr, Inhabited

namespace Expr

/-- To show something of every tree, show it of a chain once it holds of the operands. -/
@[elab_as_elim, induction_eliminator]
theorem induct {motive : Expr → Prop} (always : motive .always)
    (tag : ∀ value, motive (.tag value))
    (not : ∀ child, motive child → motive (.not child))
    (chain : ∀ connective operands, (∀ e ∈ operands, motive e) →
      motive (.chain connective operands)) (e : Expr) : motive e :=
  Expr.rec (motive_1 := motive) (motive_2 := fun es => ∀ e ∈ es, motive e)
    always tag not chain (by simp) (by simp +contextual) e

mutual

/-- Equality of trees is decided node by node. -/
def decEq : (a b : Expr) → Decidable (a = b)
  | .always, .always => isTrue rfl
  | .tag v, .tag w => if h : v = w then isTrue (by rw [h]) else isFalse (by simp [h])
  | .not a, .not b =>
    match decEq a b with
    | isTrue h => isTrue (by rw [h])
    | isFalse h => isFalse (by simp [h])
  | .chain c as, .chain d bs =>
    if hc : c = d then
      match decEqs as bs with
      | isTrue h => isTrue (by rw [hc, h])
      | isFalse h => isFalse (by simp [h])
    else isFalse (by simp [hc])
  | .always, .tag _ | .always, .not _ | .always, .chain _ _
  | .tag _, .always | .tag _, .not _ | .tag _, .chain _ _
  | .not _, .always | .not _, .tag _ | .not _, .chain _ _
  | .chain _ _, .always | .chain _ _, .tag _ | .chain _ _, .not _ => isFalse (by simp)

/-- Lists of trees are compared tree by tree. -/
def decEqs : (as bs : List Expr) → Decidable (as = bs)
  | [], [] => isTrue rfl
  | a :: as, b :: bs =>
    match decEq a b with
    | isTrue h =>
      match decEqs as bs with
      | isTrue h' => isTrue (by rw [h, h'])
      | isFalse h' => isFalse (by simp [h'])
    | isFalse h => isFalse (by simp [h])
  | [], _ :: _ | _ :: _, [] => isFalse (by simp)

end

instance : DecidableEq Expr := decEq

/-! ## Building trees -/

/-- The trees right below the root, left to right. -/
def children : Expr → List Expr
  | .always | .tag _ => []
  | .not child => [child]
  | .chain _ operands => operands

/-- Whether the root is a chain of `c`. -/
def isChainOf (c : Connective) : Expr → Bool
  | .chain d _ => d == c
  | _ => false

/-- What a tree contributes to a chain of `c`: its operands if it is such a chain, else itself. -/
def operandsFor (c : Connective) : Expr → List Expr
  | .chain d operands => if d = c then operands else [.chain d operands]
  | e => [e]

/-- The chain of `c` over `operands`, with operands that are such chains merged into it.
    A single operand stays as it is. -/
def join (c : Connective) (operands : List Expr) : Expr :=
  match operands.flatMap (operandsFor c) with
  | [only] => only
  | merged => .chain c merged

/-- The conjunction of all `operands`. -/
def all (operands : List Expr) : Expr := join .and operands

/-- The disjunction of all `operands`. -/
def any (operands : List Expr) : Expr := join .or operands

/-! ## Measures -/

mutual

/-- The number of nodes. -/
def size : Expr → Nat
  | .always | .tag _ => 1
  | .not child => size child + 1
  | .chain _ operands => sizes operands + 1

/-- The number of nodes of all trees together. -/
def sizes : List Expr → Nat
  | [] => 0
  | e :: es => size e + sizes es

end

mutual

/-- The number of nodes on a longest path from the root to a leaf. -/
def height : Expr → Nat
  | .always | .tag _ => 1
  | .not child => height child + 1
  | .chain _ operands => heights operands + 1

/-- The greatest height. -/
def heights : List Expr → Nat
  | [] => 0
  | e :: es => max (height e) (heights es)

end

mutual

/-- The tags from left to right, as often as they occur. -/
def leaves : Expr → List String
  | .always => []
  | .tag value => [value]
  | .not child => leaves child
  | .chain _ operands => leavesAll operands

/-- The tags of all trees, one tree after the other. -/
def leavesAll : List Expr → List String
  | [] => []
  | e :: es => leaves e ++ leavesAll es

end

theorem leavesAll_eq_flatMap (es : List Expr) : leavesAll es = es.flatMap leaves := by
  induction es with
  | nil => rfl
  | cons e es ih => simp [leavesAll, ih]

theorem sizes_append (as bs : List Expr) : sizes (as ++ bs) = sizes as + sizes bs := by
  induction as with
  | nil => simp [sizes]
  | cons a as ih => simp [sizes, ih, Nat.add_assoc]

theorem size_eq (e : Expr) : e.size = sizes e.children + 1 := by
  cases e <;> simp [size, sizes, children]

end Expr

end AudienceRouting
