/-
  Audience routing — why an expression holds or does not.

  Every node of the tree is annotated with its own result and with whether it
  decided the result of the whole.  The root is decisive; below a decisive node,
  a false conjunction is decided by its false operands, a true disjunction by its
  true ones, and anything else by all operands.
-/
import AudienceRouting.Evaluation
import AudienceRouting.Expr.Text

namespace AudienceRouting

/-- What is said of one node. -/
structure Verdict where
  matched : Bool
  decisive : Bool
  deriving DecidableEq, Repr, Inhabited

/-- An expression with a verdict at each node; tags also have the tags that satisfied them. -/
inductive Annotated where
  | always (verdict : Verdict)
  | tag (verdict : Verdict) (value : String) (matchedTags : List String)
  | not (verdict : Verdict) (child : Annotated)
  | chain (verdict : Verdict) (connective : Connective) (operands : List Annotated)
  deriving Repr, Inhabited

namespace Annotated

def verdict : Annotated → Verdict
  | .always v | .tag v _ _ | .not v _ | .chain v _ _ => v

def matched (a : Annotated) : Bool := a.verdict.matched

def decisive (a : Annotated) : Bool := a.verdict.decisive

/-- Whether a decisive chain with the result `matched` is decided by an operand with the
    result `operand`. -/
def decidedBy (c : Connective) (matched operand : Bool) : Bool :=
  match c, matched with
  | .and, false => !operand
  | .or, true => operand
  | _, _ => true

mutual

/-- Sets the decisive marks of a tree whose root is decisive or not. -/
def mark (decisive : Bool) : Annotated → Annotated
  | .always v => .always { v with decisive }
  | .tag v value matchedTags => .tag { v with decisive } value matchedTags
  | .not v child => .not { v with decisive } (mark decisive child)
  | .chain v c operands => .chain { v with decisive } c (markOperands c v.matched decisive operands)

/-- Sets the marks of the operands of a chain with the result `matched`. -/
def markOperands (c : Connective) (matched decisive : Bool) : List Annotated → List Annotated
  | [] => []
  | a :: rest =>
    mark (decisive && decidedBy c matched a.matched) a :: markOperands c matched decisive rest

end

mutual

/-- The tags at decisive nodes, from left to right. -/
def decisiveLiterals : Annotated → List String
  | .always _ => []
  | .tag v value _ => if v.decisive then [value] else []
  | .not v child => if v.decisive then decisiveLiterals child else []
  | .chain v _ operands => if v.decisive then decisiveLiteralsOfAll operands else []

def decisiveLiteralsOfAll : List Annotated → List String
  | [] => []
  | a :: rest => decisiveLiterals a ++ decisiveLiteralsOfAll rest

end

mutual

/-- The expression without its verdicts. -/
def erase : Annotated → Expr
  | .always _ => .always
  | .tag _ value _ => .tag value
  | .not _ child => .not (erase child)
  | .chain _ c operands => .chain c (eraseAll operands)

def eraseAll : List Annotated → List Expr
  | [] => []
  | a :: rest => erase a :: eraseAll rest

end

end Annotated

namespace Expr

mutual

/-- The expression with the result of each node, nothing marked as decisive yet. -/
def annotate (tags : TagSet) (options : MatchOptions) : Expr → Annotated
  | .always => .always ⟨true, false⟩
  | .tag value =>
    .tag ⟨tags.satisfies value options, false⟩ value (tags.satisfying value options)
  | .not child =>
    let inner := annotate tags options child
    .not ⟨!inner.matched, false⟩ inner
  | .chain c operands =>
    let inner := annotateAll tags options operands
    let matched := match c with
      | .and => inner.all Annotated.matched
      | .or => inner.any Annotated.matched
    .chain ⟨matched, false⟩ c inner

def annotateAll (tags : TagSet) (options : MatchOptions) : List Expr → List Annotated
  | [] => []
  | e :: rest => annotate tags options e :: annotateAll tags options rest

end

end Expr

/-- An annotated expression together with its canonical text. -/
structure Explanation where
  expression : String
  root : Annotated
  deriving Repr, Inhabited

/-- Explains the result of an expression. -/
def Expr.explain (e : Expr) (tags : TagSet) (options : MatchOptions) : Explanation :=
  ⟨e.text, (e.annotate tags options).mark true⟩

/-- The tags that decided the result, from left to right. -/
def Explanation.decisiveLiterals (x : Explanation) : List String :=
  x.root.decisiveLiterals

end AudienceRouting
