/-
  Audience routing — the canonical text of a tree.

  `+` binds tighter than `|`, and `!` tighter than both.  An operand stands in
  parentheses unless it binds tighter than what it is an operand of.  The empty
  expression is written as nothing at the root and as `()` below it.
-/
import AudienceRouting.Expr

namespace AudienceRouting

/-- The operator between the operands of a chain. -/
def Connective.symbol : Connective → String
  | .and => "+"
  | .or => "|"

/-- How tightly the operator binds. -/
def Connective.precedence : Connective → Nat
  | .or => 1
  | .and => 2

namespace Expr

/-- How tightly the root binds. -/
def precedence : Expr → Nat
  | .chain c _ => c.precedence
  | _ => 3

/-- The tree as an operand of an operator of precedence `outer`, given its own text. -/
def wrap (outer : Nat) (e : Expr) (text : String) : String :=
  match e with
  | .always => "()"
  | e => if e.precedence ≤ outer then "(" ++ text ++ ")" else text

mutual

/-- The canonical text. -/
def text : Expr → String
  | .always => ""
  | .tag value => value
  | .not child => "!" ++ wrap 2 child (text child)
  | .chain c operands => c.symbol.intercalate (operandTexts c operands)

/-- The operands of a chain of `c`, each with the parentheses that it needs. -/
def operandTexts (c : Connective) : List Expr → List String
  | [] => []
  | e :: es => wrap c.precedence e (text e) :: operandTexts c es

end

theorem operandTexts_eq_map (c : Connective) (es : List Expr) :
    operandTexts c es = es.map fun e => wrap c.precedence e e.text := by
  induction es with
  | nil => rfl
  | cons e es ih => simp [operandTexts, ih]

end Expr

end AudienceRouting
