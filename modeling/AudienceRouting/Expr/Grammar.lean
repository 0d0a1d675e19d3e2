/-
  Audience routing — the grammar of tag expressions, declaratively.

      or      = and ("|" and)*
      and     = not ("+" not | "-" primary)*
      not     = "!" not | "-" primary | primary
      primary = "(" or ")" | TAG

  * `Derivation p`: the ways to derive a part `p` of an expression, one
    constructor for each production.
  * `Continuation c`: the ways to continue a chain of `c` by further operands,
    each with its operator before it.

  `tokens` is what a derivation derives and `tree` the expression that it means:
  a chain has one node in the tree, into which operands in parentheses that are
  chains of the same connective are merged.  Derivations know no limits; `levels`
  tells how many parentheses and `!` are open around each token.
-/
import AudienceRouting.Expr
import AudienceRouting.Token

namespace AudienceRouting

/-- The parts that expressions are made of. -/
inductive Part where
  | or
  | and
  | not
  | primary
  deriving DecidableEq, Repr, Inhabited

mutual

inductive Derivation : Part → Type where
  | tag (value : String) : Derivation .primary
  | group (inner : Derivation .or) : Derivation .primary
  | plain (primary : Derivation .primary) : Derivation .not
  | bang (operand : Derivation .not) : Derivation .not
  | minus (operand : Derivation .primary) : Derivation .not
  | all (first : Derivation .not) (rest : Continuation .and) : Derivation .and
  | any (first : Derivation .and) (rest : Continuation .or) : Derivation .or

inductive Continuation : Connective → Type where
  | none (c : Connective) : Continuation c
  | plus (operand : Derivation .not) (rest : Continuation .and) : Continuation .and
  | minus (operand : Derivation .primary) (rest : Continuation .and) : Continuation .and
  | bar (operand : Derivation .and) (rest : Continuation .or) : Continuation .or

end

mutual

/-- The tokens from left to right. -/
def Derivation.tokens : {p : Part} → Derivation p → List Token
  | _, .tag value => [.tag value]
  | _, .group inner => .openParen :: (inner.tokens ++ [.closeParen])
  | _, .plain primary => primary.tokens
  | _, .bang operand => .bang :: operand.tokens
  | _, .minus operand => .minus :: operand.tokens
  | _, .all first rest => first.tokens ++ rest.tokens
  | _, .any first rest => first.tokens ++ rest.tokens

def Continuation.tokens : {c : Connective} → Continuation c → List Token
  | _, .none _ => []
  | _, .plus operand rest => .plus :: (operand.tokens ++ rest.tokens)
  | _, .minus operand rest => .minus :: (operand.tokens ++ rest.tokens)
  | _, .bar operand rest => .bar :: (operand.tokens ++ rest.tokens)

end

mutual

/-- The expression that is meant. -/
def Derivation.tree : {p : Part} → Derivation p → Expr
  | _, .tag value => .tag value
  | _, .group inner => inner.tree
  | _, .plain primary => primary.tree
  | _, .bang operand => .not operand.tree
  | _, .minus operand => .not operand.tree
  | _, .all first rest => .all (first.tree :: rest.trees)
  | _, .any first rest => .any (first.tree :: rest.trees)

/-- The operands that a chain is continued by. -/
def Continuation.trees : {c : Connective} → Continuation c → List Expr
  | _, .none _ => []
  | _, .plus operand rest => operand.tree :: rest.trees
  | _, .minus operand rest => .not operand.tree :: rest.trees
  | _, .bar operand rest => operand.tree :: rest.trees

end

mutual

/-- For each token the number of `(` and `!` that it stands under, if `outer` of them are open
    around the whole. -/
def Derivation.levels (outer : Nat) : {p : Part} → Derivation p → List Nat
  | _, .tag _ => [outer]
  | _, .group inner => outer :: (inner.levels (outer + 1) ++ [outer])
  | _, .plain primary => primary.levels outer
  | _, .bang operand => outer :: operand.levels (outer + 1)
  | _, .minus operand => outer :: operand.levels outer
  | _, .all first rest => first.levels outer ++ rest.levels outer
  | _, .any first rest => first.levels outer ++ rest.levels outer

def Continuation.levels (outer : Nat) : {c : Connective} → Continuation c → List Nat
  | _, .none _ => []
  | _, .plus operand rest => outer :: (operand.levels outer ++ rest.levels outer)
  | _, .minus operand rest => outer :: (operand.levels outer ++ rest.levels outer)
  | _, .bar operand rest => outer :: (operand.levels outer ++ rest.levels outer)

end

/-- The text consists of the tokens that are derived. -/
def Derivation.Spells {p : Part} (d : Derivation p) (text : String) : Prop :=
  ∃ lexemes, Token.scan text = .ok lexemes ∧ lexemes.map (·.token) = d.tokens ++ [.endOfText]

/-- No part is empty. -/
theorem Derivation.tokens_ne_nil : {p : Part} → (d : Derivation p) → d.tokens ≠ []
  | _, .tag _ => by simp [Derivation.tokens]
  | _, .group _ => by simp [Derivation.tokens]
  | _, .plain primary => by simpa [Derivation.tokens] using primary.tokens_ne_nil
  | _, .bang _ => by simp [Derivation.tokens]
  | _, .minus _ => by simp [Derivation.tokens]
  | _, .all first _ => by simp [Derivation.tokens, first.tokens_ne_nil]
  | _, .any first _ => by simp [Derivation.tokens, first.tokens_ne_nil]

end AudienceRouting
