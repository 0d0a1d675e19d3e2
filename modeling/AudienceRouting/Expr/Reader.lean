/-
  Audience routing — reading tag expressions.

  `Expr.read` goes through the tokens once, from left to right.  For each open
  parenthesis it keeps a `Group`: the operands that are waiting for the rest of
  their chain and the negations that are waiting for their operand.  A token
  either fits where the reader stands or is a fault there; faults are found at
  the first token that does not fit.

  The language is that of `Derivation`, with two limits: at most `maxDepth` open
  parentheses and `!` around a token, and at most `maxDepth` levels in every
  finished part of the tree.  A text of white space alone is the empty expression.
-/
import AudienceRouting.Expr
import AudienceRouting.Expr.SyntaxError
import AudienceRouting.Token

namespace AudienceRouting

/-! ## Operands -/

/-- A finished part of an expression: its tree, the height of the tree, and the offset where
    it starts. -/
structure Operand where
  expr : Expr
  depth : Nat
  start : Nat
  deriving DecidableEq, Repr, Inhabited

/-- The operand, unless its tree is too high; `offset` is the place to complain about. -/
def Operand.limited (operand : Operand) (offset : Nat) : Except Problem Operand :=
  if operand.depth ≤ maxDepth then .ok operand else .error ⟨.tooDeep, offset⟩

/-- A negation whose operand is still to come. -/
structure Negation where
  offset : Nat
  /-- whether it counts as a level of nesting, as `!` does and `-` does not -/
  nests : Bool
  deriving DecidableEq, Repr, Inhabited

/-- Applies the waiting negations to an operand, the last one first, and leaves their levels. -/
def negate (negations : List Negation) (nesting : Nat) (operand : Operand) :
    Except Problem (Operand × Nat) :=
  match negations with
  | [] => .ok (operand, nesting)
  | n :: outer => do
    let negated ← Operand.limited ⟨.not operand.expr, operand.depth + 1, n.offset⟩ n.offset
    negate outer (if n.nests then nesting - 1 else nesting) negated

namespace Connective

/-- The height of a chain over `operands`: chains of the same connective are merged into it. -/
def chainDepth (c : Connective) (operands : List Operand) : Nat :=
  operands.foldl (fun d o => max d (if o.expr.isChainOf c then o.depth else o.depth + 1)) 0

/-- Ends a chain of `c` whose last operand is `last`; `earlier` holds the others, latest first. -/
def close (c : Connective) (earlier : List Operand) (last : Operand) : Except Problem Operand :=
  match earlier.reverse with
  | [] => .ok last
  | first :: middle =>
    let operands := first :: middle ++ [last]
    Operand.limited ⟨Expr.join c (operands.map (·.expr)), c.chainDepth operands, first.start⟩
      first.start

end Connective

/-! ## Groups -/

/-- What has been read between one pair of parentheses, or outside of all. -/
structure Group where
  /-- operands that a `|` followed, latest first -/
  alternatives : List Operand
  /-- operands since then that a `+` or `-` followed, latest first -/
  conjuncts : List Operand
  /-- negations since then, latest first -/
  negations : List Negation
  deriving DecidableEq, Repr, Inhabited

/-- The group in which nothing has been read. -/
def Group.empty : Group := ⟨[], [], []⟩

/-- A group that is interrupted by a `(` at `opening`. -/
structure Enclosing where
  opening : Nat
  group : Group
  deriving DecidableEq, Repr, Inhabited

/-- Where in a group the reader stands. -/
inductive Position where
  /-- right after a `(` -/
  | afterOpening
  /-- before an operand -/
  | operand
  /-- before a tag or a `(`, because of a `-` -/
  | primary
  /-- behind `last`, which belongs to no chain yet -/
  | operator (last : Operand)
  deriving DecidableEq, Repr, Inhabited

/-! ## The reader -/

structure Reader where
  group : Group
  /-- the interrupted groups, innermost first -/
  enclosing : List Enclosing
  /-- the number of open parentheses and of `!` that wait for their operand -/
  nesting : Nat
  position : Position
  /-- the offset of the token read last -/
  previous : Nat
  deriving DecidableEq, Repr, Inhabited

namespace Reader

/-- The reader before the first token. -/
def start : Reader := ⟨.empty, [], 0, .operand, 0⟩

/-- Goes one level down. -/
def enter (r : Reader) (offset : Nat) : Except Problem Reader :=
  if r.nesting + 1 ≤ maxDepth then .ok { r with nesting := r.nesting + 1 }
  else .error ⟨.tooDeep, offset⟩

/-- Takes a tag or a closed group as the operand that was waited for. -/
def supply (r : Reader) (primary : Operand) : Except Problem Reader := do
  let (operand, nesting) ← negate r.group.negations r.nesting primary
  .ok { r with
    group := { r.group with negations := [] }
    nesting
    position := .operator operand }

/-- A token where an operand is waited for. -/
def readOperand (r : Reader) (x : Lexeme) : Except Problem Reader :=
  match x.token with
  | .tag value => r.supply ⟨.tag value, 1, x.offset⟩
  | .openParen => do
    let r ← r.enter x.offset
    .ok { r with
      group := .empty
      enclosing := ⟨x.offset, r.group⟩ :: r.enclosing
      position := .afterOpening }
  | .bang =>
    if r.position = .primary then .error ⟨.missingOperand, x.offset⟩
    else do
      let r ← r.enter x.offset
      .ok { r with
        group := { r.group with negations := ⟨x.offset, true⟩ :: r.group.negations }
        position := .operand }
  | .minus =>
    if r.position = .primary then .error ⟨.missingOperand, x.offset⟩
    else .ok { r with
      group := { r.group with negations := ⟨x.offset, false⟩ :: r.group.negations }
      position := .primary }
  | .closeParen =>
    if r.position = .afterOpening then .error ⟨.emptyGroup, x.offset⟩
    else if r.nesting = 0 then .error ⟨.strayClosing, x.offset⟩
    else .error ⟨.missingOperand, x.offset⟩
  | .plus | .bar => .error ⟨.missingOperand, x.offset⟩
  | .endOfText => .error ⟨.unfinished, r.previous⟩

/-- Ends both chains of the group. -/
def closeGroup (r : Reader) (last : Operand) : Except Problem Operand := do
  let alternative ← Connective.and.close r.group.conjuncts last
  Connective.or.close r.group.alternatives alternative

/-- A token behind the operand `last`. -/
def readOperator (r : Reader) (last : Operand) (x : Lexeme) : Except Problem Reader :=
  match x.token with
  | .plus => .ok { r with
      group := { r.group with conjuncts := last :: r.group.conjuncts }
      position := .operand }
  | .minus => .ok { r with
      group := { r.group with
        conjuncts := last :: r.group.conjuncts
        negations := [⟨x.offset, false⟩] }
      position := .primary }
  | .bar => do
    let alternative ← Connective.and.close r.group.conjuncts last
    .ok { r with
      group := { r.group with
        alternatives := alternative :: r.group.alternatives
        conjuncts := [] }
      position := .operand }
  | .closeParen => do
    let inner ← r.closeGroup last
    match r.enclosing with
    | [] => .error ⟨.strayClosing, x.offset⟩
    | outer :: enclosing =>
      supply { r with group := outer.group, enclosing, nesting := r.nesting - 1 }
        { inner with start := outer.opening }
  | .tag _ | .openParen | .bang => do
    let _ ← r.closeGroup last
    .error ⟨.missingOperator, x.offset⟩
  | .endOfText => .ok r

/-- Reads one token. -/
def step (r : Reader) (x : Lexeme) : Except Problem Reader := do
  let r ← match r.position with
    | .operator last => r.readOperator last x
    | _ => r.readOperand x
  .ok { r with previous := x.offset }

/-- The whole expression, once all tokens are read. -/
def finish (r : Reader) : Except Problem Expr :=
  match r.position with
  | .operator last => do
    let whole ← r.closeGroup last
    match r.enclosing with
    | [] => .ok whole.expr
    | innermost :: _ => .error ⟨.unclosed, innermost.opening⟩
  | _ => .error ⟨.unfinished, r.previous⟩

/-- Reads all tokens. -/
def run (r : Reader) : List Lexeme → Except Problem Expr
  | [] => r.finish
  | x :: rest => r.step x >>= (run · rest)

end Reader

/-- The tree of a text that is not blank, or the first fault. -/
def Expr.readTokens (text : String) : Except Problem Expr :=
  match Token.scan text with
  | .error offset => .error ⟨.strayCharacter, offset⟩
  | .ok lexemes => Reader.start.run lexemes

/-- The tree of a text. -/
def Expr.read (text : String) : Except SyntaxError Expr :=
  if Text.isBlank text then .ok .always
  else (readTokens text).mapError (⟨·, text⟩)

end AudienceRouting
