/-
  Audience routing — reading tag expressions by recursive descent.

  `Part.read p` reads the part `p` of the grammar from where a `Cursor` stands, by
  reading the parts that it is made of.  It gives the operand that it read, with
  its depth, and the cursor behind it.  The cursor counts the `(` and `!` around
  the place where it stands; a part leaves the ones that it has entered.

  `Expr.descend` is the same reading of a text as `Expr.readTokens`, which keeps
  what is unfinished on a stack and meets each token once.
-/
import AudienceRouting.Expr.Grammar
import AudienceRouting.Expr.Reader

namespace AudienceRouting

/-! ## Cursors -/

structure Cursor where
  /-- the tokens still to read -/
  rest : List Lexeme
  /-- the number of `(` and `!` around the next token -/
  nesting : Nat
  /-- the offset of the token read last -/
  previous : Nat
  deriving DecidableEq, Repr, Inhabited

namespace Cursor

/-- The next token; behind the last one the text has ended. -/
def next (c : Cursor) : Lexeme := c.rest.head?.getD ⟨.endOfText, c.previous⟩

/-- The cursor behind the next token. -/
def skip (c : Cursor) : Cursor := { c with rest := c.rest.tail, previous := c.next.offset }

/-- The cursor inside of one more `(` or `!`. -/
def deeper (c : Cursor) : Cursor := { c with nesting := c.nesting + 1 }

/-- The cursor outside of the innermost `(` or `!`. -/
def outer (c : Cursor) : Cursor := { c with nesting := c.nesting - 1 }

/-- Cursors that have passed at least one more token. -/
abbrev Behind (c : Cursor) := { c' : Cursor // c'.rest.length < c.rest.length }

/-- Cursors that have passed the same tokens, or more. -/
abbrev From (c : Cursor) := { c' : Cursor // c'.rest.length ≤ c.rest.length }

theorem length_skip_lt {c : Cursor} (h : c.next.token ≠ .endOfText) :
    c.skip.rest.length < c.rest.length := by
  unfold next at h
  cases hr : c.rest with
  | nil => simp [hr] at h
  | cons x rest => simp [skip, hr]

theorem length_skip_le (c : Cursor) : c.skip.rest.length ≤ c.rest.length := by
  simp [skip]

end Cursor

/-- The negation of an operand; `offset` is the place of the `!` or `-`. -/
def Operand.negated (o : Operand) (offset : Nat) : Except Problem Operand :=
  Operand.limited ⟨.not o.expr, o.depth + 1, offset⟩ offset

/-! ## Parts -/

/-- How far a part is from the tags and parentheses that it starts with. -/
@[simp] def Part.rank : Part → Nat
  | .primary => 0
  | .not => 1
  | .and => 2
  | .or => 3

mutual

/-- Reads a part, and passes at least one token. -/
def Part.readBehind (p : Part) (c : Cursor) : Except Problem (Operand × c.Behind) :=
  match p with
  | .or => do
    let (first, ⟨c₁, h₁⟩) ← Part.readBehind .and c
    let (whole, ⟨c₂, h₂⟩) ← Connective.readFrom .or [] first c₁
    .ok (whole, ⟨c₂, Nat.lt_of_le_of_lt h₂ h₁⟩)
  | .and => do
    let (first, ⟨c₁, h₁⟩) ← Part.readBehind .not c
    let (whole, ⟨c₂, h₂⟩) ← Connective.readFrom .and [] first c₁
    .ok (whole, ⟨c₂, Nat.lt_of_le_of_lt h₂ h₁⟩)
  | .not =>
    match h : c.next.token with
    | .bang =>
      if c.nesting < maxDepth then do
        have hskip := c.length_skip_lt (by simp [h])
        let (o, ⟨c₁, h₁⟩) ← Part.readBehind .not c.skip.deeper
        let negated ← o.negated c.next.offset
        .ok (negated, ⟨c₁.outer, Nat.lt_trans h₁ hskip⟩)
      else .error ⟨.tooDeep, c.next.offset⟩
    | .minus => do
      have hskip := c.length_skip_lt (by simp [h])
      let (o, ⟨c₁, h₁⟩) ← Part.readBehind .primary c.skip
      let negated ← o.negated c.next.offset
      .ok (negated, ⟨c₁, Nat.lt_trans h₁ hskip⟩)
    | _ => Part.readBehind .primary c
  | .primary =>
    match h : c.next.token with
    | .tag value => .ok (⟨.tag value, 1, c.next.offset⟩, ⟨c.skip, c.length_skip_lt (by simp [h])⟩)
    | .openParen =>
      if c.nesting < maxDepth then
        if c.skip.next.token = .closeParen then .error ⟨.emptyGroup, c.skip.next.offset⟩
        else do
          have hskip := c.length_skip_lt (by simp [h])
          let (inner, ⟨c₁, h₁⟩) ← Part.readBehind .or c.skip.deeper
          match c₁.next.token with
          | .closeParen =>
            .ok ({ inner with start := c.next.offset }, ⟨c₁.skip.outer,
              Nat.lt_of_le_of_lt c₁.length_skip_le (Nat.lt_trans h₁ hskip)⟩)
          | .endOfText => .error ⟨.unclosed, c.next.offset⟩
          | _ => .error ⟨.missingOperator, c₁.next.offset⟩
      else .error ⟨.tooDeep, c.next.offset⟩
    | .endOfText => .error ⟨.unfinished, c.previous⟩
    | .closeParen =>
      if c.nesting = 0 then .error ⟨.strayClosing, c.next.offset⟩
      else .error ⟨.missingOperand, c.next.offset⟩
    | .plus | .bar | .bang | .minus => .error ⟨.missingOperand, c.next.offset⟩
termination_by (c.rest.length, p.rank)

/-- Reads the rest of a chain whose operands so far are `last` and, latest first, `earlier`. -/
def Connective.readFrom (con : Connective) (earlier : List Operand) (last : Operand)
    (c : Cursor) : Except Problem (Operand × c.From) :=
  match con with
  | .or =>
    match h : c.next.token with
    | .bar => do
      have hskip := c.length_skip_lt (by simp [h])
      let (o, ⟨c₁, h₁⟩) ← Part.readBehind .and c.skip
      let (whole, ⟨c₂, h₂⟩) ← Connective.readFrom .or (last :: earlier) o c₁
      .ok (whole, ⟨c₂, Nat.le_trans h₂ (Nat.le_of_lt (Nat.lt_trans h₁ hskip))⟩)
    | _ => do
      let whole ← Connective.or.close earlier last
      .ok (whole, ⟨c, Nat.le_refl _⟩)
  | .and =>
    match h : c.next.token with
    | .plus => do
      have hskip := c.length_skip_lt (by simp [h])
      let (o, ⟨c₁, h₁⟩) ← Part.readBehind .not c.skip
      let (whole, ⟨c₂, h₂⟩) ← Connective.readFrom .and (last :: earlier) o c₁
      .ok (whole, ⟨c₂, Nat.le_trans h₂ (Nat.le_of_lt (Nat.lt_trans h₁ hskip))⟩)
    | .minus => do
      have hskip := c.length_skip_lt (by simp [h])
      let (o, ⟨c₁, h₁⟩) ← Part.readBehind .primary c.skip
      let negated ← o.negated c.next.offset
      let (whole, ⟨c₂, h₂⟩) ← Connective.readFrom .and (last :: earlier) negated c₁
      .ok (whole, ⟨c₂, Nat.le_trans h₂ (Nat.le_of_lt (Nat.lt_trans h₁ hskip))⟩)
    | _ => do
      let whole ← Connective.and.close earlier last
      .ok (whole, ⟨c, Nat.le_refl _⟩)
termination_by (c.rest.length, 0)

end

/-- Reads a part. -/
def Part.read (p : Part) (c : Cursor) : Except Problem (Operand × Cursor) :=
  (p.readBehind c).map fun x => (x.1, x.2)

/-- Reads the rest of a chain. -/
def Connective.readRest (con : Connective) (earlier : List Operand) (last : Operand) (c : Cursor) :
    Except Problem (Operand × Cursor) :=
  (con.readFrom earlier last c).map fun x => (x.1, x.2)

/-! ## Expressions -/

/-- The tree of a text that is not blank, or the first fault. -/
def Expr.descend (text : String) : Except Problem Expr :=
  match Token.scan text with
  | .error offset => .error ⟨.strayCharacter, offset⟩
  | .ok lexemes => do
    let (whole, c) ← Part.or.read ⟨lexemes, 0, 0⟩
    match c.next.token with
    | .endOfText => .ok whole.expr
    | .closeParen => .error ⟨.strayClosing, c.next.offset⟩
    | _ => .error ⟨.missingOperator, c.next.offset⟩

end AudienceRouting
