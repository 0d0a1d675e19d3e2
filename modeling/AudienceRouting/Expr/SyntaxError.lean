/-
  Audience routing — why a text is not a tag expression.

  A `Fault` is a cause; its kind and what was expected instead follow from it.
  A `SyntaxError` adds the place and the text.  `caret` shows the text with a
  caret below the offending character and the message behind it.
-/

namespace AudienceRouting

/-- The most levels of parentheses and `!` around a token, and the most levels of a tree. -/
def maxDepth : Nat := 64

/-- The causes for which reading an expression stops. -/
inductive Fault where
  /-- a character that no token starts with -/
  | strayCharacter
  /-- nothing between `(` and `)` -/
  | emptyGroup
  /-- something else where an operand has to be -/
  | missingOperand
  /-- the end of the text where an operand has to be -/
  | unfinished
  /-- a `)` that no `(` belongs to -/
  | strayClosing
  /-- a `(` without its `)` -/
  | unclosed
  /-- an operand right after an operand -/
  | missingOperator
  /-- more than `maxDepth` levels -/
  | tooDeep
  deriving DecidableEq, Repr, Inhabited

/-- The kinds of faults that users tell apart. -/
inductive FaultKind where
  | unbalancedParens
  | emptyOperand
  | invalidCharacter
  | trailingOperator
  | missingOperator
  | nestingTooDeep
  deriving DecidableEq, Repr, Inhabited

def Fault.kind : Fault → FaultKind
  | .strayCharacter => .invalidCharacter
  | .emptyGroup | .missingOperand => .emptyOperand
  | .unfinished => .trailingOperator
  | .strayClosing | .unclosed => .unbalancedParens
  | .missingOperator => .missingOperator
  | .tooDeep => .nestingTooDeep

/-- What should have been there. -/
def Fault.expected : Fault → String
  | .strayCharacter => "a tag, an operator or a parenthesis"
  | .emptyGroup => "an expression inside the parentheses"
  | .missingOperand | .unfinished => "a tag or '('"
  | .strayClosing => "no ')' without a matching '('"
  | .unclosed => "')' to close this '('"
  | .missingOperator => "an operator ('+', '|' or '-')"
  | .tooDeep => "at most 64 levels of nesting"

namespace FaultKind

/-- The name of a kind in messages. -/
def label : FaultKind → String
  | .unbalancedParens => "unbalanced parentheses"
  | .emptyOperand => "empty operand"
  | .invalidCharacter => "invalid character"
  | .trailingOperator => "trailing operator"
  | .missingOperator => "missing operator"
  | .nestingTooDeep => "nesting too deep"

end FaultKind

/-- A fault at its place, counted in characters. -/
structure Problem where
  fault : Fault
  offset : Nat
  deriving DecidableEq, Repr, Inhabited

/-- A text that is not a tag expression. -/
structure SyntaxError extends Problem where
  expression : String
  deriving DecidableEq, Repr, Inhabited

namespace SyntaxError

def kind (e : SyntaxError) : FaultKind := e.fault.kind

def expected (e : SyntaxError) : String := e.fault.expected

def message (e : SyntaxError) : String :=
  e.kind.label ++ " at offset " ++ toString e.offset ++ " in \"" ++ e.expression ++
    "\": expected " ++ e.expected

/-- The text, and below it a caret under the offending character with the message. -/
def caret (e : SyntaxError) : String :=
  e.expression ++ "\n" ++ String.ofList (List.replicate e.offset ' ') ++ "^ " ++ e.message

end SyntaxError

end AudienceRouting
