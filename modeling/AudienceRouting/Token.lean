/-
  Audience routing — the tokens of a tag expression.

  A tag expression is made of tags, the operators `+ | ! -` and parentheses,
  with white space between them at will.  A tag is a longest run of tag
  characters: anything but the reserved characters, white space and control
  characters.  `Token.scan` splits a text into lexemes, each token with the
  number of characters before it; the last one stands for the end of the text.
  It fails exactly at the first control character that is not white space.
-/
import AudienceRouting.Text.Whitespace

namespace AudienceRouting

/-- The characters that no tag contains because they have a meaning of their own. -/
def isReserved (c : Char) : Bool :=
  c == '+' || c == '|' || c == '!' || c == '-' || c == '(' || c == ')'

/-- The characters that tags are made of. -/
def isTagChar (c : Char) : Bool :=
  !isReserved c && !Text.isWhitespace c && !Text.isControl c

inductive Token where
  | tag (text : String)
  /-- `+`, conjunction -/
  | plus
  /-- `|`, disjunction -/
  | bar
  /-- `!`, negation of what follows -/
  | bang
  /-- `-`, negation of the tag or group that follows; between operands also a conjunction -/
  | minus
  | openParen
  | closeParen
  | endOfText
  deriving DecidableEq, Repr, Inhabited

/-- A token at its place: `offset` characters stand before it. -/
structure Lexeme where
  token : Token
  offset : Nat
  deriving DecidableEq, Repr, Inhabited

namespace Token

/-- The token that a reserved character is. -/
def ofReserved? : Char → Option Token
  | '+' => some .plus
  | '|' => some .bar
  | '!' => some .bang
  | '-' => some .minus
  | '(' => some .openParen
  | ')' => some .closeParen
  | _ => none

/-- The operators: every reserved character but the parentheses. -/
def isOperator : Token → Bool
  | .plus | .bar | .bang | .minus => true
  | _ => false

/-- The lexemes of a text that starts at `offset`, or the offset of the first character that
    cannot stand in an expression. -/
def scanFrom (offset : Nat) (text : List Char) : Except Nat (List Lexeme) :=
  match text with
  | [] => .ok [⟨.endOfText, offset⟩]
  | c :: rest =>
    if Text.isWhitespace c then scanFrom (offset + 1) rest
    else match ofReserved? c with
      | some token => (scanFrom (offset + 1) rest).map (⟨token, offset⟩ :: ·)
      | none =>
        if isTagChar c then
          let more := rest.takeWhile isTagChar
          (scanFrom (offset + 1 + more.length) (rest.dropWhile isTagChar)).map
            (⟨.tag (String.ofList (c :: more)), offset⟩ :: ·)
        else .error offset
termination_by text.length
decreasing_by
  · simp
  · simp
  · have := (List.dropWhile_suffix isTagChar (l := rest)).length_le
    simp; omega

/-- The lexemes of a whole text. -/
def scan (text : String) : Except Nat (List Lexeme) :=
  scanFrom 0 text.toList

end Token

theorem ofReserved?_isSome (c : Char) : (Token.ofReserved? c).isSome = isReserved c := by
  unfold Token.ofReserved? isReserved
  split <;> simp_all

end AudienceRouting
