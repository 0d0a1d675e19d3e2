/-
  Audience routing — the editions of YAML, and their characters.

  Registries are written in YAML 1.1 and settings in YAML 1.2.  The editions
  differ in what ends a line, in where tabs and comments may stand, and in how far
  the lines of a value have to be indented.
-/

namespace AudienceRouting.Yaml

inductive Edition where
  | v1_1
  | v1_2
  deriving DecidableEq, Repr, Inhabited

def isBlank (c : Char) : Bool := c == ' ' || c == '\t'

/-- The characters that have a meaning in brackets. -/
def isFlowIndicator (c : Char) : Bool :=
  c == ',' || c == '[' || c == ']' || c == '\x7b' || c == '\x7d'

/-- The characters of handles and names. -/
def isWordChar (c : Char) : Bool := c.isAlphanum || c == '_' || c == '-'

/-- What a text in YAML 1.1 may hold. -/
def isPrintable (c : Char) : Bool :=
  let n := c.toNat
  c == '\t' || c == '\n' || c == '\r' || (0x20 ≤ n && n ≤ 0x7E) || n == 0x85 ||
    (0xA0 ≤ n && n ≤ 0xFFFD) || 0x10000 ≤ n

namespace Edition

/-- Whether a character ends a line.  Some characters that end lines in YAML 1.1 are written in
    one way beforehand, see `prepare?`. -/
def isBreak (e : Edition) (c : Char) : Bool :=
  c == '\n' || (e == .v1_1 && (c == '\u2028' || c == '\u2029'))

/-- The end of a line or of the text. -/
def atLineEnd (e : Edition) : List Char → Bool
  | [] => true
  | c :: _ => e.isBreak c

/-- A blank, or the end of a line or of the text. -/
def atGap (e : Edition) : List Char → Bool
  | [] => true
  | c :: _ => isBlank c || e.isBreak c

/-- A line that starts a document. -/
def atStartMark (e : Edition) : List Char → Bool
  | '-' :: '-' :: '-' :: rest => e.atGap rest
  | _ => false

/-- A line that ends a document. -/
def atEndMark (e : Edition) : List Char → Bool
  | '.' :: '.' :: '.' :: rest => e.atGap rest
  | _ => false

def atMark (e : Edition) (text : List Char) : Bool := e.atStartMark text || e.atEndMark text

/-- Ends the lines of a text in one way; `out` is what was read, in reverse. -/
def unifyBreaks (e : Edition) (out : List Char) : List Char → List Char
  | [] => out.reverse
  | '\r' :: '\n' :: rest => unifyBreaks e ('\n' :: out) rest
  | c :: rest =>
    unifyBreaks e ((if c == '\r' || (e == .v1_1 && c == '\u0085') then '\n' else c) :: out) rest

/-- The characters of a text that count.  YAML 1.1 leaves out a byte order mark and refuses
    characters that cannot be printed; in YAML 1.2 a null ends the text. -/
def prepare? (e : Edition) (text : String) : Option (List Char) :=
  match e with
  | .v1_1 =>
    let cs := match text.toList with
      | '\ufeff' :: rest => rest
      | cs => cs
    if cs.all isPrintable then some (e.unifyBreaks [] cs) else none
  | .v1_2 => some (e.unifyBreaks [] (text.toList.takeWhile (· != '\x00')))

end Edition

end AudienceRouting.Yaml
