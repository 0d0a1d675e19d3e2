/-
  Audience routing — reading JSON texts.

  A text is split into tokens, and the tokens are read once from left to right
  with a stack of the containers that are open.  The rules are those of the
  standard: no byte order mark, no lone surrogates, nothing but white space
  behind the value.  At most `maxContainers` containers may be open at a time.
-/
import AudienceRouting.Json.Number

namespace AudienceRouting.Json

/-! ## Tokens -/

inductive Token where
  | openBrace
  | closeBrace
  | openBracket
  | closeBracket
  | comma
  | colon
  /-- a string, a number, `true`, `false` or `null` -/
  | scalar (value : Json)
  deriving Repr, Inhabited

/-- The white space between tokens. -/
def isBlank (c : Char) : Bool :=
  c == ' ' || c == '\n' || c == '\t' || c == '\r'

/-- The characters that numbers are written with. -/
def isNumberChar (c : Char) : Bool :=
  c.isDigit || c == '-' || c == '+' || c == '.' || c == 'e' || c == 'E'

def hexDigit? (c : Char) : Option Nat := Text.digitIn? 16 c

/-- The number that four hexadecimal digits stand for. -/
def hex4? (a b c d : Char) : Option Nat := do
  some ((((← hexDigit? a) * 16 + (← hexDigit? b)) * 16 + (← hexDigit? c)) * 16 + (← hexDigit? d))

/-- The character of an escape of one letter. -/
def escape? : Char → Option Char
  | '"' => some '"'
  | '\\' => some '\\'
  | '/' => some '/'
  | 'b' => some '\x08'
  | 'f' => some '\x0c'
  | 'n' => some '\n'
  | 'r' => some '\r'
  | 't' => some '\t'
  | _ => none

/-- The character of two escapes that are halves of it. -/
def surrogates? (high low : Nat) : Option Char :=
  if 0xDC00 ≤ low && low ≤ 0xDFFF then
    some (Char.ofNat (0x10000 + (high - 0xD800) * 0x400 + (low - 0xDC00)))
  else none

/-- A character in front of what was read of a string. -/
def prepend (c : Char) (read : Option (List Char × List Char)) : Option (List Char × List Char) :=
  read.map fun (s, after) => (c :: s, after)

theorem length_of_prepend {c : Char} {read : Option (List Char × List Char)} {n : Nat}
    (ih : ∀ {s after}, read = some (s, after) → after.length < n) {s after : List Char}
    (h : prepend c read = some (s, after)) : after.length < n := by
  obtain ⟨r, hr, hs⟩ := Option.map_eq_some_iff.1 h
  obtain ⟨s', after'⟩ := r
  cases hs
  exact ih hr

/-- The characters of a string whose opening quote has been read, and what follows it. -/
def readString : List Char → Option (List Char × List Char)
  | [] => none
  | '"' :: rest => some ([], rest)
  | '\\' :: 'u' :: a :: b :: c :: d :: rest =>
    match hex4? a b c d with
    | none => none
    | some n =>
      if 0xD800 ≤ n && n ≤ 0xDBFF then
        match rest with
        | '\\' :: 'u' :: e :: f :: g :: h :: rest =>
          match (hex4? e f g h).bind (surrogates? n) with
          | none => none
          | some x => prepend x (readString rest)
        | _ => none
      else if 0xDC00 ≤ n && n ≤ 0xDFFF then none
      else prepend (Char.ofNat n) (readString rest)
  | '\\' :: c :: rest =>
    match escape? c with
    | none => none
    | some x => prepend x (readString rest)
  | c :: rest =>
    if c.toNat < 0x20 || c == '\\' then none
    else prepend c (readString rest)

theorem length_readString {text s after : List Char} (h : readString text = some (s, after)) :
    after.length < text.length := by
  fun_induction readString text generalizing s after
  all_goals first
    | contradiction
    | (have hlt := length_of_prepend ‹_› h
       simp only [List.length_cons]
       omega)
    | simp_all

/-- The tokens of a text. -/
def scan (text : List Char) : Option (List Token) :=
  match text with
  | [] => some []
  | '{' :: rest => (scan rest).map (.openBrace :: ·)
  | '}' :: rest => (scan rest).map (.closeBrace :: ·)
  | '[' :: rest => (scan rest).map (.openBracket :: ·)
  | ']' :: rest => (scan rest).map (.closeBracket :: ·)
  | ',' :: rest => (scan rest).map (.comma :: ·)
  | ':' :: rest => (scan rest).map (.colon :: ·)
  | '"' :: rest =>
    match _h : readString rest with
    | none => none
    | some (s, after) => (scan after).map (.scalar (.string (String.ofList s)) :: ·)
  | 't' :: 'r' :: 'u' :: 'e' :: rest => (scan rest).map (.scalar (.bool true) :: ·)
  | 'f' :: 'a' :: 'l' :: 's' :: 'e' :: rest => (scan rest).map (.scalar (.bool false) :: ·)
  | 'n' :: 'u' :: 'l' :: 'l' :: rest => (scan rest).map (.scalar .null :: ·)
  | c :: rest =>
    if isBlank c then scan rest
    else if isNumberChar c then
      match (readNumberText (c :: rest.takeWhile isNumberChar)).bind NumberText.toNumber with
      | none => none
      | some n => (scan (rest.dropWhile isNumberChar)).map (.scalar (.number n) :: ·)
    else none
termination_by text.length
decreasing_by
  all_goals simp only [List.length_cons]
  all_goals first
    | omega
    | (have hlt := length_readString ‹_›; omega)
    | (have hle := (List.dropWhile_suffix isNumberChar (l := rest)).length_le; omega)

/-! ## Values -/

/-- An open container, the latest entry first. -/
inductive Frame where
  | array (items : List Json)
  | object (members : List (String × Json))
  /-- an object that waits for the value of `name` -/
  | member (members : List (String × Json)) (name : String)
  deriving Repr, Inhabited

/-- What may come next. -/
inductive Place where
  | value
  /-- an item or the end of an array that has none yet -/
  | itemOrEnd
  /-- a name or the end of an object that has none yet -/
  | nameOrEnd
  | name
  | colon (name : String)
  /-- a comma or the end of the container -/
  | separator
  /-- nothing, the value is complete -/
  | done (value : Json)
  deriving Repr, Inhabited

/-- The most containers that may be open. -/
def maxContainers : Nat := 127

structure Reader where
  frames : List Frame
  place : Place
  deriving Repr, Inhabited

namespace Reader

/-- Takes a finished value. -/
def complete (frames : List Frame) (value : Json) : Option Reader :=
  match frames with
  | [] => some ⟨[], .done value⟩
  | .array items :: outer => some ⟨.array (value :: items) :: outer, .separator⟩
  | .member members name :: outer =>
    some ⟨.object ((name, value) :: members) :: outer, .separator⟩
  | .object _ :: _ => none

/-- Opens a container. -/
def openFrame (frames : List Frame) (frame : Frame) (place : Place) : Option Reader :=
  if frames.length < maxContainers then some ⟨frame :: frames, place⟩ else none

/-- A token at the start of a value. -/
def startValue (frames : List Frame) : Token → Option Reader
  | .scalar value => complete frames value
  | .openBracket => openFrame frames (.array []) .itemOrEnd
  | .openBrace => openFrame frames (.object []) .nameOrEnd
  | _ => none

/-- Reads one token. -/
def step (r : Reader) (token : Token) : Option Reader :=
  match r.place, token, r.frames with
  | .value, token, frames => startValue frames token
  | .itemOrEnd, .closeBracket, .array _ :: outer => complete outer (.array [])
  | .itemOrEnd, token, frames => startValue frames token
  | .nameOrEnd, .closeBrace, .object _ :: outer => complete outer (.object [])
  | .nameOrEnd, .scalar (.string name), frames => some ⟨frames, .colon name⟩
  | .name, .scalar (.string name), frames => some ⟨frames, .colon name⟩
  | .colon name, .colon, .object members :: outer => some ⟨.member members name :: outer, .value⟩
  | .separator, .comma, .array items :: outer => some ⟨.array items :: outer, .value⟩
  | .separator, .comma, .object members :: outer => some ⟨.object members :: outer, .name⟩
  | .separator, .closeBracket, .array items :: outer => complete outer (.array items.reverse)
  | .separator, .closeBrace, .object members :: outer => complete outer (.object members.reverse)
  | _, _, _ => none

/-- Reads all tokens. -/
def run (r : Reader) : List Token → Option Json
  | [] => match r.place with
    | .done value => some value
    | _ => none
  | token :: rest => (r.step token).bind (·.run rest)

end Reader

/-- The value that a text stands for. -/
def read? (text : String) : Option Json :=
  (scan text.toList).bind (Reader.run ⟨[], .value⟩)

end AudienceRouting.Json
