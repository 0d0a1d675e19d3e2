/-
  Audience routing — the texts of TOML.

  A text stands between quotes, on one line or on several ones between three
  quotes each.  Between double quotes there are escapes, a line break is a line
  feed whichever way it is written, and a backslash at the end of a line takes
  the white space behind it away; between single quotes everything stands for
  itself.
-/
import AudienceRouting.Json.Reader

namespace AudienceRouting.Toml

/-- A blank between the parts of a line. -/
def isBlank (c : Char) : Bool := c == ' ' || c == '\t'

/-- The characters that may stand in comments and texts. -/
def isTextChar (c : Char) : Bool := c == '\t' || (0x20 ≤ c.toNat && c.toNat != 0x7F)

/-- The character of an escape of one letter. -/
def escape? : Char → Option Char
  | 'b' => some '\x08'
  | 'e' => some '\x1b'
  | 't' => some '\t'
  | 'n' => some '\n'
  | 'f' => some '\x0c'
  | 'r' => some '\r'
  | '"' => some '"'
  | '\\' => some '\\'
  | _ => none

/-- A character, if there is one, in front of what was read of a text. -/
def prepend? (c : Option Char) (read : Option (List Char × List Char)) :
    Option (List Char × List Char) :=
  c.bind (Json.prepend · read)

/-- The characters of a text whose double quote has been read, and what follows it. -/
def readBasic : List Char → Option (List Char × List Char)
  | [] => none
  | '"' :: rest => some ([], rest)
  | '\\' :: 'x' :: a :: b :: rest => prepend? (Text.charOfHex? [a, b]) (readBasic rest)
  | '\\' :: 'u' :: a :: b :: c :: d :: rest =>
    prepend? (Text.charOfHex? [a, b, c, d]) (readBasic rest)
  | '\\' :: 'U' :: a :: b :: c :: d :: e :: f :: g :: h :: rest =>
    prepend? (Text.charOfHex? [a, b, c, d, e, f, g, h]) (readBasic rest)
  | '\\' :: c :: rest => prepend? (escape? c) (readBasic rest)
  | c :: rest =>
    if isTextChar c && c != '\\' then Json.prepend c (readBasic rest) else none

/-- The characters of a text whose single quote has been read, and what follows it. -/
def readLiteral : List Char → Option (List Char × List Char)
  | [] => none
  | '\'' :: rest => some ([], rest)
  | c :: rest => if isTextChar c then Json.prepend c (readLiteral rest) else none

/-- What follows a line break at the front of a text, if there is one. -/
def afterBreak? : List Char → Option (List Char)
  | '\n' :: rest => some rest
  | '\r' :: '\n' :: rest => some rest
  | _ => none

/-- The end of a long text: up to two more quotes in front of its own belong to it. -/
def closeLong (quote : Char) (rest : List Char) : List Char × List Char :=
  let more := min 2 (rest.takeWhile (· == quote)).length
  (List.replicate more quote, rest.drop more)

/-- The characters of a text whose three double quotes have been read, and what follows it.  White
    space is left out while `skipping`. -/
def readLongBasic (skipping : Bool) : List Char → Option (List Char × List Char)
  | [] => none
  | '"' :: '"' :: '"' :: rest => some (closeLong '"' rest)
  | '\\' :: 'x' :: a :: b :: rest =>
    prepend? (Text.charOfHex? [a, b]) (readLongBasic false rest)
  | '\\' :: 'u' :: a :: b :: c :: d :: rest =>
    prepend? (Text.charOfHex? [a, b, c, d]) (readLongBasic false rest)
  | '\\' :: 'U' :: a :: b :: c :: d :: e :: f :: g :: h :: rest =>
    prepend? (Text.charOfHex? [a, b, c, d, e, f, g, h]) (readLongBasic false rest)
  | '\r' :: '\n' :: rest =>
    if skipping then readLongBasic true rest else Json.prepend '\n' (readLongBasic false rest)
  | '\\' :: rest =>
    if (afterBreak? (rest.dropWhile isBlank)).isSome then readLongBasic true rest
    else
      match rest with
      | c :: rest => prepend? (escape? c) (readLongBasic false rest)
      | [] => none
  | c :: rest =>
    if skipping && (isBlank c || c == '\n') then readLongBasic true rest
    else if isTextChar c || c == '\n' then Json.prepend c (readLongBasic false rest)
    else none

/-- The characters of a text whose three single quotes have been read, and what follows it. -/
def readLongLiteral : List Char → Option (List Char × List Char)
  | [] => none
  | '\'' :: '\'' :: '\'' :: rest => some (closeLong '\'' rest)
  | '\r' :: '\n' :: rest => Json.prepend '\r' (Json.prepend '\n' (readLongLiteral rest))
  | c :: rest =>
    if isTextChar c || c == '\n' then Json.prepend c (readLongLiteral rest) else none

/-- A line break right behind the quotes of a long text does not count. -/
def dropBreak (text : List Char) : List Char := (afterBreak? text).getD text

/-- Reads a text from its first quote on. -/
def readText? : List Char → Option (List Char × List Char)
  | '"' :: '"' :: '"' :: rest => readLongBasic false (dropBreak rest)
  | '\'' :: '\'' :: '\'' :: rest => readLongLiteral (dropBreak rest)
  | '"' :: rest => readBasic rest
  | '\'' :: rest => readLiteral rest
  | _ => none

end AudienceRouting.Toml
