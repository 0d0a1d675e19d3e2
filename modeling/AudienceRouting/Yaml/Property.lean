/-
  Audience routing — anchors, tags and directives of YAML.

  In front of a value there may be an anchor, which names it for the aliases that
  follow, and a tag with its kind.  A tag has a handle, which a directive in front
  of the document may give a meaning.
-/
import AudienceRouting.Text.Numeral
import AudienceRouting.Yaml.Cursor
import AudienceRouting.Yaml.Token

namespace AudienceRouting.Yaml

/-! ## Anchors -/

/-- Reads the name of an anchor. -/
def readName? (e : Edition) (c : Cursor) : Option (String × Cursor) :=
  let name := c.text.takeWhile fun d =>
    match e with
    | .v1_1 => isWordChar d
    | .v1_2 => !e.atGap [d] && !isFlowIndicator d && d != '\ufeff'
  let next := c.advance name.length
  let ended := e == .v1_2 || e.atGap next.text ||
    next.text.head?.any (['?', ':', ',', ']', '\x7d', '%', '@', '\x60'].contains ·)
  if name.isEmpty || !ended then none else some (String.ofList name, next)

/-! ## Tags -/

/-- The characters of tags.  Between angle brackets, and behind the handle of a directive, there
    are a few more than elsewhere. -/
def isTagChar (e : Edition) (wide : Bool) (c : Char) : Bool :=
  isWordChar c ||
    [';', '/', '?', ':', '@', '&', '=', '+', '$', '.', '~', '*', '\'', '(', ')', '%'].contains c ||
    (match e with
    | .v1_1 => c == '!' || (wide && [',', '[', ']'].contains c)
    | .v1_2 => c == '#' || (wide && ['!', ',', '[', ']'].contains c))

/-- An octet that is written as a percent sign and two digits. -/
def octet? : List Char → Option Nat
  | '%' :: a :: b :: _ => Text.readDigitsIn? 16 [a, b]
  | _ => none

/-- How many octets follow the first one of a character. -/
def furtherOctets? (first : Nat) : Option Nat :=
  if first < 0x80 then some 0
  else if 0xC0 ≤ first && first < 0xE0 then some 1
  else if 0xE0 ≤ first && first < 0xF0 then some 2
  else if 0xF0 ≤ first && first < 0xF8 then some 3
  else none

/-- Reads so many octets that continue a character. -/
def readOctets? (text : List Char) : (n : Nat) → Option (List Nat)
  | 0 => some []
  | n + 1 => do
    let octet ← octet? text
    if 0x80 ≤ octet && octet < 0xC0 then
      (readOctets? (text.drop 3) n).map (octet :: ·)
    else none

/-- The character at the front of a text that is written with octets, and their number.  YAML 1.2
    strings the octets together, so that there are at most two of them. -/
def escapedChar? (e : Edition) (text : List Char) : Option (Char × Nat) := do
  let first ← octet? text
  let more ← furtherOctets? first
  let octets ← readOctets? (text.drop 3) more
  let code := match e with
    | .v1_1 => octets.foldl (fun n octet => n * 64 + octet % 64)
        (if more = 0 then first else first % Nat.pow 2 (6 - more))
    | .v1_2 => octets.foldl (fun n octet => n * 256 + octet) first
  if e == .v1_2 && !code.isValidChar then none else some (Char.ofNat code, more + 1)

/-- Reads characters of a tag; `out` is what was read, in reverse. -/
def readTagChars (e : Edition) (wide : Bool) (out : List Char) (c : Cursor) :
    (fuel : Nat) → Option (List Char × Cursor)
  | 0 => some (out.reverse, c)
  | fuel + 1 =>
    match c.text with
    | d :: _ =>
      if d == '%' then do
        let (character, octets) ← escapedChar? e c.text
        readTagChars e wide (character :: out) (c.advance (3 * octets)) fuel
      else if isTagChar e wide d then readTagChars e wide (d :: out) (c.advance 1) fuel
      else some (out.reverse, c)
    | [] => some (out.reverse, c)

/-- Reads a handle: words between exclamation marks, or the first mark and what follows it. -/
def readHandle (c : Cursor) : List Char × Cursor :=
  let word := (c.text.drop 1).takeWhile isWordChar
  let next := c.advance (1 + word.length)
  if next.startsWith '!' then ('!' :: word ++ ['!'], next.advance 1) else ('!' :: word, next)

/-- Reads a tag from its exclamation mark on. -/
def readTag? (e : Edition) (flow : Bool) (c : Cursor) : Option (Token × Cursor) := do
  let fuel := c.size
  let (handle, suffix, next) ←
    if (c.text.drop 1).head? == some '<' then do
      let (name, next) ← readTagChars e true [] (c.advance 2) fuel
      if !next.startsWith '>' || (e == .v1_1 && name.isEmpty) then none
      else some ([], name, next.advance 1)
    else do
      let (handle, next) := readHandle c
      if 2 ≤ handle.length && handle.getLast? == some '!' then
        let (suffix, next) ← readTagChars e false [] next fuel
        if suffix.isEmpty then none else some (handle, suffix, next)
      else
        let (suffix, next) ← readTagChars e false (handle.drop 1).reverse next fuel
        some (if suffix.isEmpty then ([], ['!'], next) else (['!'], suffix, next))
  let ended := e.atGap next.text || (flow && next.text.head?.any fun d =>
    match e with
    | .v1_1 => d == ','
    | .v1_2 => isFlowIndicator d)
  if ended then some (.tag (String.ofList handle) (String.ofList suffix), next) else none

/-! ## Directives -/

/-- Reads a part of a version, of nine digits at the most. -/
def readVersionPart? (c : Cursor) : Option (Nat × Cursor) := do
  let ds := c.text.takeWhile Char.isDigit
  let n ← Text.readDigits? ds
  if 9 < ds.length then none else some (n, c.advance ds.length)

/-- Reads the version behind the name of its directive. -/
def readVersion? (c : Cursor) : Option (Token × Cursor) := do
  let (major, c) ← readVersionPart? c.skipBlanks
  if !c.startsWith '.' then none
  let (minor, c) ← readVersionPart? (c.advance 1)
  some (.version major minor, c)

/-- Reads the handle and its meaning behind the name of their directive. -/
def readHandleMeaning? (e : Edition) (c : Cursor) : Option (Token × Cursor) := do
  let c := c.skipBlanks
  if !c.startsWith '!' then none
  let (handle, c) := readHandle c
  if handle.getLast? != some '!' then none
  if e == .v1_1 && !c.text.head?.any isBlank then none
  let c := c.skipBlanks
  let (meaning, next) ← match e with
    | .v1_1 => readTagChars e true [] c c.size
    | .v1_2 =>
      if c.startsWith '!' then readTagChars e true ['!'] (c.advance 1) c.size
      else if c.text.head?.any (isTagChar e false) then readTagChars e true [] c c.size
      else none
  if meaning.isEmpty || !e.atGap next.text then none
  else some (.handle (String.ofList handle) (String.ofList meaning), next)

/-- Reads a directive from its percent sign on, and the end of its line.  YAML 1.2 takes one that
    is not known for one that gives nothing a meaning. -/
def readDirective? (e : Edition) (c : Cursor) : Option (Token × Cursor) := do
  let c := c.advance 1
  let name := c.text.takeWhile isWordChar
  let c := c.advance name.length
  if name.isEmpty || !e.atGap c.text then none
  let (token, c) ←
    if name == "YAML".toList then readVersion? c
    else if name == "TAG".toList then readHandleMeaning? e c
    else if e == .v1_2 then some (.handle "" "", c.skipLine e)
    else none
  let c ← c.skipComment? e
  if !e.atLineEnd c.text then none
  some (token, if c.text.isEmpty then c else c.newLine)

end AudienceRouting.Yaml
