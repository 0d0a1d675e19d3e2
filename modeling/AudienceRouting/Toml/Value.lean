/-
  Audience routing — the values of TOML.

  Numbers may have underscores between their digits.  The items of an array and
  the pairs of a table in braces may stand on several lines, with comments and a
  comma behind the last one.  The names in front of a value are a path of keys,
  with dots between them, that stands on one line.

  At most `maxContainers` arrays and tables in braces may be open at a time, and
  a path has at most `maxKeys` keys.
-/
import AudienceRouting.Toml.Moment
import AudienceRouting.Toml.Table
import AudienceRouting.Toml.Text

namespace AudienceRouting.Toml

/-! ## Space -/

def skipBlanks (text : List Char) : List Char := text.dropWhile isBlank

/-- Moves over blanks, line breaks and comments. -/
def skipLines (comment : Bool) : List Char → Option (List Char)
  | [] => some []
  | '\n' :: rest => skipLines false rest
  | '\r' :: '\n' :: rest => skipLines false rest
  | c :: rest =>
    if comment then (if isTextChar c then skipLines true rest else none)
    else if isBlank c then skipLines false rest
    else if c == '#' then skipLines true rest
    else some (c :: rest)

/-! ## Keys -/

def isKeyChar (c : Char) : Bool := c.isAlphanum || c == '_' || c == '-'

/-- Reads one key. -/
def readKey (text : List Char) : Option (String × List Char) :=
  match text with
  | '"' :: rest => (readBasic rest).map fun (s, rest) => (String.ofList s, rest)
  | '\'' :: rest => (readLiteral rest).map fun (s, rest) => (String.ofList s, rest)
  | text =>
    match text.takeWhile isKeyChar with
    | [] => none
    | key => some (String.ofList key, text.dropWhile isKeyChar)

/-- The most keys that a path may have. -/
def maxKeys : Nat := 80

/-- Reads a path of no more than `room` keys, and the blanks around it. -/
def readKeys (text : List Char) : (room : Nat) → Option (List String × List Char)
  | 0 => none
  | room + 1 => do
    let (key, rest) ← readKey (skipBlanks text)
    match skipBlanks rest with
    | '.' :: rest => (readKeys rest room).map fun (keys, rest) => (key :: keys, rest)
    | rest => some ([key], rest)

/-- Reads a path of keys, and the blanks around it. -/
def readPath (text : List Char) : Option (List String × List Char) := readKeys text maxKeys

/-! ## Numbers -/

/-- The characters that numbers, dates, times and booleans are written with. -/
def isWordChar (c : Char) : Bool :=
  c.isAlphanum || c == '+' || c == '-' || c == '_' || c == '.' || c == ':'

/-- Digits without the underscores, which stand between two of them. -/
def plainDigits (isDigit : Char → Bool) : List Char → Option (List Char)
  | [] => some []
  | '_' :: _ => none
  | c :: '_' :: d :: rest =>
    if isDigit c && isDigit d then (plainDigits isDigit (d :: rest)).map (c :: ·) else none
  | c :: rest => if isDigit c then (plainDigits isDigit rest).map (c :: ·) else none

/-- Whether digits have a zero in front that is not needed. -/
def isPadded (ds : List Char) : Bool := ds.head? == some '0' && 1 < ds.length

/-- Digits, of which there is at least one, without the underscores. -/
def decimalDigits (text : List Char) : Option (List Char) := do
  let ds ← plainDigits Char.isDigit text
  if ds.isEmpty then none else some ds

/-- A whole number in a base that is written in front of it. -/
def readBased? (base : Nat) (text : List Char) : Option Int := do
  let n ← Text.readDigitsIn? base (← plainDigits (fun c => (Text.digitIn? base c).isSome) text)
  if Text.isInt64 n then some n else none

/-- A whole number. -/
def readInteger? (text : List Char) : Option Int :=
  match text with
  | '0' :: 'x' :: rest => readBased? 16 rest
  | '0' :: 'o' :: rest => readBased? 8 rest
  | '0' :: 'b' :: rest => readBased? 2 rest
  | text => do
    let (negative, ds) := Text.splitSign text
    let ds ← decimalDigits ds
    let n := Text.withSign negative (Text.natOfDigits ds)
    if isPadded ds || !Text.isInt64 n then none else some n

/-- A number with a fraction or an exponent, or one of the names. -/
def readFloat? (text : List Char) : Option Binary64 := do
  let (negative, magnitude) := Text.splitSign text
  if magnitude == ['i', 'n', 'f'] then some (.infinite negative)
  else if magnitude == ['n', 'a', 'n'] then some .nan
  else
    let isExponent : Char → Bool := fun c => c == 'e' || c == 'E'
    let mantissa := magnitude.takeWhile (!isExponent ·)
    let whole := mantissa.takeWhile (· != '.')
    let wholeDigits ← decimalDigits whole
    let fraction ← match mantissa.drop whole.length with
      | '.' :: rest => (decimalDigits rest).map ('.' :: ·)
      | _ => some []
    let exponent ← match magnitude.drop mantissa.length with
      | _ :: rest =>
        let ds := (Text.splitSign rest).2
        let sign := rest.take (rest.length - ds.length)
        (decimalDigits ds).map fun ds => 'e' :: (sign ++ ds)
      | [] => some []
    if isPadded wholeDigits || (fraction.isEmpty && exponent.isEmpty) then none
    else
      let x ← Text.readFloat? (wholeDigits ++ fraction ++ exponent)
      match x with
      | .infinite _ => none
      | x => some (if negative then x.negated else x)

/-- The value of a word. -/
def ofWord? (text : List Char) : Option Toml :=
  if text == "true".toList then some (.bool true)
  else if text == "false".toList then some (.bool false)
  else
    match readInteger? text, readFloat? text, moment? text with
    | some n, _, _ => some (.integer n)
    | none, some x, _ => some (.float x)
    | none, none, some m => some (.dateTime m)
    | none, none, none => none

/-- A word; a time may stand behind a date and a space. -/
def splitWord (text : List Char) : List Char × List Char :=
  let word := text.takeWhile isWordChar
  let rest := text.drop word.length
  match readDate word, rest with
  | some (_, []), ' ' :: c :: more =>
    if c.isDigit then
      (word ++ ' ' :: (c :: more).takeWhile isWordChar, (c :: more).dropWhile isWordChar)
    else (word, rest)
  | _, _ => (word, rest)

/-! ## Values -/

/-- The most arrays and tables in braces that may be open. -/
def maxContainers : Nat := 80

mutual

/-- Reads a value in which no more than `room` containers may be open.  The fuel bounds how deep the
    calls nest. -/
def readValueIn (room : Nat) (text : List Char) : (fuel : Nat) → Option (Toml × List Char)
  | 0 => none
  | fuel + 1 =>
    match text, room with
    | '"' :: _, _ | '\'' :: _, _ =>
      (readText? text).map fun (s, rest) => (.string (String.ofList s), rest)
    | '[' :: _, 0 | '\x7b' :: _, 0 => none
    | '[' :: rest, room + 1 =>
      (readItems room rest fuel).map fun (items, rest) => (.array items, rest)
    | '\x7b' :: rest, room + 1 => do
      let (pairs, rest) ← readPairs room rest fuel
      some (.table (← tableOf pairs), rest)
    | text, _ =>
      let (word, rest) := splitWord text
      (ofWord? word).map fun value => (value, rest)

/-- Reads the items of an array up to the bracket behind them. -/
def readItems (room : Nat) (text : List Char) : (fuel : Nat) → Option (List Toml × List Char)
  | 0 => none
  | fuel + 1 => do
    match ← skipLines false text with
    | ']' :: rest => some ([], rest)
    | text =>
      let (item, rest) ← readValueIn room text fuel
      match ← skipLines false rest with
      | ',' :: rest =>
        (readItems room rest fuel).map fun (items, rest) => (item :: items, rest)
      | ']' :: rest => some ([item], rest)
      | _ => none

/-- Reads the pairs of a table in braces up to the brace behind them. -/
def readPairs (room : Nat) (text : List Char) : (fuel : Nat) → Option (List Pair × List Char)
  | 0 => none
  | fuel + 1 => do
    match ← skipLines false text with
    | '\x7d' :: rest => some ([], rest)
    | text =>
      let (path, rest) ← readPath text
      let rest ← skipChar '=' (← skipLines false rest)
      let (value, rest) ← readValueIn room (← skipLines false rest) fuel
      match ← skipLines false rest with
      | ',' :: rest =>
        (readPairs room rest fuel).map fun (pairs, rest) => (⟨path, value⟩ :: pairs, rest)
      | '\x7d' :: rest => some ([⟨path, value⟩], rest)
      | _ => none

end

/-- Reads a value; the length of the text is fuel enough. -/
def readValue (text : List Char) : Option (Toml × List Char) :=
  readValueIn maxContainers text (2 * text.length + 2)

end AudienceRouting.Toml
