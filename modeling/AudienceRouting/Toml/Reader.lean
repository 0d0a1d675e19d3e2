/-
  Audience routing — reading TOML.

  A text is a list of lines: headers in brackets, and pairs, which belong to the
  header before them.
-/
import AudienceRouting.Toml.Value

namespace AudienceRouting.Toml

/-- What a line says. -/
inductive Statement where
  | header (path : List String)
  | element (path : List String)
  | pair (pair : Pair)
  deriving Repr, Inhabited

/-- Characters that have to be there. -/
def skipChars (cs : List Char) (text : List Char) : Option (List Char) :=
  cs.foldlM (fun text c => skipChar c text) text

/-- Reads the statement at the front of a text. -/
def readStatement (text : List Char) : Option (Statement × List Char) :=
  match text with
  | '[' :: '[' :: rest => do
    let (path, rest) ← readPath rest
    some (.element path, ← skipChars [']', ']'] rest)
  | '[' :: rest => do
    let (path, rest) ← readPath rest
    some (.header path, ← skipChar ']' rest)
  | text => do
    let (path, rest) ← readPath text
    let (value, rest) ← readValue (skipBlanks (← skipChar '=' rest))
    some (.pair ⟨path, value⟩, rest)

/-- Whether nothing but blanks and a comment is left of a line. -/
def endsLine (text : List Char) : Bool :=
  match skipBlanks text with
  | [] => true
  | c :: rest => c == '#' || (afterBreak? (c :: rest)).isSome

/-- Reads the statements of a text.  The fuel bounds how many there are. -/
def readStatements (text : List Char) : (fuel : Nat) → Option (List Statement)
  | 0 => none
  | fuel + 1 => do
    match ← skipLines false text with
    | [] => some []
    | text =>
      let (statement, rest) ← readStatement text
      if endsLine rest then (readStatements rest fuel).map (statement :: ·) else none

/-- Splits statements into the pairs in front of the first header, and the sections. -/
def toSections : List Statement → List Pair × List Section
  | [] => ([], [])
  | statement :: rest =>
    let (pairs, sections) := toSections rest
    match statement with
    | .pair pair => (pair :: pairs, sections)
    | .header path => ([], ⟨path, false, pairs⟩ :: sections)
    | .element path => ([], ⟨path, true, pairs⟩ :: sections)

/-- A byte order mark in front of a text does not count. -/
def dropMark : List Char → List Char
  | '\ufeff' :: rest => rest
  | text => text

/-- The members of the table that a text stands for. -/
def read? (text : String) : Option (List (String × Toml)) := do
  let cs := dropMark text.toList
  let (pairs, sections) := toSections (← readStatements cs (cs.length + 1))
  tableOfSections pairs sections

end AudienceRouting.Toml
