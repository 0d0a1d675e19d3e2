/-
  Audience routing — the layout of a YAML text.

  While the tokens of a text are read, its layout is kept: the columns in which
  the blocks around the current place begin, the brackets around it, and where a
  key may have begun.  A key that nothing but the colon behind it marks as one
  becomes known with the colon; its tokens are then put in front of what was read
  since.
-/
import AudienceRouting.Yaml.Cursor
import AudienceRouting.Yaml.Token

namespace AudienceRouting.Yaml

/-- A place where a key may have begun. -/
structure KeyStart where
  /-- nothing else can begin there -/
  required : Bool
  /-- tokens before it -/
  number : Nat
  index : Nat
  line : Nat
  column : Nat
  deriving DecidableEq, Repr, Inhabited

/-- An indentation: a block, or the single column by which a value in YAML 1.2 is further in than
    its key. -/
structure Indent where
  /-- the column of the indentation around it -/
  outer : Int
  block : Bool
  deriving DecidableEq, Repr, Inhabited

structure Layout where
  edition : Edition
  cursor : Cursor
  /-- nothing but blanks stands before the place in its line -/
  fresh : Bool
  /-- latest first -/
  tokens : List Token
  /-- the number of the tokens -/
  count : Nat
  /-- the column of the innermost indentation -/
  indent : Int
  indents : List Indent
  /-- brackets around the place -/
  depth : Nat
  keyStart : Option KeyStart
  /-- where keys may have begun outside of the innermost brackets, and so on -/
  outerKeyStarts : List (Option KeyStart)
  /-- a key may begin here -/
  keyAllowed : Bool
  /-- the place behind a quoted scalar or brackets, where a colon does not need a blank -/
  adjacent : Nat
  /-- the pairs in the brackets are known to belong to a mapping -/
  inMapping : Bool
  /-- for each square bracket around the place, whether a single pair is being read in it -/
  pairs : List Bool
  deriving Repr, Inhabited

namespace Layout

def atStart (e : Edition) (text : List Char) : Layout :=
  ⟨e, .atStart text, true, [], 0, -1, [], 0, none, [], true, 0, false, []⟩

def column (s : Layout) : Nat := s.cursor.column

def text (s : Layout) : List Char := s.cursor.text

/-! ## Tokens -/

def push (s : Layout) (token : Token) : Layout :=
  { s with tokens := token :: s.tokens, count := s.count + 1 }

/-- Puts tokens in front of those from a number on. -/
def insertAt (s : Layout) (number : Nat) (tokens : List Token) : Layout :=
  let since := s.count - number
  { s with
    tokens := s.tokens.take since ++ tokens.reverse ++ s.tokens.drop since
    count := s.count + tokens.length }

/-! ## Indentation -/

/-- Whether a block begins in a column outside of brackets, and the layout with it. -/
def beginBlock (s : Layout) (column : Nat) : Bool × Layout :=
  if s.depth > 0 then (false, s)
  else
    let s := match s.indents with
      | ⟨outer, false⟩ :: rest =>
        if s.indent ≤ (column : Int) then { s with indent := outer, indents := rest } else s
      | _ => s
    if s.indent < (column : Int) then
      (true, { s with indent := column, indents := ⟨s.indent, true⟩ :: s.indents })
    else (false, s)

/-- Begins a block in a column unless it has begun, and adds the token for that. -/
def openBlock (s : Layout) (column : Nat) (token : Token) : Layout :=
  let (begins, s) := s.beginBlock column
  if begins then s.push token else s

/-- Indents what follows by one column in YAML 1.2. -/
def indentValue (s : Layout) : Layout :=
  if s.edition == .v1_2 && s.depth == 0 && s.indents.head?.any (·.block) then
    { s with indent := s.indent + 1, indents := ⟨s.indent, false⟩ :: s.indents }
  else s

/-- Takes such an indentation back. -/
def outdentValue (s : Layout) : Layout :=
  match s.indents with
  | ⟨outer, false⟩ :: rest => { s with indent := outer, indents := rest }
  | _ => s

/-- Ends the indentations that begin behind a column. -/
def endIndents (s : Layout) (column : Int) : List Indent → Layout
  | [] => { s with indents := [] }
  | ⟨outer, block⟩ :: rest =>
    if s.indent ≤ column then { s with indents := ⟨outer, block⟩ :: rest }
    else
      let s := if block then s.push .blockEnd else s
      endIndents { s with indent := outer } column rest

/-- Ends the blocks that begin behind a column, unless the place is in brackets. -/
def closeBlocks (s : Layout) (column : Int) : Layout :=
  if s.depth > 0 then s else s.endIndents column s.indents

/-! ## Keys -/

/-- Gives up that a key has begun. -/
def dropKey? (s : Layout) : Option Layout :=
  if s.keyStart.any (·.required) then none else some { s with keyStart := none }

/-- Gives up that a key has begun if it would be too long: it has to stay on one line, and the
    colon is at most 1024 characters behind its start.  In the brackets of YAML 1.2 keys may be of
    any length. -/
def checkKey? (s : Layout) : Option Layout :=
  match s.keyStart with
  | some k =>
    if (s.edition == .v1_1 || s.depth == 0) &&
        (k.line < s.cursor.line || k.index + 1024 < s.cursor.index) then s.dropKey?
    else some s
  | none => some s

/-- Notes that a key may begin here. -/
def noteKey? (s : Layout) : Option Layout :=
  if s.keyAllowed then do
    let required := s.depth == 0 && s.indent == s.column && s.indents.head?.any (·.block)
    let s ← s.dropKey?
    let start : KeyStart := ⟨required, s.count, s.cursor.index, s.cursor.line, s.column⟩
    some { s with keyStart := some start }
  else some s

/-! ## Brackets -/

/-- Ends the single pair that is being read in square brackets. -/
def endPair (s : Layout) : Layout :=
  match s.pairs with
  | true :: rest => { s with inMapping := false, pairs := false :: rest }.push .flowMappingEnd
  | _ => s

/-! ## Space -/

/-- Moves over blanks and a comment in YAML 1.2, where a comment needs a blank in front of it. -/
def skipBehind? (s : Layout) : Option Layout :=
  if s.edition == .v1_2 then
    (s.cursor.skipComment? s.edition).map fun c => { s with cursor := c }
  else some s

/-- Moves to the next line, where a key may begin outside of brackets. -/
def nextLine (s : Layout) : Layout :=
  { s with cursor := s.cursor.newLine, fresh := true, keyAllowed := s.keyAllowed || s.depth == 0 }

/-- Whether the tab at the current place may be skipped.  In YAML 1.1 it may not stand where a key
    may begin, in YAML 1.2 not in front of a value that is not indented far enough. -/
def allowsTab (s : Layout) : Bool :=
  match s.edition with
  | .v1_1 => s.depth > 0 || !s.keyAllowed
  | .v1_2 => s.indents.isEmpty || !s.fresh || s.indent ≤ (s.column : Int)

/-- Moves to the next token. -/
def skipSpace? (s : Layout) : (fuel : Nat) → Option Layout
  | 0 => some s
  | fuel + 1 =>
    match s.text with
    | [] => some s
    | d :: _ =>
      if s.edition.isBreak d then skipSpace? s.nextLine fuel
      else if d == '#' then skipSpace? { s with cursor := s.cursor.skipLine s.edition } fuel
      else if d == ' ' || (d == '\t' && s.allowsTab) ||
          (d == '\ufeff' && s.edition == .v1_1 && s.column == 0) then
        skipSpace? { s with cursor := s.cursor.advance 1 } fuel
      else if d == '\t' && s.edition == .v1_2 then do
        let c ← s.cursor.skipComment? s.edition
        if s.edition.atLineEnd c.text then skipSpace? { s with cursor := c } fuel else none
      else some s

end Layout

end AudienceRouting.Yaml
