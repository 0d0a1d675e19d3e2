/-
  Audience routing — block scalars of YAML.

  A block scalar keeps its lines, or folds them.  How far they are indented is
  written in its first line, or found out from the lines.

  The readers take fuel, which bounds the number of their steps; each step moves
  on in the text, so the size of the text is enough.
-/
import AudienceRouting.Text.Numeral
import AudienceRouting.Yaml.Cursor

namespace AudienceRouting.Yaml

/-- What happens to the line breaks at the end of a block scalar. -/
inductive Chomping where
  | strip
  | clip
  | keep
  deriving DecidableEq, Repr, Inhabited

/-- The marks behind the `|` or `>`. -/
structure BlockMarks where
  chomping : Chomping
  /-- how far the lines are indented beyond the block around them, if that is written -/
  indent : Option Nat
  deriving DecidableEq, Repr, Inhabited

/-- Reads the mark for the end. -/
def readChomping (c : Cursor) : Chomping × Cursor :=
  if c.startsWith '+' then (.keep, c.advance 1)
  else if c.startsWith '-' then (.strip, c.advance 1)
  else (.clip, c)

/-- Reads the mark for the indentation, which is not zero. -/
def readIncrement? (c : Cursor) : Option (Option Nat × Cursor) :=
  match c.text with
  | '0' :: _ => none
  | d :: _ => if d.isDigit then some (some (Text.digitValue d), c.advance 1) else some (none, c)
  | [] => some (none, c)

/-- Reads the marks, in either order. -/
def readMarks? (c : Cursor) : Option (BlockMarks × Cursor) := do
  let (first, next) := readChomping c
  let (indent, next) ← readIncrement? next
  if first != .clip then some (⟨first, indent⟩, next)
  else
    let (chomping, next) := if indent.isSome then readChomping next else (.clip, next)
    some (⟨chomping, indent⟩, next)

/-- Empty lines, which hold nothing but spaces. -/
structure EmptyLines where
  /-- their breaks, in reverse -/
  breaks : List Char
  /-- the column of the longest one, or of the line behind them -/
  widest : Nat
  next : Cursor
  deriving DecidableEq, Repr, Inhabited

/-- Reads empty lines on, and the spaces in front of the next line up to the column `limit`.  In
    YAML 1.1 no tab may stand among these. -/
def readEmptyLines (e : Edition) (limit : Option Nat) (breaks : List Char) (widest : Nat)
    (c : Cursor) : (fuel : Nat) → Option EmptyLines
  | 0 => none
  | fuel + 1 =>
    let spaces := (c.text.takeWhile (· == ' ')).length
    let c := c.advance (match limit with
      | some limit => min spaces (limit - c.column)
      | none => spaces)
    let widest := max widest c.column
    if e == .v1_1 && c.startsWith '\t' && limit.all (c.column < ·) then none
    else match c.text with
      | d :: _ =>
        if e.isBreak d then readEmptyLines e limit (d :: breaks) widest c.newLine fuel
        else some ⟨breaks, widest, c⟩
      | [] => some ⟨breaks, widest, c⟩

/-- A block scalar in the making. -/
structure BlockText where
  /-- in reverse -/
  out : List Char
  /-- the break of the line before -/
  lineBreak : List Char
  /-- the breaks of the empty lines since then, in reverse -/
  breaks : List Char
  /-- the line before begins with a blank -/
  indented : Bool
  deriving DecidableEq, Repr, Inhabited

/-- Adds a line of text. -/
def BlockText.addLine (b : BlockText) (folded : Bool) (line : List Char) : BlockText :=
  let indented := line.head?.any isBlank
  let joint :=
    if folded && b.lineBreak == ['\n'] && !b.indented && !indented then
      if b.breaks.isEmpty then [' '] else []
    else b.lineBreak
  ⟨line.reverse ++ b.breaks ++ joint ++ b.out, [], [], indented⟩

/-- Reads the lines that begin in a column, and says where they end. -/
def readLines (e : Edition) (folded : Bool) (column : Nat) (b : BlockText) (c : Cursor) :
    (fuel : Nat) → Option (BlockText × Cursor)
  | 0 => none
  | fuel + 1 =>
    if c.column ≠ column || c.text.isEmpty then some (b, c)
    else
      let line := c.text.takeWhile (!e.isBreak ·)
      let b := b.addLine folded line
      let c := c.advance line.length
      match c.text with
      | [] => some (b, c)
      | d :: _ => do
        let empty ← readEmptyLines e (some column) [] 0 c.newLine (c.size + 1)
        readLines e folded column { b with lineBreak := [d], breaks := empty.breaks } empty.next fuel

/-- The text of a block scalar whose lines have been read up to `c`.  In YAML 1.2 a line that the
    text ends in is ended as the others are. -/
def BlockText.finish (b : BlockText) (e : Edition) (chomping : Chomping) (column : Nat)
    (c : Cursor) : List Char :=
  let open_ := e == .v1_2 && c.text.isEmpty && max column 1 ≤ c.column
  let tail := match chomping with
    | .strip => []
    | .clip => b.lineBreak ++ (if open_ then ['\n'] else [])
    | .keep => b.lineBreak ++ (if open_ then ['\n'] else []) ++ b.breaks.reverse
  b.out.reverse ++ tail

/-- The text of a block scalar in YAML 1.2 if the whole text ends before its first line. -/
def emptyBlock (chomping : Chomping) (firstBreak breaks : List Char) : List Char :=
  match chomping with
  | .strip => []
  | .clip => firstBreak
  | .keep => if breaks.isEmpty || firstBreak.isEmpty then firstBreak else breaks

/-- Reads a block scalar from its `|` or `>` on, in a block that is indented by `parent`. -/
def readBlockScalar (e : Edition) (parent : Int) (c : Cursor) : Option (List Char × Cursor) := do
  let folded := c.startsWith '>'
  let (marks, c) ← readMarks? (c.advance 1)
  let c ← c.skipComment? e
  if !e.atLineEnd c.text then none
  let firstBreak := c.text.take 1
  let c := if firstBreak.isEmpty then c else c.newLine
  if e == .v1_2 && c.startsWith '\t' then none
  let fuel := c.size + 1
  let written := marks.indent.map fun n => (max parent 0).toNat + n
  let empty ← readEmptyLines e written [] 0 c fuel
  let least := match e with
    | .v1_1 => max (parent + 1) 1
    | .v1_2 => parent + 1
  let column := written.getD (max empty.widest least.toNat)
  let c := empty.next
  if e == .v1_2 && c.text.isEmpty then
    some (emptyBlock marks.chomping firstBreak empty.breaks, c)
  else if e == .v1_2 && c.column < column && parent < c.column then none
  else
    let (b, c) ← readLines e folded column ⟨[], [], empty.breaks, false⟩ c fuel
    some (b.finish e marks.chomping column c, c)

end AudienceRouting.Yaml
