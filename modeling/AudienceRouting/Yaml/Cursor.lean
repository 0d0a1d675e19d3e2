/-
  Audience routing — places in a YAML text.
-/
import AudienceRouting.Yaml.Edition

namespace AudienceRouting.Yaml

/-- A place in a text: what follows it, and what precedes it. -/
structure Cursor where
  text : List Char
  /-- characters before it -/
  index : Nat
  /-- lines before its line -/
  line : Nat
  /-- characters of its line before it -/
  column : Nat
  /-- characters of the whole text, which bounds the steps of its readers -/
  size : Nat
  deriving DecidableEq, Repr, Inhabited

namespace Cursor

def atStart (text : List Char) : Cursor := ⟨text, 0, 0, 0, text.length⟩

/-- Moves over characters of the line. -/
def advance (c : Cursor) (n : Nat) : Cursor :=
  { c with text := c.text.drop n, index := c.index + n, column := c.column + n }

/-- Moves over the end of the line. -/
def newLine (c : Cursor) : Cursor :=
  { c with text := c.text.drop 1, index := c.index + 1, line := c.line + 1, column := 0 }

/-- Moves over the characters of the line that `p` holds of. -/
def skipWhile (c : Cursor) (p : Char → Bool) : Cursor :=
  c.advance (c.text.takeWhile p).length

def skipBlanks (c : Cursor) : Cursor := c.skipWhile isBlank

def startsWith (c : Cursor) (d : Char) : Bool := c.text.head? == some d

/-- Moves over the rest of the line up to its end. -/
def skipLine (c : Cursor) (e : Edition) : Cursor := c.skipWhile (!e.isBreak ·)

/-- Moves over blanks and a comment.  In YAML 1.2 a blank has to stand before a comment. -/
def skipComment? (c : Cursor) (e : Edition) : Option Cursor :=
  let next := c.skipBlanks
  if next.startsWith '#' then
    if e == .v1_2 && next.index == c.index then none else some (next.skipLine e)
  else some next

end Cursor

end AudienceRouting.Yaml
