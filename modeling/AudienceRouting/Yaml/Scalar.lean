/-
  Audience routing — plain and quoted scalars of YAML.

  They may go on in the next line.  A single line break then becomes a space, and
  of several ones the first is dropped; blanks around the breaks do not count.

  The readers take fuel, which bounds the number of their steps; each step moves
  on in the text, so the size of the text is enough.
-/
import AudienceRouting.Json.Reader
import AudienceRouting.Yaml.Cursor

namespace AudienceRouting.Yaml

/-! ## Gaps -/

/-- Blanks and line breaks between the words of a scalar, latest first. -/
structure Gap where
  /-- blanks of the line that the gap begins in -/
  blanks : List Char
  breaks : List Char
  /-- a backslash hides the first line break -/
  hidden : Bool
  deriving DecidableEq, Repr, Inhabited

namespace Gap

def none : Gap := ⟨[], [], false⟩

/-- Whether the gap ends in another line than it begins in. -/
def spans (g : Gap) : Bool := g.hidden || !g.breaks.isEmpty

def addBlank (g : Gap) (c : Char) : Gap :=
  if g.spans then g else { g with blanks := c :: g.blanks }

def addBreak (g : Gap) (c : Char) : Gap := { g with blanks := [], breaks := c :: g.breaks }

/-- What the gap leaves of itself. -/
def folded (g : Gap) : List Char :=
  if g.hidden then g.breaks.reverse
  else match g.breaks.reverse with
    | [] => g.blanks.reverse
    | ['\n'] => [' ']
    | '\n' :: breaks => breaks
    | breaks => breaks

end Gap

/-- Reads a gap on.  In further lines no tab may stand before the column `indent`, unless nothing
    but a comment follows and `lenient` allows that. -/
def readGap (e : Edition) (indent : Int) (lenient : Bool) (g : Gap) (c : Cursor) :
    (fuel : Nat) → Option (Gap × Cursor)
  | 0 => some (g, c)
  | fuel + 1 =>
    match c.text with
    | [] => some (g, c)
    | d :: _ =>
      if e.isBreak d then readGap e indent lenient (g.addBreak d) c.newLine fuel
      else if d == '\t' && g.spans && (c.column : Int) < indent then do
        let c ← c.skipComment? e
        if lenient && e.atLineEnd c.text then readGap e indent lenient g c fuel else none
      else if isBlank d then readGap e indent lenient (g.addBlank d) (c.advance 1) fuel
      else some (g, c)

/-! ## Plain scalars -/

/-- Whether a plain scalar ends before `c`. -/
def endsPlain (e : Edition) (flow : Bool) (c : Char) (rest : List Char) : Bool :=
  (c == ':' &&
    (e.atGap rest || (flow && e == .v1_2 && rest.head?.any isFlowIndicator))) ||
    (flow && isFlowIndicator c)

/-- Splits a word of a plain scalar off; `out` is what was read, in reverse.  In the brackets of
    YAML 1.1 no colon may stand right before a bracket. -/
def splitWord (e : Edition) (flow : Bool) (out : List Char) :
    List Char → Option (List Char × List Char)
  | [] => some (out, [])
  | c :: rest =>
    if e.atGap [c] || endsPlain e flow c rest then some (out, c :: rest)
    else if e == .v1_1 && flow && c == ':' &&
        rest.head?.any (fun d => isFlowIndicator d || d == '?') then none
    else splitWord e flow (c :: out) rest

/-- A scalar that was read. -/
structure Scanned where
  content : List Char
  next : Cursor
  /-- nothing but blanks stands before the next place in its line -/
  fresh : Bool
  deriving DecidableEq, Repr, Inhabited

/-- Reads a plain scalar from a word on; `out` is what was read, in reverse, and `g` the gap behind
    it.  Outside of brackets its lines begin in the column `indent` at least. -/
def readPlain (e : Edition) (flow : Bool) (indent : Int) (out : List Char) (g : Gap) (c : Cursor) :
    (fuel : Nat) → Option Scanned
  | 0 => none
  | fuel + 1 =>
    if (c.column == 0 && e.atMark c.text) || c.startsWith '#' then
      some ⟨out.reverse, c, g.spans⟩
    else if e == .v1_2 && flow && c.startsWith '-' &&
        (c.text.drop 1).head?.any isFlowIndicator then none
    else do
      let (word, rest) ← splitWord e flow [] c.text
      let out := if word.isEmpty then out else word ++ g.folded.reverse ++ out
      let g := if word.isEmpty then g else .none
      let c := { c.advance word.length with text := rest }
      if rest.isEmpty || !e.atGap rest then some ⟨out.reverse, c, g.spans⟩
      else
        let (g, c) ← readGap e indent (e == .v1_2) g c c.size
        if !flow && (c.column : Int) < indent then some ⟨out.reverse, c, g.spans⟩
        else readPlain e flow indent out g c fuel

/-! ## Quoted scalars -/

/-- The character that an escape of one letter stands for. -/
def escape? : Char → Option Char
  | '0' => some '\x00'
  | 'a' => some '\x07'
  | 'b' => some '\x08'
  | 't' | '\t' => some '\t'
  | 'n' => some '\n'
  | 'v' => some '\x0b'
  | 'f' => some '\x0c'
  | 'r' => some '\r'
  | 'e' => some '\x1b'
  | ' ' => some ' '
  | '"' => some '"'
  | '/' => some '/'
  | '\\' => some '\\'
  | 'N' => some '\u0085'
  | '_' => some '\u00a0'
  | 'L' => some '\u2028'
  | 'P' => some '\u2029'
  | _ => none

/-- The character that the escape behind a backslash stands for, and how long the escape is. -/
def readEscape? (text : List Char) : Option (Char × Nat) :=
  let hexadecimal (digits : Nat) (rest : List Char) :=
    if rest.length < digits then none
    else (Text.charOfHex? (rest.take digits)).map (·, digits + 1)
  match text with
  | 'x' :: rest => hexadecimal 2 (rest.take 2)
  | 'u' :: rest => hexadecimal 4 (rest.take 4)
  | 'U' :: rest => hexadecimal 8 (rest.take 8)
  | c :: _ => (escape? c).map (·, 1)
  | [] => none

/-- Reads a word of a quoted scalar; `out` is what was read, in reverse.  The word ends before a
    gap, a hidden line break or the quote behind the scalar. -/
def readQuotedWord (e : Edition) (quote : Char) (out : List Char) (c : Cursor) :
    (fuel : Nat) → Option (List Char × Cursor)
  | 0 => some (out, c)
  | fuel + 1 =>
    match c.text with
    | [] => some (out, c)
    | d :: rest =>
      if e.atGap [d] then some (out, c)
      else if d == quote then
        if quote == '\'' && rest.head? == some '\'' then
          readQuotedWord e quote ('\'' :: out) (c.advance 2) fuel
        else some (out, c)
      else if quote == '"' && d == '\\' then
        if rest.head?.any e.isBreak then some (out, c)
        else match readEscape? rest with
          | some (character, length) =>
            readQuotedWord e quote (character :: out) (c.advance (length + 1)) fuel
          | none => none
      else readQuotedWord e quote (d :: out) (c.advance 1) fuel

/-- Reads a quoted scalar from a word on; `out` is what was read, in reverse.  In YAML 1.2 its lines
    begin in the column `indent` at least. -/
def readQuoted (e : Edition) (quote : Char) (indent : Int) (out : List Char) (c : Cursor) :
    (fuel : Nat) → Option (List Char × Cursor)
  | 0 => none
  | fuel + 1 =>
    let indent := if e == .v1_2 then indent else 0
    if (c.column == 0 && e.atMark c.text) || (c.column : Int) < indent then none
    else do
      let (out, c) ← readQuotedWord e quote out c c.size
      if c.text.isEmpty then none
      else if c.startsWith quote then some (out.reverse, c.advance 1)
      else
        let (g, c) := if c.startsWith '\\' then (⟨[], [], true⟩, (c.advance 1).newLine)
          else (Gap.none, c)
        let (g, c) ← readGap e indent false g c c.size
        readQuoted e quote indent (g.folded.reverse ++ out) c fuel

end AudienceRouting.Yaml
