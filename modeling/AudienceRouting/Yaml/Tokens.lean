/-
  Audience routing — reading the tokens of YAML.

  Each token is told by the characters at its place and by the layout of what
  precedes it.
-/
import AudienceRouting.Yaml.BlockText
import AudienceRouting.Yaml.Layout
import AudienceRouting.Yaml.Property
import AudienceRouting.Yaml.Scalar

namespace AudienceRouting.Yaml

namespace Layout

/-- Moves over characters of the line. -/
def advance (s : Layout) (n : Nat) : Layout := { s with cursor := s.cursor.advance n }

/-! ## Documents -/

/-- Ends everything that is being read in a document. -/
def leaveDocument? (s : Layout) : Option Layout := do
  let s ← (s.closeBlocks (-1)).dropKey?
  some { s with keyAllowed := false }

/-- Reads a mark that starts or ends a document.  In YAML 1.2 nothing may stand behind one that
    ends it. -/
def readMark? (s : Layout) : Option Layout := do
  let ends := s.cursor.startsWith '.'
  let s := ((← s.leaveDocument?).advance 3).push (if ends then .documentEnd else .documentStart)
  if ends then
    let s ← s.skipBehind?
    if s.edition == .v1_2 && !s.edition.atLineEnd s.text then none else some s
  else some s

def directive? (s : Layout) : Option Layout := do
  let s ← s.leaveDocument?
  let (token, c) ← readDirective? s.edition s.cursor
  some ({ s with cursor := c, fresh := true }.push token)

/-! ## Brackets -/

/-- How many brackets may be nested in YAML 1.2. -/
def maxDepth : Nat := 255

def openBracket? (s : Layout) : Option Layout := do
  let isMapping := s.cursor.startsWith '\x7b'
  let s := (← s.noteKey?).indentValue
  if s.edition == .v1_2 && maxDepth ≤ s.depth then none
  let s := { s.advance 1 with
    depth := s.depth + 1
    outerKeyStarts := s.keyStart :: s.outerKeyStarts
    keyStart := none
    keyAllowed := true
    inMapping := s.inMapping || isMapping
    pairs := if isMapping then s.pairs else false :: s.pairs }
  some ((← s.skipBehind?).push (if isMapping then .flowMappingStart else .flowSequenceStart))

def closeBracket? (s : Layout) : Option Layout := do
  let isMapping := s.cursor.startsWith '\x7d'
  let s ← s.dropKey?
  let s := { s with
    depth := s.depth - 1
    keyStart := s.outerKeyStarts.head?.getD s.keyStart
    outerKeyStarts := s.outerKeyStarts.tail
    keyAllowed := false }
  let s := if isMapping then s else
    let s := s.endPair
    { s with pairs := s.pairs.tail }
  let s ← (s.advance 1).skipBehind?
  let s := if s.depth > 0 then { s with adjacent := s.cursor.index } else s
  some (s.push (if isMapping then .flowMappingEnd else .flowSequenceEnd))

def comma? (s : Layout) : Option Layout := do
  let s := { ← s.dropKey? with keyAllowed := true }
  some ((← (s.endPair.advance 1).skipBehind?).push .flowEntry)

/-! ## Entries, keys and values -/

/-- Whether a dash or a question mark may stand here outside of brackets. -/
def admitsEntry (s : Layout) : Bool := s.depth > 0 || s.keyAllowed

/-- Reads the dash of an entry.  In YAML 1.2 it stands outside of brackets, and no tab may stand
    between two dashes. -/
def dash? (s : Layout) : Option Layout := do
  if !s.admitsEntry || (s.edition == .v1_2 && s.depth > 0) then none
  let column := s.column
  let s := (s.openBlock column .blockSequenceStart).advance 1
  let behind := s.text.takeWhile isBlank
  let s ← s.skipBehind?
  let s ← match s.edition with
    | .v1_1 => some s
    | .v1_2 =>
      if behind.contains '\t' && s.cursor.startsWith '-' && s.edition.atGap (s.text.drop 1) then none
      else if s.text.head?.any (fun d => s.edition.isBreak d || isFlowIndicator d) then
        some s.indentValue
      else some s
  some ({ ← s.dropKey? with keyAllowed := true }.push .blockEntry)

/-- Moves over spaces, line breaks and comments behind a question mark. -/
def skipBehindMark (s : Layout) : (fuel : Nat) → Layout
  | 0 => s
  | fuel + 1 =>
    match s.text with
    | '\n' :: _ => skipBehindMark s.nextLine fuel
    | ' ' :: _ => skipBehindMark (s.advance 1) fuel
    | '#' :: _ => skipBehindMark { s with cursor := s.cursor.skipLine s.edition } fuel
    | _ => s

/-- Reads the question mark in front of a key.  In YAML 1.2 a space or a line break stands behind
    it, and no tab in front of the key. -/
def question? (s : Layout) : Option Layout := do
  if !s.admitsEntry then none
  let s := s.openBlock s.column .blockMappingStart
  let s := { ← s.dropKey? with keyAllowed := s.depth == 0, inMapping := s.inMapping || s.depth > 0 }
  let s := s.advance 1
  match s.edition with
  | .v1_1 => some (s.push .key)
  | .v1_2 =>
    if s.text.isEmpty || s.cursor.startsWith '\t' then none
    let s := s.skipBehindMark s.cursor.size
    if s.cursor.startsWith '\t' then none else some (s.push .key)

/-- Moves over blanks and a comment behind a colon in YAML 1.2 if a tab is right behind it.  A word
    or a dash may not follow tabs alone. -/
def skipBehindColon? (s : Layout) : Option Layout :=
  if s.edition == .v1_2 && s.cursor.startsWith '\t' then do
    let blanks := s.text.takeWhile isBlank
    let s ← s.skipBehind?
    if !blanks.contains ' ' && s.text.head?.any isWordChar then none else some s
  else some s

/-- Reads the colon in front of a value.  In YAML 1.2, a key and a value in square brackets are a
    mapping of their own. -/
def colon? (s : Layout) : Option Layout := do
  let isPair := s.edition == .v1_2 && !s.pairs.isEmpty && !s.inMapping
  let (line, column) := (s.cursor.line, s.column)
  let s := if isPair then { s with pairs := true :: s.pairs.tail } else s
  let s ← (s.advance 1).skipBehindColon?
  match s.keyStart with
  | some k =>
    if isPair && k.line < line then none
    let (begins, s) := s.beginBlock k.column
    let start := if isPair then [Token.flowMappingStart]
      else if begins then [.blockMappingStart] else []
    let s := (s.insertAt k.number (start ++ [.key])).indentValue
    some ({ s with keyStart := none, keyAllowed := false }.push .value)
  | none =>
    let s := if isPair then s.push .flowMappingStart else s
    if !s.admitsEntry then none
    let s := (s.openBlock column .blockMappingStart).indentValue
    some ({ s with keyAllowed := s.depth == 0 }.push .value)

/-! ## Properties and scalars -/

/-- Notes that a key may begin here, but not behind. -/
def enter? (s : Layout) : Option Layout := do
  some { ← s.noteKey? with keyAllowed := false }

/-- Reads an anchor or an alias. -/
def name? (s : Layout) : Option Layout := do
  let isAlias := s.cursor.startsWith '*'
  let s ← s.enter?
  let (name, c) ← readName? s.edition (s.cursor.advance 1)
  some ({ s with cursor := c }.push (if isAlias then .alias name else .anchor name))

def tag? (s : Layout) : Option Layout := do
  let s ← s.enter?
  let (token, c) ← readTag? s.edition (s.depth > 0) s.cursor
  some ({ s with cursor := c }.push token)

def plain? (s : Layout) : Option Layout := do
  let s := (← s.enter?).outdentValue
  let indent := s.indent + 1
  let flow : Bool := s.depth > 0
  if s.edition == .v1_2 && flow && (s.column : Int) < indent then none
  let r ← readPlain s.edition flow indent [] .none s.cursor (s.cursor.size + 1)
  some ({ s with cursor := r.next, fresh := r.fresh, keyAllowed := r.fresh }.push
    (.scalar true (String.ofList r.content)))

/-- What may stand behind a quoted scalar in its line in YAML 1.2. -/
def endsQuoted (s : Layout) (line : Nat) : Bool :=
  match s.text with
  | [] => true
  | c :: _ =>
    s.edition.isBreak c ||
      (if s.depth > 0 then c == ',' || c == ']' || c == '\x7d' || c == ':'
      else c == ':' && s.cursor.line == line)

def quoted? (s : Layout) (quote : Char) : Option Layout := do
  let s ← s.enter?
  let line := s.cursor.line
  let (content, c) ←
    readQuoted s.edition quote s.indent [] (s.cursor.advance 1) (s.cursor.size + 1)
  let token := Token.scalar false (String.ofList content)
  let s := { s with cursor := c, fresh := false }
  if s.edition == .v1_1 then some (s.push token)
  else
    let s ← s.skipBehind?
    if !s.endsQuoted line then none
    let s ← s.skipSpace? s.cursor.size
    some ({ s with adjacent := s.cursor.index }.push token)

def block? (s : Layout) : Option Layout := do
  let s ← match s.edition with
    | .v1_1 => s.dropKey?
    | .v1_2 => s.noteKey?.map outdentValue
  let (content, c) ← readBlockScalar s.edition s.indent s.cursor
  some ({ s with cursor := c, fresh := true, keyAllowed := true }.push
    (.scalar false (String.ofList content)))

/-! ## Tokens -/

/-- Whether a colon stands in front of a value. -/
def isColon (s : Layout) : Bool :=
  s.edition.atGap (s.text.drop 1) ||
    (s.depth > 0 && match s.edition with
      | .v1_1 => true
      | .v1_2 => s.cursor.index == s.adjacent || (s.text.drop 1).head?.any
          (fun d => d == ',' || d == ']' || d == '\x7d'))

/-- Whether a plain scalar can begin with a character that no other token begins with. -/
def beginsPlain (s : Layout) (c : Char) : Bool :=
  match s.edition with
  | .v1_1 =>
    if c == '-' then !(s.text.drop 1).head?.any isBlank
    else if c == '?' || c == ':' then s.depth == 0 && !s.edition.atGap (s.text.drop 1)
    else !(['\t', '|', '>', '#', '%', '@', '\x60'].contains c)
  | .v1_2 =>
    if c == ':' then s.depth == 0 || !(s.text.drop 1).head?.any isFlowIndicator
    else !(['%', '@', '\x60'].contains c)

/-- Reads the token at the current place. -/
def token? (s : Layout) : Option Layout :=
  match s.text with
  | [] => none
  | c :: rest =>
    let s := { s with fresh := false }
    if s.column == 0 && c == '%' then s.directive?
    else if s.column == 0 && s.edition.atMark s.text then s.readMark?
    else if s.depth > 0 && s.edition == .v1_2 && (s.column : Int) < s.indent then none
    else match c with
      | '[' | '\x7b' => s.openBracket?
      | ']' | '\x7d' => s.closeBracket?
      | ',' => s.comma?
      | '*' | '&' => s.name?
      | '!' => s.tag?
      | '\'' | '"' => s.quoted? c
      | _ =>
        if c == '-' && s.edition.atGap rest then s.dash?
        else if c == '?' && (s.edition.atGap rest || (s.edition == .v1_1 && s.depth > 0)) then
          s.question?
        else if c == ':' && s.isColon then s.colon?
        else if (c == '|' || c == '>') && s.depth == 0 then s.block?
        else if s.beginsPlain c then s.plain?
        else none

/-- Reads the tokens from the current place on. -/
def readTokens? (s : Layout) : (fuel : Nat) → Option (List Token)
  | 0 => none
  | fuel + 1 => do
    let s ← (← s.skipSpace? s.cursor.size).checkKey?
    let s := s.closeBlocks s.column
    if s.text.isEmpty then (← s.leaveDocument?).tokens.reverse
    else readTokens? (← s.token?) fuel

end Layout

/-- The tokens of a text. -/
def Token.readAll? (e : Edition) (text : String) : Option (List Token) := do
  let cs ← e.prepare? text
  (Layout.atStart e cs).readTokens? (cs.length + 1)

end AudienceRouting.Yaml
