/-
  Audience routing — the events of a YAML document.

  The tokens of a document say which values begin and end in it.  They are taken
  in with a stack of goals: what is expected next, and what is expected behind it.
-/
import AudienceRouting.Yaml
import AudienceRouting.Yaml.Edition
import AudienceRouting.Yaml.Token

namespace AudienceRouting.Yaml

inductive Event where
  | alias (name : String)
  | scalar (anchor : Option String) (tag : Option YamlTag) (plain : Bool) (text : String)
  | sequenceStart (anchor : Option String)
  | sequenceEnd
  | mappingStart (anchor : Option String)
  | mappingEnd
  deriving DecidableEq, Repr, Inhabited

/-- A value that is left out. -/
def Event.absent : Event := .scalar none none true ""

/-! ## Tags -/

/-- The meanings of handles. -/
abbrev Handles := List (String × String)

/-- What the handle of the tags of YAML itself stands for. -/
def coreHandle : String := "tag:yaml.org,2002:"

/-- The tag that a handle and a name stand for.  In YAML 1.2 a handle without a meaning stands for
    itself if it is not between two exclamation marks. -/
def resolveTag? (e : Edition) (handles : Handles) (handle suffix : String) : Option YamlTag :=
  match handles.lookup handle, e with
  | some meaning, _ => some ⟨meaning, suffix⟩
  | none, .v1_1 =>
    if handle == "!!" then some ⟨coreHandle, suffix⟩
    else if handle == "!" || handle == "" then some ⟨handle, suffix⟩
    else none
  | none, .v1_2 =>
    if handle == "!!" then some ⟨coreHandle, suffix⟩
    else if handle.length < 2 then some ⟨handle, suffix⟩
    else none

/-- What stands in front of a value. -/
structure Properties where
  anchor : Option String
  tag : Option (String × String)
  deriving DecidableEq, Repr, Inhabited

/-- Splits the properties off: an anchor and a tag, in either order. -/
def splitProperties : List Token → Properties × List Token
  | .anchor name :: .tag handle suffix :: rest => (⟨some name, some (handle, suffix)⟩, rest)
  | .tag handle suffix :: .anchor name :: rest => (⟨some name, some (handle, suffix)⟩, rest)
  | .anchor name :: rest => (⟨some name, none⟩, rest)
  | .tag handle suffix :: rest => (⟨none, some (handle, suffix)⟩, rest)
  | tokens => (⟨none, none⟩, tokens)

/-! ## Goals -/

/-- What is expected of the next tokens. -/
inductive Goal where
  /-- a value, in a block or in brackets; `aligned` says whether a sequence may begin in the column
      of the key in front of it -/
  | node (block aligned : Bool)
  | blockItems
  | alignedItems
  | blockKeys
  | blockValue
  /-- the items of a sequence in brackets, from the first one or from behind an item -/
  | flowItems (first : Bool)
  /-- the parts of a single pair in such a sequence -/
  | pairKey
  | pairValue
  | pairEnd
  /-- the pairs of a mapping in brackets, from the first one or from behind a pair -/
  | flowKeys (first : Bool)
  | flowValue
  /-- the value of what is no key -/
  | noValue
  deriving DecidableEq, Repr, Inhabited

/-- What a goal comes to: goals instead of it, events, and the tokens that are left. -/
structure Advance where
  goals : List Goal
  events : List Event
  tokens : List Token
  deriving Repr, Inhabited

/-- Expects a value, unless the next token shows that it is left out; then `goals`. -/
def valueUnless (absent : Token → Bool) (node : Goal) (goals : List Goal) (tokens : List Token) :
    Advance :=
  if tokens.head?.any absent then ⟨goals, [.absent], tokens⟩ else ⟨node :: goals, [], tokens⟩

/-- Expects a value. -/
def advanceNode? (e : Edition) (handles : Handles) (block aligned : Bool) (tokens : List Token) :
    Option Advance := do
  match tokens with
  | .alias name :: rest => some ⟨[], [.alias name], rest⟩
  | _ =>
    let (⟨anchor, written⟩, tokens) := splitProperties tokens
    let tag ← match written with
      | some (handle, suffix) => (resolveTag? e handles handle suffix).map some
      | none => some none
    match tokens with
    | .scalar plain text :: rest => some ⟨[], [.scalar anchor tag plain text], rest⟩
    | .flowSequenceStart :: rest => some ⟨[.flowItems true], [.sequenceStart anchor], rest⟩
    | .flowMappingStart :: rest => some ⟨[.flowKeys true], [.mappingStart anchor], rest⟩
    | _ =>
      match tokens, block, aligned with
      | .blockEntry :: _, _, true => some ⟨[.alignedItems], [.sequenceStart anchor], tokens⟩
      | .blockSequenceStart :: rest, true, _ => some ⟨[.blockItems], [.sequenceStart anchor], rest⟩
      | .blockMappingStart :: rest, true, _ => some ⟨[.blockKeys], [.mappingStart anchor], rest⟩
      | _, _, _ =>
        if anchor.isSome || tag.isSome then some ⟨[], [.scalar anchor tag true ""], tokens⟩
        else none

/-- Whether a token shows that a value in a block is left out. -/
def endsBlockValue (t : Token) : Bool := t == .key || t == .value || t == .blockEnd

/-- Takes in the tokens that a goal expects.  In YAML 1.2 a key may be left out. -/
def Goal.advance? (e : Edition) (handles : Handles) (goal : Goal) (tokens : List Token) :
    Option Advance :=
  match goal, tokens with
  | .node block aligned, _ => advanceNode? e handles block aligned tokens
  | .blockItems, .blockEntry :: rest =>
    some (valueUnless (fun t => t == .blockEntry || t == .blockEnd) (.node true false)
      [.blockItems] rest)
  | .blockItems, .blockEnd :: rest => some ⟨[], [.sequenceEnd], rest⟩
  | .blockItems, _ => none
  | .alignedItems, .blockEntry :: rest =>
    some (valueUnless (fun t => t == .blockEntry || endsBlockValue t) (.node true false)
      [.alignedItems] rest)
  | .alignedItems, _ => some ⟨[], [.sequenceEnd], tokens⟩
  | .blockKeys, .key :: rest =>
    some (valueUnless endsBlockValue (.node true true) [.blockValue] rest)
  | .blockKeys, .blockEnd :: rest => some ⟨[], [.mappingEnd], rest⟩
  | .blockKeys, .value :: _ => if e == .v1_2 then some ⟨[.blockValue], [.absent], tokens⟩ else none
  | .blockKeys, _ => none
  | .blockValue, .value :: rest =>
    some (valueUnless endsBlockValue (.node true true) [.blockKeys] rest)
  | .blockValue, _ => some ⟨[.blockKeys], [.absent], tokens⟩
  | .flowItems first, _ => do
    let tokens ← match tokens, first with
      | .flowSequenceEnd :: _, _ | _, true => some tokens
      | .flowEntry :: rest, false => some rest
      | _, false => none
    match tokens with
    | .flowSequenceEnd :: rest => some ⟨[], [.sequenceEnd], rest⟩
    | .key :: rest =>
      some ⟨[.pairKey, .pairValue, .pairEnd, .flowItems false], [.mappingStart none], rest⟩
    | _ => some ⟨[.node false false, .flowItems false], [], tokens⟩
  | .pairKey, t :: rest =>
    if t == .value || t == .flowEntry || t == .flowSequenceEnd then some ⟨[], [.absent], rest⟩
    else some ⟨[.node false false], [], tokens⟩
  | .pairKey, [] => none
  | .pairValue, .value :: rest =>
    some (valueUnless (fun t => t == .flowEntry || t == .flowSequenceEnd) (.node false false) [] rest)
  | .pairValue, _ => some ⟨[], [.absent], tokens⟩
  | .pairEnd, _ => some ⟨[], [.mappingEnd], tokens⟩
  | .flowKeys first, _ => do
    let tokens ← match tokens, first with
      | .flowMappingEnd :: _, _ | _, true => some tokens
      | .flowEntry :: rest, false => some rest
      | _, false => none
    match tokens with
    | .flowMappingEnd :: rest => some ⟨[], [.mappingEnd], rest⟩
    | .key :: rest =>
      some (valueUnless (fun t => t == .value || t == .flowEntry || t == .flowMappingEnd)
        (.node false false) [.flowValue] rest)
    | .value :: _ =>
      if e == .v1_2 then some ⟨[.flowValue], [.absent], tokens⟩ else none
    | _ => some ⟨[.node false false, .noValue], [], tokens⟩
  | .flowValue, .value :: rest =>
    some (valueUnless (fun t => t == .flowEntry || t == .flowMappingEnd) (.node false false)
      [.flowKeys false] rest)
  | .flowValue, _ => some ⟨[.flowKeys false], [.absent], tokens⟩
  | .noValue, _ => some ⟨[.flowKeys false], [.absent], tokens⟩

/-- Takes in tokens until all goals are met; `events` are those so far, in reverse. -/
def advanceAll? (e : Edition) (handles : Handles) (goals : List Goal) (events : List Event)
    (tokens : List Token) : (fuel : Nat) → Option (List Event × List Token)
  | 0 => none
  | fuel + 1 =>
    match goals with
    | [] => some (events.reverse, tokens)
    | goal :: goals =>
      match goal.advance? e handles tokens with
      | some next =>
        advanceAll? e handles (next.goals ++ goals) (next.events.reverse ++ events) next.tokens fuel
      | none => none

/-! ## Documents -/

/-- The directives in front of a document. -/
structure Directives where
  versioned : Bool
  handles : Handles
  deriving DecidableEq, Repr, Inhabited

/-- Adds a directive.  YAML 1.1 has two versions, and a handle has one meaning; in YAML 1.2 only the
    last directive counts. -/
def Directives.add? (e : Edition) (d : Directives) : Token → Option Directives
  | .version major minor =>
    if d.versioned then none
    else match e with
      | .v1_1 => if major == 1 && (minor == 1 || minor == 2) then some ⟨true, d.handles⟩ else none
      | .v1_2 => some ⟨true, []⟩
  | .handle name meaning =>
    match e with
    | .v1_1 =>
      if (d.handles.lookup name).isSome then none
      else some { d with handles := (name, meaning) :: d.handles }
    | .v1_2 => some { d with handles := [(name, meaning)] }
  | _ => none

def isDirective : Token → Bool
  | .version .. | .handle .. => true
  | _ => false

/-- The events of the document behind its start. -/
def contentEvents? (e : Edition) (handles : Handles) (tokens : List Token) :
    Option (List Event × List Token) :=
  if tokens.head?.all (fun t => isDirective t || t == .documentStart || t == .documentEnd) then
    some ([.absent], tokens)
  else advanceAll? e handles [.node true false] [] tokens (8 * tokens.length + 8)

/-- The events of the only document of a text; there are none if there is no document. -/
def documentEvents? (e : Edition) (tokens : List Token) : Option (List Event) := do
  let tokens := match e with
    | .v1_1 => tokens
    | .v1_2 => tokens.dropWhile (· == Token.documentEnd)
  match tokens with
  | [] => some []
  | first :: _ =>
    let (events, rest) ←
      if isDirective first || first == Token.documentStart then do
        let directives ← (tokens.takeWhile isDirective).foldlM (Directives.add? e) ⟨false, []⟩
        match tokens.dropWhile isDirective with
        | .documentStart :: rest => contentEvents? e directives.handles rest
        | _ => none
      else advanceAll? e [] [.node true false] [] tokens (8 * tokens.length + 8)
    if rest.all (· == Token.documentEnd) then some events else none

end AudienceRouting.Yaml
