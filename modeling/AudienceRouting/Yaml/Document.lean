/-
  Audience routing — YAML documents.

  An anchor names the value behind it for the aliases that follow; an alias
  stands for the value that its name was last given to.  In YAML 1.2 the value
  takes the place of the alias at once.  In YAML 1.1 the alias keeps the number of
  its anchor: how many names there were before, so that a name which is given
  again has the number of the next new name, and the last value with a number
  counts.
-/
import AudienceRouting.Yaml.Event
import AudienceRouting.Yaml.Tokens

namespace AudienceRouting.Yaml

/-- An anchor: its number, and how many events precede it. -/
structure Anchor where
  number : Nat
  place : Nat
  deriving DecidableEq, Repr, Inhabited

/-- A document: its value, and what the numbers of anchors stand for. -/
structure Document where
  root : Yaml
  anchors : List (Anchor × Yaml)
  /-- the number of its events -/
  size : Nat
  deriving Repr, Inhabited

/-- What an anchor with a number stands for: the value that begins last. -/
def Document.find? (d : Document) (number : Nat) : Option Yaml :=
  let candidates := d.anchors.filter (·.1.number == number)
  let last := candidates.foldl (fun place a => max place a.1.place) 0
  (candidates.find? (·.1.place == last)).map (·.2)

/-- A sequence or a mapping that is being read. -/
structure Pending where
  anchor : Option Anchor
  isMapping : Bool
  /-- latest first -/
  parts : List Yaml
  deriving Repr, Inhabited

/-- A document that is being read. -/
structure Loading where
  pending : List Pending
  root : Option Yaml
  /-- the numbers of the names, latest first -/
  names : List (String × Nat)
  /-- the number of the next new name -/
  count : Nat
  anchors : List (Anchor × Yaml)
  /-- the number of the events so far -/
  size : Nat
  deriving Repr, Inhabited

namespace Loading

def start : Loading := ⟨[], none, [], 0, [], 0⟩

/-- Gives a name to the value that begins. -/
def register (e : Edition) (l : Loading) : Option String → Option Anchor × Loading
  | none => (none, l)
  | some name =>
    let isNew := e == .v1_2 || (l.names.lookup name).isNone
    (some ⟨l.count, l.size⟩, { l with
      names := (name, l.count) :: l.names
      count := if isNew then l.count + 1 else l.count })

/-- Adds a value to what is being read. -/
def add (l : Loading) (y : Yaml) : Loading :=
  match l.pending with
  | [] => { l with root := some y }
  | p :: rest => { l with pending := { p with parts := y :: p.parts } :: rest }

/-- Adds a value with its anchor. -/
def addAnchored (l : Loading) (anchor : Option Anchor) (y : Yaml) : Loading :=
  match anchor with
  | none => l.add y
  | some a => { l with anchors := (a, y) :: l.anchors }.add y

def opens (e : Edition) (l : Loading) (anchor : Option String) (isMapping : Bool) : Loading :=
  let (anchor, l) := l.register e anchor
  { l with pending := ⟨anchor, isMapping, []⟩ :: l.pending }

def closes? (l : Loading) : Option Loading :=
  match l.pending with
  | [] => none
  | p :: rest =>
    let parts := p.parts.reverse
    some ({ l with pending := rest }.addAnchored p.anchor
      (if p.isMapping then .mapping parts else .sequence parts))

/-- What an alias stands for. -/
def alias? (e : Edition) (l : Loading) (name : String) : Option Yaml :=
  (l.names.lookup name).map fun number =>
    match e with
    | .v1_1 => .alias number
    | .v1_2 => ((l.anchors.find? (·.1.number == number)).map (·.2)).getD .unfinished

/-- Takes in an event. -/
def next? (e : Edition) (l : Loading) (event : Event) : Option Loading := do
  let l ← match event with
    | .alias name => (l.alias? e name).map l.add
    | .scalar anchor tag plain text =>
      let (anchor, l) := l.register e anchor
      some (l.addAnchored anchor (.scalar tag plain text))
    | .sequenceStart anchor => some (l.opens e anchor false)
    | .mappingStart anchor => some (l.opens e anchor true)
    | .sequenceEnd | .mappingEnd => l.closes?
  some { l with size := l.size + 1 }

end Loading

/-- The document with the given events. -/
def Document.ofEvents? (e : Edition) (events : List Event) : Option Document := do
  let l ← events.foldlM (Loading.next? e) .start
  some ⟨← l.root, l.anchors, l.size⟩

/-- Reads the document of a text, if there is one in it; there may not be two. -/
def Document.read? (e : Edition) (text : String) : Option (Option Document) := do
  match ← documentEvents? e (← Token.readAll? e text) with
  | [] => some none
  | events => (Document.ofEvents? e events).map some

end AudienceRouting.Yaml
