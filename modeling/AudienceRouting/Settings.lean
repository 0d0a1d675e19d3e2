/-
  Audience routing — settings, and layers of them.

  A setting is a scalar, a list or a table; it remembers where it comes from.  A
  layer is put on top of the settings that are there: its scalars and lists
  replace what they meet, and its tables are merged into what they meet, member
  by member.  A table that was put together in this way comes from nowhere in
  particular.  `find?_put`: a member that is put in is found, and the others stay.
-/
import AudienceRouting.Ascending
import AudienceRouting.Text.Numeral

namespace AudienceRouting

/-- Where a setting comes from. -/
inductive Origin where
  | file (name : String)
  | environment
  deriving DecidableEq, Repr, Inhabited

inductive Scalar where
  | null
  | bool (value : Bool)
  | integer (value : Int)
  | float (value : Binary64)
  | text (value : String)
  deriving DecidableEq, Repr, Inhabited

inductive Setting where
  | scalar (origin : Option Origin) (value : Scalar)
  | list (origin : Option Origin) (items : List Setting)
  /-- the members in ascending order of their names -/
  | table (origin : Option Origin) (members : List (String × Setting))
  deriving Repr, Inhabited

namespace Setting

/-- The table without members. -/
def empty : Setting := .table none []

/-- The members of a table; anything else has none. -/
def members : Setting → List (String × Setting)
  | .table _ members => members
  | _ => []

/-- Looks a member up. -/
def find? (name : String) (members : List (String × Setting)) : Option Setting :=
  (members.find? (·.1 = name)).map (·.2)

/-- Puts a member in its place, instead of one with its name. -/
def put (name : String) (value : Setting) : List (String × Setting) → List (String × Setting)
  | [] => [(name, value)]
  | (n, v) :: rest =>
    if name < n then (name, value) :: (n, v) :: rest
    else if n < name then (n, v) :: put name value rest
    else (name, value) :: rest

theorem find?_cons (name n : String) (v : Setting) (rest : List (String × Setting)) :
    find? name ((n, v) :: rest) = if n = name then some v else find? name rest := by
  by_cases h : n = name <;> simp [find?, h]

/-- What is put in is found under its name, and nothing else changes. -/
theorem find?_put (name k : String) (value : Setting) (members : List (String × Setting)) :
    find? k (put name value members) = if name = k then some value else find? k members := by
  induction members with
  | nil => exact find?_cons ..
  | cons m rest ih =>
    obtain ⟨n, v⟩ := m
    unfold put
    split
    · exact find?_cons ..
    · split
      · rename_i hlt
        rw [find?_cons, find?_cons, ih]
        by_cases hn : n = k
        · have hne : name ≠ k := fun h => String.lt_irrefl _ (hn ▸ h ▸ hlt)
          simp [hn, hne]
        · simp [hn]
      · obtain rfl := Ascending.not_lt_iff_eq ‹_› ‹_›
        rw [find?_cons, find?_cons]
        split <;> rfl

mutual

/-- What is left when a setting is put on top of another one. -/
def onto (below : Option Setting) : Setting → Setting
  | .table _ incoming =>
    let (origin, members) := match below with
      | some (.table origin members) => (origin, members)
      | _ => (none, [])
    .table origin (ontoMembers members incoming)
  | top => top

/-- Puts members on top of others. -/
def ontoMembers (below : List (String × Setting)) :
    List (String × Setting) → List (String × Setting)
  | [] => below
  | (name, value) :: rest => ontoMembers (put name (onto (find? name below) value) below) rest

end

/-! ## Paths -/

/-- A step into a setting; an index below zero counts from the end. -/
inductive Step where
  | key (name : String)
  | index (position : Int)
  deriving DecidableEq, Repr, Inhabited

/-- The list with nulls added so that it has an item at the position, and that position. -/
def reach (items : List Setting) (position : Int) : List Setting × Nat :=
  let null := Setting.scalar none .null
  if 0 ≤ position then
    (items ++ List.replicate (position.toNat + 1 - items.length) null, position.toNat)
  else if position.natAbs ≤ items.length then (items, items.length - position.natAbs)
  else (List.replicate (position.natAbs - items.length) null ++ items, 0)

/-- Puts a setting on top of what a path leads to.  What stands in the way of the path becomes a
    table or a list. -/
def ontoAt (below : Option Setting) (top : Setting) : List Step → Setting
  | [] => onto below top
  | .key name :: rest =>
    let (origin, members) := match below with
      | some (.table origin members) => (origin, members)
      | _ => (none, [])
    .table origin (put name (ontoAt (find? name members) top rest) members)
  | .index position :: rest =>
    let (origin, items) := match below with
      | some (.list origin items) => (origin, items)
      | _ => (none, [])
    let (items, i) := reach items position
    .list origin (items.set i (ontoAt items[i]? top rest))

/-- The characters of a name in a path. -/
def isNameChar (c : Char) : Bool :=
  c.isAlphanum || c == '_' || c == '-'

/-- A blank around an index. -/
def isGap (c : Char) : Bool := c == ' ' || c == '\t'

/-- A 64-bit number with an optional minus at the front of a text, and what follows it. -/
def splitInteger? (text : List Char) : Option (Int × List Char) := do
  let (negative, text) := match text with
    | '-' :: rest => (true, rest)
    | rest => (false, rest)
  let n := Text.withSign negative (← Text.readDigits? (text.takeWhile Char.isDigit))
  if Text.isInt64 n then some (n, text.dropWhile Char.isDigit) else none

/-- An index, whose opening bracket has been read, and what follows its closing one. -/
def splitIndex? (text : List Char) : Option (Int × List Char) := do
  let (position, rest) ← splitInteger? (text.dropWhile isGap)
  match rest.dropWhile isGap with
  | ']' :: rest => some (position, rest)
  | _ => none

/-- The steps behind the first name of a path; `fuel` bounds their number. -/
def readSteps (text : List Char) : (fuel : Nat) → Option (List Step)
  | 0 => none
  | fuel + 1 =>
    match text with
    | [] => some []
    | '.' :: rest =>
      match rest.takeWhile isNameChar with
      | [] => none
      | name => do
        let steps ← readSteps (rest.dropWhile isNameChar) fuel
        some (.key (String.ofList name) :: steps)
    | '[' :: rest => do
      let (position, rest) ← splitIndex? rest
      some (.index position :: (← readSteps rest fuel))
    | _ => none

/-- The steps of a path such as `a.b[0].c`; blanks may stand around an index. -/
def readPath? (text : String) : Option (List Step) :=
  let text := text.toList
  match text.takeWhile isNameChar with
  | [] => none
  | name => do
    let steps ← readSteps (text.dropWhile isNameChar) (text.length + 1)
    some (.key (String.ofList name) :: steps)

/-- The path that a name stands for: itself if it does not read as one. -/
def pathOf (name : String) : List Step :=
  (readPath? name).getD [.key name]

/-- Puts a layer on top of settings; its names are paths. -/
def layer (below : Setting) (entries : List (String × Setting)) : Setting :=
  entries.foldl (fun s entry => ontoAt (some s) entry.2 (pathOf entry.1)) below

end Setting

end AudienceRouting
