/-
  Audience routing — putting the tables of TOML together.

  A table gets its pairs behind its header, or by paths of keys in another table,
  but not by both.  A header may come later than those of the tables inside,
  which imply it.  An element of an array of tables begins with each header of
  the array, and what is inside belongs to the last element.
-/
import AudienceRouting.Ascending
import AudienceRouting.Toml

namespace AudienceRouting.Toml

/-- A path of keys and the value it is given. -/
structure Pair where
  path : List String
  value : Toml
  deriving Repr, Inhabited

/-- A header and the pairs behind it. -/
structure Section where
  path : List String
  /-- it begins an element of an array -/
  element : Bool
  pairs : List Pair
  deriving Repr, Inhabited

/-- Where a table comes from. -/
inductive TableKind where
  /-- the header of a table inside -/
  | implied
  /-- a header of its own -/
  | headed
  /-- a path of keys -/
  | dotted
  deriving DecidableEq, Repr, Inhabited

/-- What a key stands for while tables are put together. -/
inductive Entry where
  | value (value : Toml)
  | table (kind : TableKind) (members : List (String × Entry))
  /-- an array of tables: the last element, and those before it in reverse -/
  | tables (last : List (String × Entry)) (before : List (List (String × Entry)))
  deriving Repr, Inhabited

abbrev Members := List (String × Entry)

def Members.find? (members : Members) (key : String) : Option Entry :=
  (List.find? (·.1 = key) members).map (·.2)

/-- Puts an entry in its place, instead of one with its key. -/
def Members.put (members : Members) (key : String) (entry : Entry) : Members :=
  Ascending.insertPair key entry (members.filter (·.1 ≠ key))

/-- Gives a value to a path of keys in a table.  `closed` says that the table does not take pairs
    here, only the tables inside of it. -/
def assign (closed : Bool) (members : Members) (value : Toml) : List String → Option Members
  | [] => none
  | [key] =>
    if closed || (members.find? key).isSome then none else some (members.put key (.value value))
  | key :: path => do
    let entry ← match members.find? key with
      | none => (assign false [] value path).map (.table .dotted)
      | some (.table kind inner) =>
        if kind = .headed then none else (assign false inner value path).map (.table kind)
      | some (.tables last before) =>
        (assign true last value path).map (.tables · before)
      | some (.value _) => none
    some (members.put key entry)

/-- Gives a table its pairs. -/
def assignAll (members : Members) (pairs : List Pair) : Option Members :=
  pairs.foldlM (fun members pair => assign false members pair.value pair.path) members

/-- Puts a section where its header says. -/
def place (element : Bool) (pairs : List Pair) (members : Members) : List String → Option Members
  | [] => none
  | [key] => do
    let entry ← match members.find? key, element with
      | none, false | some (.table .implied []), false =>
        (assignAll [] pairs).map (.table .headed)
      | some (.table .implied inner), false => (assignAll inner pairs).map (.table .headed)
      | none, true => (assignAll [] pairs).map (.tables · [])
      | some (.tables last before), true => (assignAll [] pairs).map (.tables · (last :: before))
      | _, _ => none
    some (members.put key entry)
  | key :: path => do
    let entry ← match members.find? key with
      | none => (place element pairs [] path).map (.table .implied)
      | some (.table kind inner) => (place element pairs inner path).map (.table kind)
      | some (.tables last before) => (place element pairs last path).map (.tables · before)
      | some (.value _) => none
    some (members.put key entry)

/-! ## Finished tables -/

mutual

/-- The value that an entry has become. -/
def Entry.finish : Entry → Toml
  | .value value => value
  | .table _ members => .table (finishMembers members)
  | .tables last before => .array (finishElements [.table (finishMembers last)] before)

def finishMembers : List (String × Entry) → List (String × Toml)
  | [] => []
  | (key, entry) :: rest => (key, entry.finish) :: finishMembers rest

/-- The elements of an array of tables in front of those that are finished. -/
def finishElements (finished : List Toml) : List (List (String × Entry)) → List Toml
  | [] => finished
  | members :: rest => finishElements (.table (finishMembers members) :: finished) rest

end

/-- The members of a table with the given pairs. -/
def tableOf (pairs : List Pair) : Option (List (String × Toml)) :=
  (assignAll [] pairs).map finishMembers

/-- The members of the table with the given pairs and sections. -/
def tableOfSections (pairs : List Pair) (sections : List Section) :
    Option (List (String × Toml)) := do
  let members ← assignAll [] pairs
  let members ← sections.foldlM (fun members s => place s.element s.pairs members s.path) members
  some (finishMembers members)

end AudienceRouting.Toml
