/-
  Audience routing — reading records.

  A record is written as named members, or as the values of its fields in the
  order of their declaration.  A `Dialect` says how the values of one notation
  are read and how errors in them are reported; the shape of a record is then
  the same in every notation.  Members without a field are ignored, and the
  first field that does not read is the one that is reported.
-/
import AudienceRouting.Ascending

namespace AudienceRouting

/-- The fields of a record as they are written. -/
inductive Record (α : Type) where
  /-- members in ascending order of their names -/
  | byName (members : List (String × α))
  | byPosition (items : List α)
  deriving Repr, Inhabited

/-- A step from a value to one inside of it. -/
inductive Segment where
  | key (name : String)
  | index (position : Nat)
  deriving DecidableEq, Repr, Inhabited

/-- How a notation with values `α` is read, and how its errors `ε` are made. -/
structure Dialect (α ε : Type) where
  bool : α → Except ε Bool
  /-- integers from 0 to 2^64-1 -/
  word : α → Except ε Nat
  text : α → Except ε String
  isNull : α → Bool
  items : α → Except ε (List α)
  /-- the fields of the record with a name -/
  fields : String → α → Except ε (Record α)
  /-- an error inside of a value, seen from outside -/
  under : Segment → ε → ε
  /-- a member that has to be there is not -/
  missing : String → ε
  /-- the record with a name has no item for the first of so many fields -/
  tooShort : String → Nat → ε
  /-- more items than fields -/
  tooLong : (items : Nat) → Option ε

namespace Dialect

variable {α ε β : Type}

/-- A value that may be null. -/
def option (d : Dialect α ε) (read : α → Except ε β) (a : α) : Except ε (Option β) :=
  if d.isNull a then .ok none else (read a).map some

/-- The values of a list from `position` on. -/
def readAll (d : Dialect α ε) (read : α → Except ε β) (position : Nat) :
    List α → Except ε (List β)
  | [] => .ok []
  | a :: rest => do
    let b ← (read a).mapError (d.under (.index position))
    let bs ← readAll d read (position + 1) rest
    .ok (b :: bs)

/-- A list of values. -/
def list (d : Dialect α ε) (read : α → Except ε β) (a : α) : Except ε (List β) := do
  d.readAll read 0 (← d.items a)

/-- A field: the member `name`, or the item at `position`. -/
def field? (d : Dialect α ε) (r : Record α) (name : String) (position : Nat)
    (read : α → Except ε β) : Option (Except ε β) :=
  match r with
  | .byName members =>
    (members.find? (·.1 = name)).map fun m => (read m.2).mapError (d.under (.key name))
  | .byPosition items =>
    items[position]?.map fun a => (read a).mapError (d.under (.index position))

/-- A field that has a default. -/
def field (d : Dialect α ε) (r : Record α) (name : String) (position : Nat)
    (read : α → Except ε β) (default : β) : Except ε β :=
  (d.field? r name position read).getD (.ok default)

/-- Reports the first of the fields that does not read; `fields` lists them as declared.  Members
    are looked at in ascending order of their names. -/
def visit (d : Dialect α ε) (r : Record α) (fields : List (String × Except ε Unit)) :
    Except ε Unit :=
  match r with
  | .byName _ => (Ascending.ofPairs fields).forM (·.2)
  | .byPosition items => do
    fields.forM (·.2)
    if fields.length < items.length then
      match d.tooLong items.length with
      | some e => .error e
      | none => .ok ()

end Dialect

/-- Whether a field reads. -/
def outcome {ε α : Type} (field : Except ε α) : Except ε Unit := field.map fun _ => ()

end AudienceRouting
