/-
  Audience routing — patterns with `*`.

  In a pattern `*` stands for any run of characters, also for none.  The other
  characters form pieces, which are looked for from left to right: the first
  piece at the start of the value, each further one at its leftmost place behind
  the one before, and the last one at the end.
-/

namespace AudienceRouting.Glob

/-- The runs of characters between the stars; there is one more of them than stars. -/
def pieces : List Char → List (List Char)
  | [] => [[]]
  | c :: rest =>
    match pieces rest with
    | [] => [[c]]
    | first :: more => if c = '*' then [] :: first :: more else (c :: first) :: more

/-- What follows `piece` at the start of `value`. -/
def dropPiece? : (piece value : List Char) → Option (List Char)
  | [], value => some value
  | _ :: _, [] => none
  | p :: piece, c :: value => if p = c then dropPiece? piece value else none

/-- What follows the leftmost place of `piece` in `value`. -/
def dropThrough? (piece : List Char) : (value : List Char) → Option (List Char)
  | [] => dropPiece? piece []
  | c :: rest =>
    match dropPiece? piece (c :: rest) with
    | some after => some after
    | none => dropThrough? piece rest

/-- Finds the pieces behind a star in `value`, the last one at its end. -/
def findPieces : (pieces : List (List Char)) → (value : List Char) → Bool
  | [], _ => true
  | [last], value => last.isSuffixOf value
  | piece :: more, value =>
    match dropThrough? piece value with
    | some after => findPieces more after
    | none => false

/-- Whether the value has the form of the pattern. -/
def covers (pattern value : List Char) : Bool :=
  match pieces pattern with
  | [] => false
  | [only] => only == value
  | first :: more =>
    match dropPiece? first value with
    | some after => findPieces more after
    | none => false

end AudienceRouting.Glob
