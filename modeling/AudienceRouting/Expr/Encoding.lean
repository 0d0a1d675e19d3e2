/-
  Audience routing — expression trees as JSON.

  `Expr.toJson` writes each node as an object with its kind under `type`.
  `Expr.ofJson` reads any tree back; nodes may also be arrays with the kind
  first.  `Expr.ofValidJson` takes only trees that a text could stand for: not
  too deep, the empty expression at most at the root, at least two operands in
  every chain, and tags made of tag characters.
-/
import AudienceRouting.Evaluation
import AudienceRouting.Expr.Kind
import AudienceRouting.Json.Dialect
import AudienceRouting.Token

namespace AudienceRouting

namespace Expr

/-! ## Writing -/

mutual

/-- The canonical JSON form, members in ascending order. -/
def toJson : Expr → Json
  | .always => .object [("type", .string NodeKind.always.name)]
  | .tag value => .object [("type", .string NodeKind.tag.name), ("value", .string value)]
  | .not child => .object [("child", toJson child), ("type", .string NodeKind.not.name)]
  | .chain c operands =>
    .object [("operands", .array (toJsons operands)), ("type", .string (NodeKind.chain c).name)]

def toJsons : List Expr → List Json
  | [] => []
  | e :: rest => toJson e :: toJsons rest

end

/-! ## Reading -/

/-- The kind that a `type` names.  Below the root its place in the list of kinds does as well. -/
def kindOfJson (belowRoot : Bool) : Json → Except Mismatch NodeKind
  | .string name =>
    match NodeKind.ofName? name with
    | some kind => .ok kind
    | none => .error (.unknownVariant name (NodeKind.all.map NodeKind.name))
  | .number (.integer n) =>
    if belowRoot ∧ 0 ≤ n then
      match NodeKind.all[n.toNat]? with
      | some kind => .ok kind
      | none => .error (.value (.ofInt n) "variant index 0 <= i < 5")
    else .error (.type (.ofInt n) "variant identifier")
  | j => .error (.type j "variant identifier")

/-- The kind of a node that is written as an object. -/
def kindOfMembers (belowRoot : Bool) (members : List (String × Json)) :
    Except Mismatch NodeKind :=
  match members.find? (·.1 = "type") with
  | some (_, type) => kindOfJson belowRoot type
  | none => .error (.missingField "type")

/-- The tag of a node that is written as an object. -/
def tagOfMembers (members : List (String × Json)) : Except Mismatch Expr :=
  match members.find? (·.1 = "value") with
  | some (_, value) => value.toText.map .tag
  | none => .error (.missingField "value")

/-- An array for a node that has no more than `known` items behind its kind. -/
def checkLength (known : Nat) (items : List Json) : Except Mismatch Unit :=
  if items.length ≤ known then .ok ()
  else .error (.length items.length
    (if known = 1 then "1 element in sequence" else toString known ++ " elements in sequence"))

/-- An array that ends behind the kind of its node. -/
def tooShort (node : String) : Mismatch :=
  .length 0 ("struct variant ExpressionNode::" ++ node ++ " with 1 element")

mutual

/-- Reads a tree whose objects are sorted. -/
def ofSorted (belowRoot : Bool) : Json → Except Mismatch Expr
  | .object members => do
    match ← kindOfMembers belowRoot members with
    | .always => .ok .always
    | .tag => tagOfMembers members
    | .not => (childOfMembers members).map .not
    | .chain c => (operandsOfMembers members).map (.chain c)
  | .array [] => .error (.missingField "type")
  | .array (type :: items) => do
    match ← kindOfJson belowRoot type with
    | .always => do
      checkLength 0 items
      .ok .always
    | .tag =>
      match items with
      | [] => .error (tooShort "Tag")
      | value :: _ => do
        let value ← value.toText
        checkLength 1 items
        .ok (.tag value)
    | .not =>
      match items with
      | [] => .error (tooShort "Not")
      | child :: _ => do
        let child ← ofSorted true child
        checkLength 1 items
        .ok (.not child)
    | .chain c =>
      match items with
      | [] => .error (tooShort (match c with | .and => "And" | .or => "Or"))
      | operands :: _ => do
        let operands ← operandsOfSorted operands
        checkLength 1 items
        .ok (.chain c operands)
  | j => .error (.type j "internally tagged enum ExpressionNode")

/-- Reads the child of a negation that is written as an object. -/
def childOfMembers : List (String × Json) → Except Mismatch Expr
  | [] => .error (.missingField "child")
  | (name, value) :: rest => if name = "child" then ofSorted true value else childOfMembers rest

/-- Reads the operands of a chain that is written as an object. -/
def operandsOfMembers : List (String × Json) → Except Mismatch (List Expr)
  | [] => .error (.missingField "operands")
  | (name, value) :: rest =>
    if name = "operands" then operandsOfSorted value else operandsOfMembers rest

/-- Reads an array of operands. -/
def operandsOfSorted : Json → Except Mismatch (List Expr)
  | .array items => ofSortedAll items
  | j => .error (.type j "a sequence")

def ofSortedAll : List Json → Except Mismatch (List Expr)
  | [] => .ok []
  | j :: rest => do
    let e ← ofSorted true j
    let es ← ofSortedAll rest
    .ok (e :: es)

end

/-- Reads a tree of any kind. -/
def ofJson (j : Json) : Except Mismatch Expr := ofSorted false j.sorted

end Expr

/-! ## Reading trees that a text could stand for -/

/-- Why a JSON value is not accepted as an expression. -/
inductive TreeError where
  | mismatch (cause : Mismatch)
  | tooDeep (cause : DepthExceeded)
  /-- the empty expression below the root -/
  | alwaysBelowRoot
  | tooFewOperands (count : Nat)
  | emptyTag
  | reservedCharacter (tag : String) (c : Char)
  deriving Repr, Inhabited

def TreeError.message : TreeError → String
  | .mismatch cause => "Tree: invalid expression tree JSON: " ++ cause.message
  | .tooDeep cause => cause.message
  | .alwaysBelowRoot => "Tree: always_match is only valid at the root"
  | .tooFewOperands count =>
    "Tree: and/or needs at least two operands, got " ++ toString count
  | .emptyTag => "Tree: empty tag literal"
  | .reservedCharacter tag c =>
    "Tree: tag literal '" ++ tag ++ "' contains reserved character " ++ Text.quotedChar c

namespace Expr

/-- Refuses tags that cannot be written. -/
def checkTag (value : String) : Except TreeError Unit :=
  if value.isEmpty then .error .emptyTag
  else match value.toList.find? fun c =>
      isReserved c || Text.isWhitespace c || Text.isControl c with
    | some c => .error (.reservedCharacter value c)
    | none => .ok ()

/-- Refuses chains with fewer than two operands. -/
def checkOperands (operands : List Expr) : Except TreeError Unit :=
  if operands.length < 2 then .error (.tooFewOperands operands.length) else .ok ()

mutual

/-- Checks the nodes of a tree: each one before those below it, and these from right to left. -/
def checkNodes (belowRoot : Bool) : Expr → Except TreeError Unit
  | .always => if belowRoot then .error .alwaysBelowRoot else .ok ()
  | .tag value => checkTag value
  | .not child => checkNodes true child
  | .chain _ operands => do
    checkOperands operands
    checkAllNodes operands

def checkAllNodes : List Expr → Except TreeError Unit
  | [] => .ok ()
  | e :: rest => do
    checkAllNodes rest
    checkNodes true e

end

/-- Reads a tree that a text could stand for. -/
def ofValidJson (j : Json) : Except TreeError Expr := do
  let e ← (ofJson j).mapError .mismatch
  e.checkDepth.mapError .tooDeep
  e.checkNodes false
  .ok e

end Expr

end AudienceRouting
