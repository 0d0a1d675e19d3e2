/-
  Audience routing — JSON values as text.

  A value is written on one line without spaces, or with every item and member
  on a line of its own, two spaces further in than its container.  Strings
  escape quotes, backslashes and the control characters below U+0020.
-/
import AudienceRouting.Binary64.Text
import AudienceRouting.Json

namespace AudienceRouting.Json

inductive Layout where
  | compact
  | indented
  deriving DecidableEq, Repr, Inhabited

namespace Layout

/-- What stands before an item that is `level` containers deep. -/
def lineBreak (layout : Layout) (level : Nat) : String :=
  match layout with
  | .compact => ""
  | .indented => "\n" ++ String.ofList (List.replicate (2 * level) ' ')

/-- What stands between the name and the value of a member. -/
def colon : Layout → String
  | .compact => ":"
  | .indented => ": "

end Layout

/-- The hexadecimal digit of a number below 16. -/
def hexDigit (n : Nat) : Char :=
  if n < 10 then Char.ofNat ('0'.toNat + n) else Char.ofNat ('a'.toNat + n - 10)

/-- A character inside of a string. -/
def escapeChar (c : Char) : List Char :=
  match c with
  | '"' => ['\\', '"']
  | '\\' => ['\\', '\\']
  | '\x08' => ['\\', 'b']
  | '\x0c' => ['\\', 'f']
  | '\n' => ['\\', 'n']
  | '\r' => ['\\', 'r']
  | '\t' => ['\\', 't']
  | c =>
    if c.toNat < 0x20 then ['\\', 'u', '0', '0', hexDigit (c.toNat / 16), hexDigit (c.toNat % 16)]
    else [c]

/-- A string in quotes. -/
def quote (s : String) : String :=
  String.ofList ('"' :: s.toList.flatMap escapeChar ++ ['"'])

def Number.text : Number → String
  | .integer n => toString n
  | .double x => x.scientificText

mutual

/-- The text of a value that is `level` containers deep. -/
def write (layout : Layout) (level : Nat) : Json → String
  | .null => "null"
  | .bool true => "true"
  | .bool false => "false"
  | .number n => n.text
  | .string s => quote s
  | .array [] => "[]"
  | .array (item :: rest) =>
    "[" ++ ",".intercalate (writeItems layout (level + 1) (item :: rest)) ++
      layout.lineBreak level ++ "]"
  | .object [] => "\x7b\x7d"
  | .object (member :: rest) =>
    "\x7b" ++ ",".intercalate (writeMembers layout (level + 1) (member :: rest)) ++
      layout.lineBreak level ++ "\x7d"

/-- The items of an array, each after its line break. -/
def writeItems (layout : Layout) (level : Nat) : List Json → List String
  | [] => []
  | item :: rest =>
    (layout.lineBreak level ++ write layout level item) :: writeItems layout level rest

/-- The members of an object, each after its line break. -/
def writeMembers (layout : Layout) (level : Nat) : List (String × Json) → List String
  | [] => []
  | (name, value) :: rest =>
    (layout.lineBreak level ++ quote name ++ layout.colon ++ write layout level value) ::
      writeMembers layout level rest

end

/-- The text of a value. -/
def print (layout : Layout) (j : Json) : String := j.write layout 0

end AudienceRouting.Json
