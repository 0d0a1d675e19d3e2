/-
  Audience routing — what settings convert to.

  Settings are taken generously.  A number is true unless it is zero, and some
  words stand for booleans in any case.  A word can also be written as a boolean,
  as a fraction, which is rounded with a half away from zero, or as digits in a
  text.  Any scalar but null converts to text.
-/
import AudienceRouting.Settings.Error
import AudienceRouting.Text.Numeral

namespace AudienceRouting.Setting

/-- The greatest word. -/
def maxWord : Nat := Nat.pow 2 64 - 1

/-- A scalar of the wrong kind. -/
def refuse {α : Type} (s : Setting) (expected : String) : Except SettingError α :=
  .error ⟨[], .scalar s.describe expected s.origin⟩

/-- A list or table was expected. -/
def refuseContainer {α : Type} (s : Setting) (expected : String) : Except SettingError α :=
  .error ⟨[], .container s.describeShort expected⟩

/-- The words that stand for true and false, but for the digits. -/
def isYes (s : String) : Bool := s == "true" || s == "on" || s == "yes"

def isNo (s : String) : Bool := s == "false" || s == "off" || s == "no"

def toBool (s : Setting) : Except SettingError Bool :=
  match s with
  | .scalar _ (.bool value) => .ok value
  | .scalar _ (.integer n) => .ok (n != 0)
  | .scalar _ (.float x) => .ok (!x.isZero)
  | .scalar origin (.text value) =>
    let lower := Text.lowercase value
    if lower == "1" || isYes lower then .ok true
    else if lower == "0" || isNo lower then .ok false
    else .error ⟨[], .scalar ("string " ++ Text.quoted lower) "a boolean" origin⟩
  | s => s.refuse "a boolean"

/-- Decimal digits, with an optional plus, of a number that is a word. -/
def readWord? (s : String) : Option Nat := do
  let n ← Text.readDigits? (match s.toList with
    | '+' :: rest => rest
    | rest => rest)
  if n ≤ maxWord then some n else none

def toWord (s : Setting) : Except SettingError Nat :=
  match s with
  | .scalar _ (.bool value) => .ok value.toNat
  | .scalar _ (.integer n) =>
    if 0 ≤ n then .ok n.toNat else s.refuse "an unsigned 64 bit or less integer"
  | .scalar _ (.float x) => .ok (x.toNat maxWord)
  | .scalar _ (.text value) =>
    let lower := Text.lowercase value
    if isYes lower then .ok 1
    else if isNo lower then .ok 0
    else match readWord? value with
      | some n => .ok n
      | none => s.refuse "an integer"
  | s => s.refuse "an integer"

def toText (s : Setting) : Except SettingError String :=
  match s with
  | .scalar _ (.text value) => .ok value
  | .scalar _ (.bool value) => .ok (toString value)
  | .scalar _ (.integer n) => .ok (toString n)
  | .scalar _ (.float x) => .ok x.text
  | s => s.refuse "a string"

def isNull : Setting → Bool
  | .scalar _ .null => true
  | _ => false

def toItems (s : Setting) : Except SettingError (List Setting) :=
  match s with
  | .list _ items => .ok items
  | s => s.refuseContainer "a sequence"

def toFields (name : String) (s : Setting) : Except SettingError (Record Setting) :=
  match s with
  | .table _ members => .ok (.byName members)
  | .list _ items => .ok (.byPosition items)
  | s => s.refuseContainer ("struct " ++ name)

/-- How records are read from settings. -/
def dialect : Dialect Setting SettingError where
  bool := toBool
  word := toWord
  text := toText
  isNull := isNull
  items := toItems
  fields := toFields
  under := fun segment e => { e with path := segment :: e.path }
  missing := fun name => ⟨[], .missing name⟩
  tooShort := fun name fields =>
    ⟨[], .length 0 ("struct " ++ name ++ " with " ++ toString fields ++ " elements")⟩
  tooLong := fun _ => none

end AudienceRouting.Setting
