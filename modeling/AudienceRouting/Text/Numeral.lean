/-
  Audience routing — numbers in texts.

  Whole numbers are decimal digits with an optional sign.  Other numbers may
  have a point and an exponent; infinity and what is not a number have names.
-/
import AudienceRouting.Binary64
import AudienceRouting.Text.Lowercase

namespace AudienceRouting.Text

/-- The value of a digit. -/
def digitValue (c : Char) : Nat := c.toNat - '0'.toNat

/-- The value of decimal digits. -/
def natOfDigits (ds : List Char) : Nat :=
  ds.foldl (fun n c => n * 10 + digitValue c) 0

/-- The value of a text that consists of decimal digits. -/
def readDigits? (text : List Char) : Option Nat :=
  if text.isEmpty || !text.all Char.isDigit then none else some (natOfDigits text)

/-- The value of a digit in a base up to 16. -/
def digitIn? (base : Nat) (c : Char) : Option Nat :=
  let n :=
    if c.isDigit then digitValue c
    else if 'a' ≤ c && c ≤ 'f' then c.toNat - 'a'.toNat + 10
    else if 'A' ≤ c && c ≤ 'F' then c.toNat - 'A'.toNat + 10
    else base
  if n < base then some n else none

/-- The value of a text that consists of digits in a base. -/
def readDigitsIn? (base : Nat) (text : List Char) : Option Nat :=
  if text.isEmpty then none
  else text.foldlM (fun n c => (digitIn? base c).map (n * base + ·)) 0

/-- The character with a number in hexadecimal digits. -/
def charOfHex? (ds : List Char) : Option Char := do
  let n ← readDigitsIn? 16 ds
  if n.isValidChar then some (Char.ofNat n) else none

/-- Whether a text starts with a minus, and what follows its sign. -/
def splitSign : List Char → Bool × List Char
  | '-' :: rest => (true, rest)
  | '+' :: rest => (false, rest)
  | text => (false, text)

/-- A number with a sign. -/
def withSign (negative : Bool) (n : Nat) : Int := if negative then -(n : Int) else n

/-- Whether a number fits into 64 bits with a sign. -/
def isInt64 (n : Int) : Bool := -Nat.pow 2 63 ≤ n && n < Nat.pow 2 63

/-- An integer of 64 bits, with digits in a base. -/
def readInt64In? (base : Nat) (text : List Char) : Option Int := do
  let (negative, ds) := splitSign text
  let n := withSign negative (← readDigitsIn? base ds)
  if isInt64 n then some n else none

/-- An integer of 64 bits. -/
def readInt64? (text : List Char) : Option Int := readInt64In? 10 text

/-- An exponent, which may be left out. -/
def readExponent? : List Char → Option Int
  | [] => some 0
  | c :: rest =>
    if c == 'e' || c == 'E' then
      let (negative, ds) := splitSign rest
      (readDigits? ds).map (withSign negative)
    else none

/-- A double precision number. -/
def readFloat? (text : List Char) : Option Binary64 :=
  let (negative, text) := splitSign text
  match lowercase (String.ofList text) with
  | "inf" | "infinity" => some (.infinite negative)
  | "nan" => some .nan
  | _ =>
    let whole := text.takeWhile Char.isDigit
    let (fraction, text) := match text.dropWhile Char.isDigit with
      | '.' :: rest => (rest.takeWhile Char.isDigit, rest.dropWhile Char.isDigit)
      | rest => ([], rest)
    if whole.isEmpty && fraction.isEmpty then none
    else (readExponent? text).map fun e =>
      .ofDecimal negative (natOfDigits (whole ++ fraction)) (e - fraction.length)

end AudienceRouting.Text
