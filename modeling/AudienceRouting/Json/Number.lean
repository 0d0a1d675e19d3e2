/-
  Audience routing — reading JSON numbers.

  Integers from -2^63 to 2^64-1 stay exact.  Every other number becomes a
  double: digits are taken while they fit into 64 bits, and the double nearest
  to them is multiplied with or divided by a power of ten, rounding each time.
  A number beyond the greatest double is refused.
-/
import AudienceRouting.Json
import AudienceRouting.Text.Numeral

namespace AudienceRouting.Json

/-- The digits of a number as they are written: `whole.fraction e exponent`. -/
structure NumberText where
  negative : Bool
  whole : List Char
  fraction : List Char
  exponent : Int
  /-- neither a fraction nor an exponent is written -/
  plain : Bool
  deriving Repr, Inhabited

/-- One or more digits at the front and what follows them. -/
def splitDigits (text : List Char) : Option (List Char × List Char) :=
  match text.takeWhile Char.isDigit with
  | [] => none
  | ds => some (ds, text.dropWhile Char.isDigit)

/-- A number that fills the whole text. -/
def readNumberText (text : List Char) : Option NumberText := do
  let (negative, text) := match text with
    | '-' :: rest => (true, rest)
    | rest => (false, rest)
  let (whole, text) ← splitDigits text
  if whole.length > 1 && whole.head? = some '0' then none
  let (fraction, text, fractional) ← match text with
    | '.' :: rest => (splitDigits rest).map fun (ds, rest) => (ds, rest, true)
    | rest => some ([], rest, false)
  match text with
  | [] => some ⟨negative, whole, fraction, 0, !fractional⟩
  | text => (Text.readExponent? text).map (⟨negative, whole, fraction, ·, false⟩)

/-- Takes digits as long as the result stays below 2^64; also says how many were taken. -/
def takeDigits (significand : Nat) : List Char → Nat × Nat
  | [] => (significand, 0)
  | c :: rest =>
    let next := significand * 10 + Text.digitValue c
    if next < Nat.pow 2 64 then
      let (result, taken) := takeDigits next rest
      (result, taken + 1)
    else (significand, 0)

/-- `x * 10 ^ e`, unless that is out of range.  Powers beyond 10^308 are divided off one at a
    time; after three of them nothing is left. -/
def scaleByTen (x : Binary64) (e : Int) : (fuel : Nat) → Option Binary64
  | 0 => some (.zero false)
  | fuel + 1 =>
    if x.isZero then some x
    else if 308 < e then none
    else if 0 ≤ e then
      match x.mul (.ofNat (Nat.pow 10 e.toNat)) with
      | .infinite _ => none
      | y => some y
    else if -308 ≤ e then some (x.div (.ofNat (Nat.pow 10 (-e).toNat)))
    else scaleByTen (x.div (.ofNat (Nat.pow 10 308))) (e + 308) fuel

/-- The double that a number stands for. -/
def NumberText.toDouble (t : NumberText) : Option Binary64 :=
  let (significand, taken) := takeDigits 0 t.whole
  let (significand, more) := takeDigits significand t.fraction
  let e : Int := (t.whole.length - taken : Nat) - (more : Nat) + t.exponent
  (scaleByTen (.ofNat significand) e 4).map fun x => if t.negative then x.negated else x

/-- The number that a text stands for. -/
def NumberText.toNumber (t : NumberText) : Option Number :=
  let n := Text.natOfDigits t.whole
  if t.plain && !t.negative && n < Nat.pow 2 64 then some (.integer n)
  else if t.plain && t.negative && 0 < n && n ≤ Nat.pow 2 63 then some (.integer (-n))
  else t.toDouble.map .double

end AudienceRouting.Json
