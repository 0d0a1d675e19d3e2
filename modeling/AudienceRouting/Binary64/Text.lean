/-
  Audience routing — double precision numbers as decimal text.

  `Binary64.shortest` finds the fewest decimal digits that read back as the same
  number, and of those the ones nearest to it.  For 1, 2, … digits it looks at
  the two neighbours of the value on the grid of that many digits.  A `Layout`
  says how the digits are written.
-/
import AudienceRouting.Binary64

namespace AudienceRouting

/-- `digits * 10 ^ exponent`. -/
structure Decimal where
  digits : Nat
  exponent : Int
  deriving DecidableEq, Repr, Inhabited

namespace Binary64

/-- The largest `k ≤ bound` with `den * 10 ^ k ≤ num`, found from below. -/
def digitsAbove (num den : Nat) : Nat → Nat
  | 0 => 0
  | bound + 1 =>
    if den * Nat.pow 10 (bound + 1) ≤ num then bound + 1 else digitsAbove num den bound

/-- The exponent of the leading decimal digit of `num / den`, which is not zero. -/
def leadingExponent (num den : Nat) : Int :=
  if den ≤ num then digitsAbove num den 309
  else
    -- `10 ^ k * num / den` lies in [1, 10) for the least k that makes it at least one
    -((digitsAbove den num 324 : Nat) : Int) -
      (if num * Nat.pow 10 (digitsAbove den num 324) = den then 0 else 1)

/-- Compares `c * 10 ^ p` with `num / den`. -/
def compareGrid (c : Nat) (p : Int) (num den : Nat) : Ordering :=
  if p < 0 then compare (c * den) (num * Nat.pow 10 (-p).toNat)
  else compare (c * Nat.pow 10 p.toNat * den) num

/-- The distance of `c * 10 ^ p` from `num / den`, in units that depend on `p` and `den` only. -/
def gridDistance (c : Nat) (p : Int) (num den : Nat) : Nat :=
  let (x, y) :=
    if p < 0 then (c * den, num * Nat.pow 10 (-p).toNat)
    else (c * Nat.pow 10 p.toNat * den, num)
  (x - y) + (y - x)

/-- The nearest decimal of `count` digits or more that lies between `low / den` and `high / den`,
    on the first grid that has one; at most `fuel` more grids are tried. -/
def searchGrid (value low high den : Nat) (closed : Bool) (top : Int) (count : Nat) :
    (fuel : Nat) → Decimal
  | 0 => ⟨value / den, 0⟩
  | fuel + 1 =>
    let p := top - count + 1
    let below :=
      if p < 0 then value * Nat.pow 10 (-p).toNat / den
      else value / (den * Nat.pow 10 p.toNat)
    let inside (c : Nat) : Bool :=
      match compareGrid c p low den, compareGrid c p high den with
      | .gt, .lt => true
      | .eq, _ | _, .eq => closed
      | _, _ => false
    match inside below, inside (below + 1) with
    | true, true =>
      let down := gridDistance below p value den
      let up := gridDistance (below + 1) p value den
      if down < up ∨ (down = up ∧ below % 2 = 0) then ⟨below, p⟩ else ⟨below + 1, p⟩
    | true, false => ⟨below, p⟩
    | false, true => ⟨below + 1, p⟩
    | false, false => searchGrid value low high den closed top (count + 1) fuel

/-- Moves zeros at the end of the digits into the exponent; `fuel` bounds their number. -/
def trimDecimal (d : Decimal) : (fuel : Nat) → Decimal
  | 0 => d
  | fuel + 1 =>
    if d.digits ≠ 0 ∧ d.digits % 10 = 0 then trimDecimal ⟨d.digits / 10, d.exponent + 1⟩ fuel else d

/-- The shortest decimal that reads back as `mantissa * 2 ^ exponent`. -/
def shortest (mantissa : Nat) (exponent : Int) : Decimal :=
  if mantissa = 0 then ⟨0, 0⟩
  else
    -- in quarters of the last binary place the neighbours are half-way at ±2, but the lower one
    -- of a power of two at -1
    let gap := if mantissa = Nat.pow 2 52 ∧ minExponent < exponent then 1 else 2
    let (value, den) := ratio (4 * mantissa) (exponent - 2)
    let (low, _) := ratio (4 * mantissa - gap) (exponent - 2)
    let (high, _) := ratio (4 * mantissa + 2) (exponent - 2)
    trimDecimal
      (searchGrid value low high den (mantissa % 2 == 0) (leadingExponent value den) 1 17) 20

end Binary64

/-- The decimal digits of a number. -/
def digitsOf (n : Nat) : List Char := Nat.toDigits 10 n

namespace Decimal

/-- Digits, zeros and a point as needed, no exponent; a whole number has no point. -/
def positional (d : Decimal) : String :=
  let ds := digitsOf d.digits
  if 0 ≤ d.exponent then
    String.ofList (if d.digits = 0 then ds else ds ++ List.replicate d.exponent.toNat '0')
  else
    let places := (-d.exponent).toNat
    if places < ds.length then
      String.ofList (ds.take (ds.length - places) ++ '.' :: ds.drop (ds.length - places))
    else String.ofList ('0' :: '.' :: List.replicate (places - ds.length) '0' ++ ds)

/-- Positional with at least one place from 1e-5 up to below 1e16; otherwise one digit before
    the point and a signed exponent. -/
def scientific (d : Decimal) : String :=
  let ds := digitsOf d.digits
  let top : Int := d.exponent + ds.length - 1
  if d.digits = 0 then "0.0"
  else if -5 ≤ top ∧ top ≤ 15 then
    if 0 ≤ d.exponent then d.positional ++ ".0" else d.positional
  else
    let mantissa := match ds with
      | [] => []
      | [only] => [only]
      | first :: more => first :: '.' :: more
    String.ofList mantissa ++ (if top < 0 then "e-" else "e+") ++ toString top.natAbs

end Decimal

namespace Binary64

/-- The text of a number with `layout` for its digits. -/
def write (layout : Decimal → String) : Binary64 → String
  | .finite negative m e => (if negative then "-" else "") ++ layout (shortest m e)
  | .infinite negative => if negative then "-inf" else "inf"
  | .nan => "NaN"

/-- The positional text. -/
def text (x : Binary64) : String := x.write Decimal.positional

/-- The text that always shows that the number is a fraction or has an exponent. -/
def scientificText (x : Binary64) : String := x.write Decimal.scientific

end Binary64

end AudienceRouting
