/-
  Audience routing — dates and times of TOML.

  A moment is a date, a time, or both with an optional distance from universal
  time.  The seconds of a time may be left out.  Its text is written in one form:
  an uppercase `T` and `Z`, and a fraction of a second that has one digit or does
  not end in a zero.
-/
import AudienceRouting.Text.Numeral

namespace AudienceRouting.Toml

/-- A part of a moment: its text, and what follows it. -/
abbrev Part := Option (List Char × List Char)

/-- A number of so many digits that is in a range. -/
def readField (digits low high : Nat) (text : List Char) : Option (Nat × List Char) := do
  let n ← Text.readDigits? (text.take digits)
  if text.length < digits || n < low || high < n then none else some (n, text.drop digits)

def isLeapYear (year : Nat) : Bool :=
  year % 4 == 0 && (year % 100 != 0 || year % 400 == 0)

def daysIn (year month : Nat) : Nat :=
  if month == 2 then (if isLeapYear year then 29 else 28)
  else if month == 4 || month == 6 || month == 9 || month == 11 then 30
  else 31

/-- A character that has to be there. -/
def skipChar (c : Char) : List Char → Option (List Char)
  | d :: rest => if c = d then some rest else none
  | [] => none

/-- `year-month-day` -/
def readDate (text : List Char) : Part := do
  let (year, rest) ← readField 4 0 9999 text
  let (month, rest) ← readField 2 1 12 (← skipChar '-' rest)
  let (_, rest) ← readField 2 1 (daysIn year month) (← skipChar '-' rest)
  some (text.take 10, rest)

/-- The fraction of a second, in nanoseconds at the most. -/
def readFraction : List Char → Part
  | '.' :: rest =>
    let ds := rest.takeWhile Char.isDigit
    let kept := ((ds.take 9).reverse.dropWhile (· == '0')).reverse
    if ds.isEmpty then none
    else some ('.' :: (if kept.isEmpty then ['0'] else kept), rest.drop ds.length)
  | text => some ([], text)

/-- The seconds of a time, which may be left out, and their fraction. -/
def readSeconds : List Char → Part
  | ':' :: text => do
    let (_, rest) ← readField 2 0 60 text
    let (fraction, rest) ← readFraction rest
    some (':' :: (text.take 2 ++ fraction), rest)
  | text => some ([], text)

/-- `hour:minute`, and the seconds -/
def readTime (text : List Char) : Part := do
  let (_, rest) ← readField 2 0 23 text
  let (_, rest) ← readField 2 0 59 (← skipChar ':' rest)
  let (seconds, rest) ← readSeconds rest
  some (text.take 5 ++ seconds, rest)

/-- The distance from universal time, which may be left out. -/
def readOffset : List Char → Part
  | [] => some ([], [])
  | c :: rest =>
    if c == 'Z' || c == 'z' then some (['Z'], rest)
    else if c == '+' || c == '-' then do
      let (_, after) ← readField 2 0 23 rest
      let (_, after) ← readField 2 0 59 (← skipChar ':' after)
      let sign := if (rest.take 5).all (fun d => d == '0' || d == ':') then '+' else c
      some (sign :: rest.take 5, after)
    else none

/-- The text of the moment that fills a text. -/
def moment? (text : List Char) : Option String := do
  let (moment, rest) ← match readDate text with
    | none => readTime text
    | some (date, []) => some (date, [])
    | some (date, c :: rest) =>
      if c == 'T' || c == 't' || c == ' ' then do
        let (time, rest) ← readTime rest
        let (offset, rest) ← readOffset rest
        some (date ++ 'T' :: (time ++ offset), rest)
      else none
  if rest.isEmpty then some (String.ofList moment) else none

end AudienceRouting.Toml
