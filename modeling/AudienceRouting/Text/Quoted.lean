/-
  Audience routing — text in quotes.

  Messages show strings, characters and file names in quotes.  Quotes of the
  same kind and backslashes are escaped, as are the common control characters;
  characters without a shape of their own are written by number.
-/
import AudienceRouting.Text.Hidden
import AudienceRouting.Text.Ranges

namespace AudienceRouting.Text

/-- A code point as `\u{…}` with lowercase hexadecimal digits. -/
def escapeByNumber (c : Char) : List Char :=
  ['\\', 'u', '\x7b'] ++ Nat.toDigits 16 c.toNat ++ ['\x7d']

/-- A character between quotes of the given kind. -/
def escape (quote : Char) (c : Char) : List Char :=
  if c = quote then ['\\', c]
  else match c with
    | '\\' => ['\\', '\\']
    | '\n' => ['\\', 'n']
    | '\r' => ['\\', 'r']
    | '\t' => ['\\', 't']
    | '\x00' => ['\\', '0']
    | c =>
      if 0x20 ≤ c.toNat && c.toNat < 0x7F then [c]
      else if inRanges hiddenRanges c then escapeByNumber c
      else [c]

/-- A string or the name of a file in double quotes. -/
def quoted (s : String) : String :=
  String.ofList ('"' :: s.toList.flatMap (escape '"') ++ ['"'])

/-- A character in single quotes. -/
def quotedChar (c : Char) : String :=
  String.ofList ('\'' :: escape '\'' c ++ ['\''])

end AudienceRouting.Text
