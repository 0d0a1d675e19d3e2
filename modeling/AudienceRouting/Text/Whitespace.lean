/-
  Audience routing — white space and control characters.

  `isWhitespace` is the White_Space property of Unicode and `isControl` the
  general category Cc.  The two overlap: a tab is both.
-/

namespace AudienceRouting.Text

/-- The characters with the White_Space property. -/
def isWhitespace (c : Char) : Bool :=
  let n := c.toNat
  (0x09 ≤ n && n ≤ 0x0D) || n == 0x20 || n == 0x85 || n == 0xA0 || n == 0x1680 ||
    (0x2000 ≤ n && n ≤ 0x200A) || n == 0x2028 || n == 0x2029 || n == 0x202F ||
    n == 0x205F || n == 0x3000

/-- The control characters, category Cc. -/
def isControl (c : Char) : Bool :=
  let n := c.toNat
  n ≤ 0x1F || (0x7F ≤ n && n ≤ 0x9F)

/-- Nothing but white space. -/
def isBlank (s : String) : Bool :=
  s.toList.all isWhitespace

end AudienceRouting.Text
