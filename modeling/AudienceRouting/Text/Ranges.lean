/-
  Audience routing — sets of characters given as ranges of code points.
-/

namespace AudienceRouting.Text

/-- Whether a character lies in one of the ranges, both ends included. -/
def inRanges (ranges : List (Nat × Nat)) (c : Char) : Bool :=
  ranges.any fun r => r.1 ≤ c.toNat && c.toNat ≤ r.2

end AudienceRouting.Text
