/-!
# Ranges of code points

A class of characters is a list of ranges in ascending order, each with its first and its last code
point.
-/

namespace Touchpad.Text

/-- Whether a character lies in one of the ranges. -/
def inRanges (ranges : List (Nat × Nat)) (c : Char) : Bool :=
  ranges.any fun r => r.1 ≤ c.toNat && c.toNat ≤ r.2

end Touchpad.Text
