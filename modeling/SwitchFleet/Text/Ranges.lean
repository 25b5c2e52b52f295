/-!
# Ranges of code points

Sets of characters, given as a list of ranges with both ends in them.
-/

namespace SwitchFleet.Text

/-- Whether a code point lies in one of the ranges. -/
def inRanges (ranges : List (Nat × Nat)) (n : Nat) : Bool :=
  ranges.any fun r => r.1 ≤ n && n ≤ r.2

end SwitchFleet.Text
