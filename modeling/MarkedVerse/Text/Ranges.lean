/-!
# Sets of code points

A property of characters is given as a list of closed ranges of code points in rising order.
-/

namespace MarkedVerse.Text

/-- The number lies in one of the ranges, which are in rising order. -/
def inRanges (n : Nat) : List (Nat × Nat) → Bool
  | [] => false
  | (lo, hi) :: ranges => lo ≤ n && (n ≤ hi || inRanges n ranges)

end MarkedVerse.Text
