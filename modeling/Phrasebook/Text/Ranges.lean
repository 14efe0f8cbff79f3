/-! # Ranges of code points

A property of characters is kept as a list of closed ranges of code points.
-/

namespace Phrasebook.Text

/-- Whether a code point lies in one of the ranges. -/
def inRanges (rs : List (Nat × Nat)) (n : Nat) : Bool :=
  rs.any fun (lo, hi) => lo ≤ n && n ≤ hi

end Phrasebook.Text
