/-!
# Classes of characters as ranges

A class of characters is given by the inclusive ranges of its code points, in ascending order.
-/

namespace CoverAudit.Text

/-- Whether the code point of `c` lies in one of the inclusive ranges. -/
def inRanges (ranges : List (Nat × Nat)) (c : Char) : Bool :=
  ranges.any fun (lo, hi) => decide (lo ≤ c.toNat) && decide (c.toNat ≤ hi)

end CoverAudit.Text
