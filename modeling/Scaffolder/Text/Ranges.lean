/-!
# Ranges of characters

A class of characters as a table: the closed ranges of their numbers, in increasing order.
-/

namespace Scaffolder.Text

/-- Whether a character lies in one of some ranges. -/
def inRanges (ranges : List (Nat × Nat)) (c : Char) : Bool :=
  ranges.any fun r => decide (r.1 ≤ c.toNat) && decide (c.toNat ≤ r.2)

end Scaffolder.Text
