/-!
# Ranges of code points

A property of characters is a table of ranges of code points.  The tables of this folder are those
of Unicode 17.
-/

namespace OscRemote.Text

/-- Ranges of code points, each with its first and its last member, in ascending order. -/
abbrev CodeRanges := Array (Nat × Nat)

/-- Whether the character lies in one of the ranges. -/
def CodeRanges.covers (ranges : CodeRanges) (c : Char) : Bool :=
  ranges.any fun (first, last) => decide (first ≤ c.toNat) && decide (c.toNat ≤ last)

end OscRemote.Text
