/-!
# Ranges of code points

A set of characters is listed by ranges of code points, in ascending order and with a gap
between neighbours, so that a set has one list only. The tables of Unicode properties
follow Unicode 17.
-/

namespace AvrSetup.Text

/-- The code points from a first one to a last one. -/
abbrev CodeRange := Nat × Nat

/-- Whether a code point is in one of the ranges. -/
def inRanges (ranges : List CodeRange) (code : Nat) : Bool :=
  ranges.any fun range => range.1 ≤ code && code ≤ range.2

end AvrSetup.Text
