/-!
# Sets of characters as ranges of code points

A property of characters is published as a list of ranges, so that is how this
library stores one: pairs of first and last code point, both included. The
tables are in ascending order, yet nothing here relies on it; membership is a
scan, and a text is short.
-/

namespace TableVerbs.Text

/-- Ranges of code points, both ends included. -/
abbrev Ranges := List (Nat × Nat)

/-- Whether a character lies in one of the ranges. -/
def Ranges.has (ranges : Ranges) (c : Char) : Bool :=
  ranges.any fun r => r.1 ≤ c.toNat && c.toNat ≤ r.2

end TableVerbs.Text
