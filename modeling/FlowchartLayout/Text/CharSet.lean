/-!
# Sets of characters

A property of characters is given by the ranges of code points that have it.

## Main definitions

- `CharSet` — a set of characters, as a list of ranges
- `CharSet.contains` — membership
- `isWithin` — membership in a single range
-/

namespace FlowchartLayout

/-- The code point of `c` is between `first` and `last`. -/
def isWithin (c : Char) (first last : Nat) : Bool :=
  decide (first ≤ c.toNat) && decide (c.toNat ≤ last)

/-- A set of characters; both ends of each range belong to it. -/
structure CharSet where
  ranges : List (Nat × Nat)

namespace CharSet

/-- One of the ranges holds the code point of `c`. -/
def contains (s : CharSet) (c : Char) : Bool :=
  s.ranges.any fun r => isWithin c r.1 r.2

end CharSet

end FlowchartLayout
