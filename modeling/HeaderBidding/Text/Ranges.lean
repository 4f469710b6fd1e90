/-!
# Sets of characters given by ranges of code points

Properties of characters are written down as lists of closed ranges, in ascending order.
-/

namespace HeaderBidding.Text

/-- A set of code points, as closed ranges. -/
abbrev Ranges := List (Nat × Nat)

/-- Whether the code point of `c` lies in one of the ranges. -/
def Ranges.has (ranges : Ranges) (c : Char) : Bool :=
  ranges.any fun range => range.1 ≤ c.toNat && c.toNat ≤ range.2

end HeaderBidding.Text
