/-!
# Sets of code points

A property of characters is a list of closed ranges of code points, ascending and apart.
-/

namespace ListingAttributes.Text

/-- A set of code points, as closed ranges. -/
abbrev CodeRanges := List (Nat × Nat)

/-- Whether a code point lies in one of the ranges. -/
def CodeRanges.covers (ranges : CodeRanges) (code : Nat) : Bool :=
  ranges.any fun range => range.1 ≤ code && code ≤ range.2

end ListingAttributes.Text
