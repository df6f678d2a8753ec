/-!
# Sets of characters

A set of characters is a list of ranges of code points, as the tables of the
Unicode character database give their properties.
-/

namespace PackageCoverage.Text

/-- Ranges of code points by their first and last member. -/
abbrev Ranges := List (Nat × Nat)

/-- Whether one of the ranges holds the code point of a character. -/
def Ranges.contains (ranges : Ranges) (c : Char) : Bool :=
  ranges.any fun (first, last) => decide (first ≤ c.toNat) && decide (c.toNat ≤ last)

end PackageCoverage.Text
