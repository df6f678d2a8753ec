import PackageCoverage.Package.Coverage

/-!
# Rows of the package table

A package has a row once it has a statement.  Rows go from the lowest percentage
to the highest, and packages with the same percentage stay in the order of their
keys.
-/

namespace PackageCoverage

/-- Whether a percentage meets a threshold. -/
inductive Status where
  | good
  | needsWork
deriving DecidableEq

namespace Status

/-- The threshold itself is met; nothing meets a threshold that is not a number. -/
def ofPercentage (percentage threshold : Binary64) : Status :=
  if threshold ≤ percentage then good else needsWork

/-- A status in words. -/
def label : Status → String
  | good => "Good"
  | needsWork => "Needs Work"

end Status

/-- What the table tells about one package. -/
structure Row where
  name : String
  percentage : Binary64
  status : Status
  tally : Tally
deriving DecidableEq

namespace Row

/-- The row of a package. -/
def ofEntry (threshold : Binary64) (entry : String × Tally) : Row where
  name := PackageRoot.lastSegment entry.1
  percentage := entry.2.percentage
  status := .ofPercentage entry.2.percentage threshold
  tally := entry.2

/-- The rows of all packages that have a statement, worst first. -/
def ofTable (packages : PackageTable) (threshold : Binary64) : List Row :=
  ((packages.entries.filter fun entry => entry.2.total.value ≠ 0).map (ofEntry threshold)).mergeSort
    fun first second => first.percentage.precedes second.percentage

/-- Whether a row is strictly below a threshold. -/
def isBelow (threshold : Binary64) (row : Row) : Bool := row.percentage < threshold

end Row

end PackageCoverage
