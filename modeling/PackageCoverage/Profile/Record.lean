import PackageCoverage.Count

/-!
# Blocks of statements

A coverage profile reports on blocks of statements.  All that counts about a
block is the file it stands in, the number of its statements, and whether it was
ever executed.
-/

namespace PackageCoverage

/-- What a profile says about one block. -/
structure Record where
  path : String
  statements : Count
  executions : Count
deriving DecidableEq

/-- A block is covered once it was executed. -/
def Record.isCovered (record : Record) : Bool := 0 < record.executions.value

end PackageCoverage
