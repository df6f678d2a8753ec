import PackageCoverage.Binary64.Decimal
import PackageCoverage.Report.Row
import PackageCoverage.Report.Style
import PackageCoverage.Text.Padding

/-!
# The report

A report has the rows of the packages and the tally of all packages together.
Its text has two tables: all rows, closed by the overall percentage, and then the
rows below the threshold with the number of statements they lack.

Cells are padded before they are painted, so colour does not move a column.
-/

namespace PackageCoverage

/-- What the text of a report is made of. -/
structure Report where
  rows : List Row
  overall : Tally
  threshold : Binary64

namespace Report

/-- The report on the coverage of packages. -/
def ofCoverage (coverage : Coverage) (threshold : Binary64) : Report where
  rows := Row.ofTable coverage.packages threshold
  overall := coverage.overall
  threshold := threshold

/-- The rows below the threshold, which are those of the second table. -/
def below (report : Report) : List Row := report.rows.filter (Row.isBelow report.threshold)

/-! ## Lines of the text -/

open Text (padEnd padStart)

/-- The line between the parts of a table. -/
def rule : String := String.ofList (List.replicate 80 '-')

/-- A title, which is bold in colour. -/
def title (colour : Bool) (text : String) : String := Style.bold.paintIf colour text

/-- The heads of the columns of the first table. -/
def columnHeads : String :=
  padEnd 50 "Package" ++ " " ++ padStart 10 "Coverage" ++ " " ++ padStart 15 "Status"

/-- A percentage with one decimal at the right of a column, and its sign behind
the column. -/
def percentCell (width : Nat) (percentage : Binary64) : String :=
  padStart width percentage.toOneDecimal ++ "%"

/-- The style of a status. -/
def statusStyle : Status → Style
  | .good => .green
  | .needsWork => .yellow

/-- A status at the right of its column. -/
def statusCell (colour : Bool) (status : Status) : String :=
  (statusStyle status).paintIf colour (padStart 15 status.label)

/-- A row in the first table. -/
def rowLine (colour : Bool) (row : Row) : String :=
  padEnd 50 row.name ++ " " ++ percentCell 9 row.percentage ++ " " ++
    statusCell colour row.status

/-- The last line of the first table. -/
def overallLine (overall : Tally) : String :=
  padEnd 50 "Overall" ++ " " ++ percentCell 9 overall.percentage

/-- The title of the second table. -/
def belowTitle (threshold : Binary64) : String :=
  "Packages needing improvement (< " ++ threshold.toShortest ++ "% coverage):"

/-- A row in the second table. -/
def belowLine (row : Row) : String :=
  padEnd 30 row.name ++ " " ++ percentCell 6 row.percentage ++ "  (need " ++
    padStart 4 (toString row.tally.uncovered) ++ " more statements)"

/-- The lines of the text. -/
def lines (report : Report) (colour : Bool) : List String :=
  [title colour "Coverage by Package:", rule, columnHeads, rule]
    ++ report.rows.map (rowLine colour)
    ++ [rule, overallLine report.overall, "", "",
      title colour (belowTitle report.threshold), rule]
    ++ report.below.map belowLine

/-- The text, each line of which has its end. -/
def render (report : Report) (colour : Bool) : String :=
  String.join ((report.lines colour).map (· ++ "\n"))

end Report

end PackageCoverage
