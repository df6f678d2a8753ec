import PackageCoverage.Report
import PackageCoverage.Text.Fields

/-!
# Reading a report

What a report tells can be read off its text.  The lines of the first table start behind the
heads of its columns and go on to the next rule; the overall percentage is in the line behind
that rule, and the lines of the second table are those behind the last rule.  In a line the
fields between the blanks are the cells.

Texts that are not those of reports are read, too, but what is read off them means nothing.
-/

namespace PackageCoverage.Report

/-- What the text of a report tells: the name, the percentage with one decimal and the status of
each row, the overall percentage, and the name of each row of the second table with the number
of statements that it lacks. -/
structure Told where
  rows : List (String × String × Status)
  overall : String
  below : List (String × Nat)
deriving DecidableEq

/-- What a report tells in its text. -/
def told (report : Report) : Told where
  rows := report.rows.map fun row => (row.name, row.percentage.toOneDecimal, row.status)
  overall := report.overall.percentage.toOneDecimal
  below := report.below.map fun row => (row.name, row.tally.uncovered)

namespace Told

/-- A percentage without its sign. -/
def percentageOf (field : List Char) : String := String.ofList field.dropLast

/-- What a line of the first table tells. -/
def rowOf (line : List Char) : String × String × Status :=
  match Text.fields line with
  | name :: percentage :: status =>
    (String.ofList name, percentageOf percentage,
      if status = Text.fields Status.good.label.toList then .good else .needsWork)
  | _ => ("", "", .needsWork)

/-- What the last line of the first table tells. -/
def overallOf (line : List Char) : String :=
  match Text.fields line with
  | _ :: percentage :: _ => percentageOf percentage
  | _ => ""

/-- What a line of the second table tells. -/
def belowOf (line : List Char) : String × Nat :=
  match Text.fields line with
  | name :: _ :: _ :: count :: _ => (String.ofList name, Nat.ofDigitChars 10 count 0)
  | _ => ("", 0)

/-- Whether a line is none of the rules between the parts of a table. -/
def isCells (line : List Char) : Bool := line ≠ rule.toList

/-- What a text tells. -/
def ofText (text : String) : Told :=
  let table := (text.toList.splitOn '\n').drop 4
  let behind := table.dropWhile isCells
  { rows := (table.takeWhile isCells).map rowOf
    overall := overallOf ((behind.drop 1).headD [])
    below := (behind.drop 6).dropLast.map belowOf }

end Told

end PackageCoverage.Report
