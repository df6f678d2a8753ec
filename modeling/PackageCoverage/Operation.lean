import PackageCoverage.Package.Streaming
import PackageCoverage.Report

/-!
# Uses of a coverage

A coverage is fed records one by one, in lists and in profiles, and it is asked
for rows, reports and totals at any time in between.  Questions leave it as it
was.
-/

namespace PackageCoverage.Coverage

/-- One use of a coverage. -/
inductive Operation where
  | add (record : Record)
  | addLine (text : String)
  | countAll (records : List Record)
  | countProfile (bytes : List UInt8)
  | rows (threshold : Binary64)
  | render (threshold : Binary64) (colour : Bool)
  | overall

/-- What comes back from a use: whether a record is in a package, and nothing for a line
without a record; the number of records in a profile; or what was asked for. -/
inductive Answer where
  | added (isInside : Bool)
  | addedLine (isInside : Option Bool)
  | counted
  | countedProfile (outcome : Except FileFault Nat)
  | rows (rows : List Row)
  | rendered (text : String)
  | overall (tally : Tally)

/-- The coverage after one use, and what comes back. -/
def perform (coverage : Coverage) : Operation → Coverage × Answer
  | .add record => (coverage.add record, .added (coverage.key? record).isSome)
  | .addLine text =>
    match (Line.read text).record? with
    | some record => (coverage.add record, .addedLine (some (coverage.key? record).isSome))
    | none => (coverage, .addedLine none)
  | .countAll records => (coverage.countAll records, .counted)
  | .countProfile bytes =>
    let (counted, outcome) := coverage.countProfile bytes
    (counted, .countedProfile outcome)
  | .rows threshold => (coverage, .rows (Row.ofTable coverage.packages threshold))
  | .render threshold colour =>
    (coverage, .rendered ((Report.ofCoverage coverage threshold).render colour))
  | .overall => (coverage, .overall coverage.overall)

/-- The coverage after several uses. -/
def performAll (coverage : Coverage) (operations : List Operation) : Coverage :=
  operations.foldl (fun current operation => (current.perform operation).1) coverage

/-- The coverage of the packages under a path, after several uses of a new one. -/
def run (path : String) (operations : List Operation) : Coverage :=
  (empty (.ofPath path)).performAll operations

end PackageCoverage.Coverage
