import PackageCoverage.Profile.Record
import PackageCoverage.Text.Fields

/-!
# Lines of a profile

A block has a line of at least three fields: its location, the number of its
statements and the number of its executions.  The location is the path of the
file, a colon and the span of the block.  A line that starts with `mode:` is a
header.  All other lines are skipped, and unless they are blank there is a fault
to tell.
-/

namespace PackageCoverage

namespace Line

/-- Why a line that is neither header nor blank has no record. -/
inductive Fault where
  | tooFewFields
  | statements
  | executions
deriving DecidableEq

/-- A fault in words. -/
def Fault.message : Fault → String
  | .tooFewFields => "too few fields"
  | .statements => "invalid statement count"
  | .executions => "invalid execution count"

end Line

/-- What a line of a profile is. -/
inductive Line where
  | header
  | blank
  | record (record : Record)
  | malformed (fault : Line.Fault)
deriving DecidableEq

namespace Line

/-- How a header starts. -/
def headerMark : List Char := "mode:".toList

/-- The path in front of the first colon of a location. -/
def pathOf (location : List Char) : String :=
  String.ofList (location.takeWhile (· ≠ ':'))

/-- The line of a block with the given first three fields. -/
def ofFields (location statements executions : List Char) : Line :=
  match Count.read? statements, Count.read? executions with
  | none, _ => .malformed .statements
  | some _, none => .malformed .executions
  | some statements, some executions => .record ⟨pathOf location, statements, executions⟩

/-- Reads one line. -/
def read (text : String) : Line :=
  if headerMark.isPrefixOf text.toList then .header
  else
    match Text.fields text.toList with
    | [] => .blank
    | location :: statements :: executions :: _ => ofFields location statements executions
    | _ => .malformed .tooFewFields

/-- The record of a line, if it has one. -/
def record? : Line → Option Record
  | .record block => some block
  | _ => none

/-- The fault of a line, if it has one. -/
def fault? : Line → Option Fault
  | .malformed fault => some fault
  | _ => none

end Line

end PackageCoverage
