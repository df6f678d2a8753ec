import PackageCoverage.Directory
import PackageCoverage.Package.Coverage

/-!
# Profiles counted while they are read

A profile need not be held as a whole to be counted.  The next line is taken off
the front of the bytes, and its record is counted before the line behind it is
looked at.  The first line that is not UTF-8 ends the reading, and what was
counted in front of it stays counted.
-/

namespace PackageCoverage

namespace Profile

/-- The next line and the bytes behind it, if there are bytes at all.  A line that
no line feed ends keeps its carriage return. -/
def nextLine? (bytes : List UInt8) : Option (List UInt8 × List UInt8) :=
  if bytes.isEmpty then none
  else
    match bytes.dropWhile (· ≠ lineFeed) with
    | [] => some (bytes, [])
    | _ :: later => some (dropReturn (bytes.takeWhile (· ≠ lineFeed)), later)

/-- Taking a line takes bytes. -/
theorem length_lt_of_nextLine? {bytes line later : List UInt8}
    (hnext : nextLine? bytes = some (line, later)) : later.length < bytes.length := by
  unfold nextLine? at hnext
  split at hnext
  · simp at hnext
  case isFalse hbytes =>
      split at hnext
      · cases hnext
        exact List.length_pos_iff.mpr (by simpa using hbytes)
      case h_2 first rest hdrop =>
          cases hnext
          have hle := (List.dropWhile_suffix (l := bytes) (· ≠ lineFeed)).length_le
          rw [hdrop, List.length_cons] at hle
          omega

end Profile

namespace Coverage

/-- The coverage with the records of the lines in the given bytes, and the number of
records with `seen` others before them, or the fault of the first line that is no
text. -/
def countFrom (coverage : Coverage) (seen : Nat) (bytes : List UInt8) :
    Coverage × Except FileFault Nat :=
  match hnext : Profile.nextLine? bytes with
  | none => (coverage, .ok seen)
  | some (line, later) =>
    have := Profile.length_lt_of_nextLine? hnext
    match Profile.item? line with
    | none => countFrom coverage seen later
    | some .unreadable => (coverage, .error .invalidText)
    | some (.record record) => countFrom (coverage.count record) (seen + 1) later
termination_by bytes.length

/-- The coverage with the records of a profile up to its first unreadable line, and
the number of records if there is no such line. -/
def countProfile (coverage : Coverage) (bytes : List UInt8) : Coverage × Except FileFault Nat :=
  coverage.countFrom 0 bytes

end Coverage

end PackageCoverage
