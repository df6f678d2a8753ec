import PackageCoverage.Package.Root
import PackageCoverage.Package.Table
import PackageCoverage.Profile.Reading

/-!
# Coverage of packages

The coverage of a project is the tallies of the packages under its root.  Records
outside of all packages change no tally; those that come with a list or a profile
are counted instead.
-/

namespace PackageCoverage

/-- The tallies of the packages under a root, and how many of the counted records were
outside of all packages. -/
structure Coverage where
  root : PackageRoot
  packages : PackageTable
  outside : Nat

namespace Coverage

/-- Nothing tallied yet. -/
def empty (root : PackageRoot) : Coverage := ⟨root, .empty, 0⟩

/-- The package of a record. -/
def key? (coverage : Coverage) (record : Record) : Option String :=
  coverage.root.key? record.path

/-- The coverage with one more record, which is ignored if it is outside of all
packages. -/
def add (coverage : Coverage) (record : Record) : Coverage :=
  match coverage.key? record with
  | some key => { coverage with packages := coverage.packages.add key (.ofRecord record) }
  | none => coverage

/-- The coverage with one more record, which is counted if it is outside of all
packages. -/
def count (coverage : Coverage) (record : Record) : Coverage :=
  match coverage.key? record with
  | some _ => coverage.add record
  | none => { coverage with outside := coverage.outside + 1 }

/-- The coverage with the records of a list. -/
def countAll (coverage : Coverage) (records : List Record) : Coverage :=
  records.foldl count coverage

/-- The coverage with the records of a profile up to its first unreadable line. -/
def countReading (coverage : Coverage) (reading : Profile.Reading) : Coverage :=
  coverage.countAll reading.records

/-- The tally of all packages together. -/
def overall (coverage : Coverage) : Tally := coverage.packages.overall

end Coverage

end PackageCoverage
