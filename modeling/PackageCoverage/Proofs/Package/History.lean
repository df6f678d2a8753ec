import PackageCoverage.Operation
import PackageCoverage.Proofs.Package.Entries
import PackageCoverage.Proofs.Profile.Lines

/-!
# What a coverage tells about its past

However a coverage was used, it holds what the records that were handed to it amount
to.  Nothing else about the past can be seen: neither the order of the records, nor
which of them came one by one and which in lists or profiles, nor the questions that
were asked in between.  The one exception are records outside of all packages, which
are counted if they came in a list or a profile and are forgotten otherwise.

The invariant is `Reflects`.  Every operation keeps it, with the records that the
operation hands over added to those handed over before (`Reflects.perform`), so it
holds after every run (`reflects_run`).  The running counters stop at the limit at
some moment of the run; the invariant speaks of the tally of all records of a package
at once, which is cut off once (`Tally.value_total_ofRecords`).
-/

namespace PackageCoverage

/-! ## The records of one package -/

namespace PackageRoot

/-- The records of one package. -/
def recordsIn (root : PackageRoot) (key : String) (records : List Record) : List Record :=
  records.filter fun record => root.key? record.path = some key

/-- The tally of one package, if there is a record of the package. -/
def tally? (root : PackageRoot) (key : String) (records : List Record) : Option Tally :=
  if root.recordsIn key records = [] then none
  else some (.ofRecords (root.recordsIn key records))

variable {root : PackageRoot} {key : String}

theorem recordsIn_append (root : PackageRoot) (key : String) (first second : List Record) :
    root.recordsIn key (first ++ second) =
      root.recordsIn key first ++ root.recordsIn key second := by
  simp [recordsIn]

theorem recordsIn_eq_nil_iff {records : List Record} :
    root.recordsIn key records = [] ↔
      ∀ record ∈ records, root.key? record.path ≠ some key := by
  simp [recordsIn]

theorem getD_tally? (root : PackageRoot) (key : String) (records : List Record) :
    (root.tally? key records).getD 0 = .ofRecords (root.recordsIn key records) := by
  unfold tally?
  split
  case isTrue hnil => rw [hnil]; rfl
  case isFalse => rfl

theorem tally?_concat_of_eq {record : Record} (hkey : root.key? record.path = some key)
    (records : List Record) :
    root.tally? key (records ++ [record]) =
      some ((root.tally? key records).getD 0 + .ofRecord record) := by
  have hone : root.recordsIn key [record] = [record] := by simp [recordsIn, hkey]
  rw [getD_tally?, tally?, recordsIn_append, hone, if_neg (by simp), Tally.ofRecords_append,
    Tally.ofRecords_cons, Tally.ofRecords_nil, add_zero]

theorem tally?_concat_of_ne {record : Record} (hkey : root.key? record.path ≠ some key)
    (records : List Record) :
    root.tally? key (records ++ [record]) = root.tally? key records := by
  have hnone : root.recordsIn key [record] = [] := by simp [recordsIn, hkey]
  rw [tally?, tally?, recordsIn_append, hnone, List.append_nil]

/-- The entry that a package should have, in exact numbers. -/
theorem tally?_eq_some_iff {records : List Record} {tally : Tally} :
    root.tally? key records = some tally ↔
      (∃ record ∈ records, root.key? record.path = some key) ∧
        tally.total.value = min (Record.statementSum (root.recordsIn key records)) Count.limit ∧
        tally.covered.value = min (Record.coveredSum (root.recordsIn key records)) Count.limit := by
  rw [← Tally.value_total_ofRecords, ← Tally.value_covered_ofRecords, tally?]
  have htally : Tally.ofRecords (root.recordsIn key records) = tally ↔
      tally.total.value = (Tally.ofRecords (root.recordsIn key records)).total.value ∧
        tally.covered.value = (Tally.ofRecords (root.recordsIn key records)).covered.value := by
    rw [eq_comm, Tally.ext_iff, Count.ext_iff, Count.ext_iff]
  have hexists : (∃ record ∈ records, root.key? record.path = some key) ↔
      root.recordsIn key records ≠ [] := by
    simp [recordsIn_eq_nil_iff]
  -- there is an entry just if there are records to tally
  rw [hexists, ← htally]
  split
  case isTrue hnil => simp [hnil]
  case isFalse hne => simp [hne]

end PackageRoot

/-! ## What operations hand over -/

namespace Coverage

/-- The records that an operation hands over to be tallied. -/
@[simp] def Operation.handed : Operation → List Record
  | .add record => [record]
  | .addLine text => (Line.read text).record?.toList
  | .countAll records => records
  | .countProfile bytes => (Profile.read bytes).records
  | .rows _ | .render _ _ | .overall => []

/-- Those of them that are counted if they are outside of all packages. -/
@[simp] def Operation.counted : Operation → List Record
  | .countAll records => records
  | .countProfile bytes => (Profile.read bytes).records
  | .add _ | .addLine _ | .rows _ | .render _ _ | .overall => []

/-! ## The invariant -/

/-- The coverage holds what the records in `handed` amount to, and the number of those
in `counted` that are outside of all packages. -/
structure Reflects (coverage : Coverage) (root : PackageRoot) (handed counted : List Record) :
    Prop where
  root_eq : coverage.root = root
  get?_eq : ∀ key, coverage.packages.get? key = root.tally? key handed
  outside_eq : coverage.outside = (counted.filter fun record => root.key? record.path = none).length

variable {coverage : Coverage} {root : PackageRoot} {handed counted : List Record}

theorem reflects_empty (root : PackageRoot) : (empty root).Reflects root [] [] :=
  ⟨rfl, fun _ => rfl, rfl⟩

/-- The entries after one more record, which has a key or leaves them as they were. -/
private theorem get?_add_record (reflects : coverage.Reflects root handed counted)
    (record : Record) (key : String) :
    (coverage.add record).packages.get? key = root.tally? key (handed ++ [record]) := by
  unfold add Coverage.key?
  rw [reflects.root_eq]
  cases hkey : root.key? record.path with
  | none =>
      -- no key is the key of the record, so every tally stays
      rw [PackageRoot.tally?_concat_of_ne (by simp [hkey])]
      exact reflects.get?_eq key
  | some own =>
      simp only [PackageTable.get?_add, reflects.get?_eq]
      by_cases heq : key = own
      · rw [if_pos heq, heq, PackageRoot.tally?_concat_of_eq hkey]
      · rw [if_neg heq, PackageRoot.tally?_concat_of_ne (by simp [hkey, Ne.symm heq])]

@[simp] theorem root_add (coverage : Coverage) (record : Record) :
    (coverage.add record).root = coverage.root := by
  unfold add
  split <;> rfl

@[simp] theorem outside_add (coverage : Coverage) (record : Record) :
    (coverage.add record).outside = coverage.outside := by
  unfold add
  split <;> rfl

theorem Reflects.add (reflects : coverage.Reflects root handed counted) (record : Record) :
    (coverage.add record).Reflects root (handed ++ [record]) counted where
  root_eq := by rw [root_add, reflects.root_eq]
  get?_eq := get?_add_record reflects record
  outside_eq := by rw [outside_add, reflects.outside_eq]

theorem count_eq (coverage : Coverage) (record : Record) :
    coverage.count record = { coverage.add record with
      outside := coverage.outside + if coverage.key? record = none then 1 else 0 } := by
  unfold count Coverage.add
  cases hkey : coverage.key? record <;> simp

@[simp] theorem root_count (coverage : Coverage) (record : Record) :
    (coverage.count record).root = coverage.root := by
  rw [count_eq]
  exact root_add coverage record

theorem Reflects.count (reflects : coverage.Reflects root handed counted) (record : Record) :
    (coverage.count record).Reflects root (handed ++ [record]) (counted ++ [record]) := by
  have hadd := reflects.add record
  rw [count_eq]
  refine ⟨hadd.root_eq, hadd.get?_eq, ?_⟩
  simp only [Coverage.key?, reflects.root_eq, reflects.outside_eq, List.filter_append,
    List.length_append]
  by_cases hkey : root.key? record.path = none <;> simp [hkey]

theorem Reflects.countAll (reflects : coverage.Reflects root handed counted)
    (records : List Record) :
    (coverage.countAll records).Reflects root (handed ++ records) (counted ++ records) := by
  induction records generalizing coverage handed counted with
  | nil => simpa [Coverage.countAll] using reflects
  | cons record later ih => simpa [Coverage.countAll] using ih (reflects.count record)

/-- Every operation keeps the invariant. -/
theorem Reflects.perform (reflects : coverage.Reflects root handed counted)
    (operation : Operation) :
    (coverage.perform operation).1.Reflects root (handed ++ operation.handed)
      (counted ++ operation.counted) := by
  cases operation with
  | add record => simpa [Coverage.perform] using reflects.add record
  | addLine text =>
      -- without a record, the line hands nothing over
      cases hrecord : (Line.read text).record? with
      | none => simpa [Coverage.perform, hrecord] using reflects
      | some record => simpa [Coverage.perform, hrecord] using reflects.add record
  | countAll records => exact reflects.countAll records
  | countProfile bytes =>
      -- up to the first bad line, the profile is the list of its records
      have hcount := reflects.countAll (Profile.read bytes).records
      rw [← countReading] at hcount
      simpa [Coverage.perform, countProfile_eq] using hcount
  | rows _ | render _ _ | overall => simpa [Coverage.perform] using reflects

theorem Reflects.performAll (reflects : coverage.Reflects root handed counted)
    (operations : List Operation) :
    (coverage.performAll operations).Reflects root
      (handed ++ operations.flatMap Operation.handed)
      (counted ++ operations.flatMap Operation.counted) := by
  induction operations generalizing coverage handed counted with
  | nil => simpa [Coverage.performAll] using reflects
  | cons operation later ih =>
      simpa [Coverage.performAll] using ih (reflects.perform operation)

/-- After every run, a coverage holds what was handed to it. -/
theorem reflects_run (path : String) (operations : List Operation) :
    (run path operations).Reflects (.ofPath path) (operations.flatMap Operation.handed)
      (operations.flatMap Operation.counted) := by
  simpa [run] using (reflects_empty (.ofPath path)).performAll operations

theorem Reflects.exists_path (reflects : coverage.Reflects root handed counted)
    {entry : String × Tally} (hentry : entry ∈ coverage.packages.entries) :
    ∃ path, root.key? path = some entry.1 := by
  rw [PackageTable.mem_entries_iff, reflects.get?_eq, PackageRoot.tally?_eq_some_iff] at hentry
  obtain ⟨⟨record, -, hkey⟩, -⟩ := hentry
  exact ⟨record.path, hkey⟩

/-! ## Entries in exact numbers -/

/-- **What a coverage holds after a run.**  There is an entry for a key just when a
record with that key was handed over, and its tally is the exact sums cut off once.
A record outside of all packages changes no entry, and what is counted of such
records are those that came in lists and profiles. -/
theorem entries_run (path : String) (operations : List Operation) :
    (∀ key tally, (key, tally) ∈ (run path operations).packages.entries ↔
      (∃ record ∈ operations.flatMap Operation.handed,
        (PackageRoot.ofPath path).key? record.path = some key) ∧
      tally.total.value = min (Record.statementSum ((PackageRoot.ofPath path).recordsIn key
        (operations.flatMap Operation.handed))) Count.limit ∧
      tally.covered.value = min (Record.coveredSum ((PackageRoot.ofPath path).recordsIn key
        (operations.flatMap Operation.handed))) Count.limit) ∧
    (∀ record, (PackageRoot.ofPath path).key? record.path = none →
      ((run path operations).add record).packages = (run path operations).packages ∧
      ((run path operations).count record).packages = (run path operations).packages) ∧
    (run path operations).outside = ((operations.flatMap Operation.counted).filter fun record =>
      (PackageRoot.ofPath path).key? record.path = none).length := by
  have reflects := reflects_run path operations
  refine ⟨fun key tally => ?_, fun record hrecord => ?_, reflects.outside_eq⟩
  · rw [PackageTable.mem_entries_iff, reflects.get?_eq, PackageRoot.tally?_eq_some_iff]
  · have hadd : (run path operations).add record = run path operations := by
      rw [Coverage.add, Coverage.key?, reflects.root_eq, hrecord]
    rw [count_eq, hadd]
    exact ⟨rfl, rfl⟩

end Coverage

end PackageCoverage
