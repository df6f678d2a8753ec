import PackageCoverage.Proofs.Package.Merging
import PackageCoverage.Proofs.Report.Rows

/-!
# Statements that no test executed

A tally knows them only as the difference of its two counters.  Either counter stops at the
limit, at a moment of its own, so it has to be shown that the difference is one of natural
numbers and that it does not claim more than there is.

* **One history.**  A tally starts at nothing, gains blocks one by one, and is merged with
  tallies that came about in the same way (`Tally.History`).  Whatever the history, it is the
  tally of the blocks in it (`Tally.History.tally_eq_ofRecords`).
* **One cut.**  Each counter is an exact sum cut off once, and the covered statements are a part
  of all statements (`Record.statementSum_eq_add`).  Below the limit the difference is therefore
  exact, and beyond it too small (`Tally.truthful_ofRecords`).
* **A run.**  Entries, rows and the overall tally are tallies of the blocks that were handed over
  (`Coverage.truthful_tallies`).
-/

namespace PackageCoverage

/-! ## Blocks without executions -/

namespace Record

/-- The exact number of statements in the blocks that were never executed. -/
def uncoveredSum (records : List Record) : Nat :=
  statementSum (records.filter fun record => record.executions.value = 0)

@[simp] theorem uncoveredSum_nil : uncoveredSum [] = 0 := rfl

@[simp] theorem uncoveredSum_cons (record : Record) (later : List Record) :
    uncoveredSum (record :: later) =
      (if record.executions.value = 0 then record.statements.value else 0) +
        uncoveredSum later := by
  by_cases hexecutions : record.executions.value = 0 <;> simp [uncoveredSum, hexecutions]

/-- Every block is either covered or was never executed. -/
theorem statementSum_eq_add (records : List Record) :
    statementSum records = coveredSum records + uncoveredSum records := by
  induction records with
  | nil => rfl
  | cons record later ih =>
      rw [statementSum_cons, coveredSum_cons, uncoveredSum_cons, ih]
      -- a block is in one of the two sums and in the other with nothing
      by_cases hexecutions : record.executions.value = 0
      · have hcovered : record.isCovered = false := by simp [isCovered, hexecutions]
        simp only [hcovered, hexecutions, if_true, Bool.false_eq_true, if_false]
        omega
      · have hcovered : record.isCovered = true := by
          rw [isCovered, decide_eq_true_eq]
          omega
        simp only [hcovered, hexecutions, if_true, if_false]
        omega

end Record

/-! ## Histories of a tally -/

namespace Tally

/-- How a tally came about: from nothing, by one more block, or by merging another tally into
it, which has a history of its own. -/
inductive History where
  | start
  | add (earlier : History) (record : Record)
  | merge (earlier operand : History)

namespace History

/-- The tally at the end of a history. -/
def tally : History → Tally
  | start => 0
  | add earlier record => earlier.tally.add record
  | merge earlier operand => earlier.tally + operand.tally

/-- The blocks in a history, those of merged tallies among them. -/
def records : History → List Record
  | start => []
  | add earlier record => earlier.records ++ [record]
  | merge earlier operand => earlier.records ++ operand.records

theorem tally_eq_ofRecords (history : History) : history.tally = ofRecords history.records := by
  induction history with
  | start => rfl
  | add earlier record ih =>
      rw [tally, records, ofRecords_append, ih, Tally.add, ofRecords_cons, ofRecords_nil, add_zero]
  | merge earlier operand ihEarlier ihOperand =>
      rw [tally, records, ofRecords_append, ihEarlier, ihOperand]

end History

/-- No more statements are covered than there are, so the difference does not wrap round.  It is at
most the number of statements in blocks without executions, and exactly that if all statements
together are within the limit. -/
structure Truthful (tally : Tally) (records : List Record) : Prop where
  covered_le : tally.covered.value ≤ tally.total.value
  uncovered_le : tally.uncovered ≤ Record.uncoveredSum records
  uncovered_eq : Record.statementSum records ≤ Count.limit →
    tally.uncovered = Record.uncoveredSum records

theorem truthful_ofRecords (records : List Record) : (ofRecords records).Truthful records := by
  have htotal := value_total_ofRecords records
  have hcovered := value_covered_ofRecords records
  have hparts := Record.statementSum_eq_add records
  have hle : (ofRecords records).covered.value ≤ (ofRecords records).total.value := by omega
  -- cut off or not, the difference is the plain one
  refine ⟨hle, ?_, ?_⟩
  · rw [uncovered_eq_of_le hle]
    omega
  · intro hlimit
    rw [uncovered_eq_of_le hle]
    omega

-- both counters stop at the limit, and no statement seems to be uncovered
example :
    let records : List Record :=
      [⟨"a.go", .clamp 7, .clamp 0⟩, ⟨"b.go", .clamp Count.limit, .clamp 1⟩]
    (ofRecords records).uncovered = 0 ∧ Record.uncoveredSum records = 7 := by
  decide

end Tally

/-! ## Tallies of a run -/

namespace Coverage

theorem Reflects.entry_eq_ofRecords {coverage : Coverage} {root : PackageRoot}
    {handed counted : List Record} (reflects : coverage.Reflects root handed counted)
    {entry : String × Tally} (hentry : entry ∈ coverage.packages.entries) :
    entry.2 = .ofRecords (root.recordsIn entry.1 handed) := by
  have hget : coverage.packages.get? entry.1 = some entry.2 :=
    PackageTable.mem_entries_iff.mp hentry
  rw [reflects.get?_eq] at hget
  rw [← PackageRoot.getD_tally?, hget]
  rfl

theorem Reflects.covered_le {coverage : Coverage} {root : PackageRoot}
    {handed counted : List Record} (reflects : coverage.Reflects root handed counted)
    {entry : String × Tally} (hentry : entry ∈ coverage.packages.entries) :
    entry.2.covered.value ≤ entry.2.total.value := by
  rw [reflects.entry_eq_ofRecords hentry]
  exact (Tally.truthful_ofRecords _).covered_le

theorem covered_le_of_row {path : String} {operations : List Operation} {threshold : Binary64}
    {row : Row} (hrow : row ∈ Row.ofTable (run path operations).packages threshold) :
    row.tally.covered.value ≤ row.tally.total.value := by
  obtain ⟨entry, hentry, -, rfl⟩ := Row.mem_ofTable_iff.mp hrow
  exact (reflects_run path operations).covered_le hentry

theorem covered_le_overall (path : String) (operations : List Operation) :
    (run path operations).overall.covered.value ≤ (run path operations).overall.total.value := by
  rw [(reflects_run path operations).overall_eq]
  exact (Tally.truthful_ofRecords _).covered_le

/-- **The uncovered statements are never overstated.**  This holds of every tally, whatever its
history of additions and merges.  After every run it also holds of each package and of its row,
with the records of the package, and of the overall tally, with the records of all packages. -/
theorem truthful_tallies (history : Tally.History) (path : String) (operations : List Operation)
    (threshold : Binary64) :
    history.tally.Truthful history.records ∧
      (∀ entry ∈ (run path operations).packages.entries,
        entry.2.Truthful ((PackageRoot.ofPath path).recordsIn entry.1
          (operations.flatMap Operation.handed))) ∧
      (∀ row ∈ (Report.ofCoverage (run path operations) threshold).rows,
        ∃ entry ∈ (run path operations).packages.entries, Row.ofEntry threshold entry = row ∧
          row.tally.Truthful ((PackageRoot.ofPath path).recordsIn entry.1
            (operations.flatMap Operation.handed))) ∧
      (run path operations).overall.Truthful
        (inside (.ofPath path) (operations.flatMap Operation.handed)) := by
  have reflects := reflects_run path operations
  have hentries : ∀ entry ∈ (run path operations).packages.entries,
      entry.2.Truthful ((PackageRoot.ofPath path).recordsIn entry.1
        (operations.flatMap Operation.handed)) := by
    intro entry hentry
    rw [reflects.entry_eq_ofRecords hentry]
    exact Tally.truthful_ofRecords _
  refine ⟨?_, hentries, ?_, ?_⟩
  · rw [history.tally_eq_ofRecords]
    exact Tally.truthful_ofRecords history.records
  · intro row hrow
    obtain ⟨entry, hentry, -, rfl⟩ := Row.mem_ofTable_iff.mp hrow
    exact ⟨entry, hentry, rfl, hentries entry hentry⟩
  · rw [reflects.overall_eq]
    exact Tally.truthful_ofRecords _

end Coverage

end PackageCoverage
