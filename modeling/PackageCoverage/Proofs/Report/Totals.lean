import Mathlib.Algebra.Order.BigOperators.Group.List
import Mathlib.Algebra.Order.Ring.Nat
import PackageCoverage.Proofs.Package.Uncovered

/-!
# What the rows of a report add up to

The overall tally is gathered from the tallies of the packages, and both stop at the limit: a
package where its own statements reach it, and the overall tally where the packages reach it
together.  Nothing of this can be seen in the end.

* **One cut.**  The overall tally is that of all records in packages (`Reflects.overall_eq`), cut
  off once, however the records are spread over packages.
* **Rows.**  A package that has no row has no statements, so none of them is covered, and leaving
  it out changes no sum (`Tally.sum_filter`).  The order of the rows does not matter either.
* **Uncovered statements.**  As long as nothing is cut off, differences add up like tallies
  (`Tally.uncovered_sum`).  That nothing is cut off follows from the records: the totals of the
  packages never grow by more than the records that are counted
  (`Coverage.statements_countAll_le`).
-/

namespace PackageCoverage

/-! ## Sums of tallies -/

namespace Tally

variable {tallies : List Tally}

theorem eq_zero_of_total {tally : Tally} (hle : tally.covered.value ≤ tally.total.value)
    (htotal : tally.total.value = 0) : tally = 0 := by
  have hcovered : tally.covered.value = 0 := by omega
  ext
  · exact htotal
  · exact hcovered

/-- Tallies without statements do not count. -/
theorem sum_filter (hle : ∀ tally ∈ tallies, tally.covered.value ≤ tally.total.value) :
    (tallies.filter fun tally => tally.total.value ≠ 0).sum = tallies.sum := by
  induction tallies with
  | nil => rfl
  | cons tally later ih =>
      have hlater := ih fun other hother => hle other (List.mem_cons_of_mem tally hother)
      rw [List.filter_cons, List.sum_cons, ← hlater]
      by_cases htotal : tally.total.value = 0
      · rw [eq_zero_of_total (hle tally List.mem_cons_self) htotal, zero_add]
        simp
      · simp [htotal]

private theorem sum_uncovered_add
    (hle : ∀ tally ∈ tallies, tally.covered.value ≤ tally.total.value) :
    (tallies.map uncovered).sum + (tallies.map fun tally => tally.covered.value).sum =
      (tallies.map fun tally => tally.total.value).sum := by
  induction tallies with
  | nil => rfl
  | cons tally later ih =>
      have hlater := ih fun other hother => hle other (List.mem_cons_of_mem tally hother)
      have hfirst := hle tally List.mem_cons_self
      simp only [List.map_cons, List.sum_cons, uncovered_eq_of_le hfirst]
      omega

/-- Uncovered statements add up while all statements together are within the limit. -/
theorem uncovered_sum (hle : ∀ tally ∈ tallies, tally.covered.value ≤ tally.total.value)
    (hlimit : (tallies.map fun tally => tally.total.value).sum ≤ Count.limit) :
    (tallies.map uncovered).sum = tallies.sum.uncovered := by
  have hparts := sum_uncovered_add hle
  have htotal := value_total_sum tallies
  have hcovered := value_covered_sum tallies
  have hsum : tallies.sum.covered.value ≤ tallies.sum.total.value := by omega
  rw [uncovered_eq_of_le hsum]
  omega

end Tally

/-! ## Totals of packages -/

namespace PackageTable

/-- The totals of all packages together, however large. -/
def statements (table : PackageTable) : Nat :=
  (table.entries.map fun entry => entry.2.total.value).sum

private theorem sum_totals_addEntry_le (key : String) (tally : Tally)
    (entries : List (String × Tally)) :
    ((addEntry key tally entries).map fun entry => entry.2.total.value).sum ≤
      (entries.map fun entry => entry.2.total.value).sum + tally.total.value := by
  induction entries with
  | nil => simp [addEntry]
  | cons first later ih =>
      simp only [addEntry]
      split
      · simp only [List.map_cons, List.sum_cons]
        omega
      · split
        · simp only [List.map_cons, List.sum_cons]
          omega
        · -- the sum in an entry may be cut off
          simp only [List.map_cons, List.sum_cons, Tally.total_add, Count.value_add]
          omega

theorem statements_add_le (table : PackageTable) (key : String) (tally : Tally) :
    (table.add key tally).statements ≤ table.statements + tally.total.value :=
  sum_totals_addEntry_le key tally table.entries

end PackageTable

namespace Coverage

variable {coverage : Coverage} {root : PackageRoot} {handed counted : List Record}

theorem statements_count_le (coverage : Coverage) (record : Record) :
    (coverage.count record).packages.statements ≤
      coverage.packages.statements +
        if (coverage.key? record).isSome then record.statements.value else 0 := by
  rw [count_eq]
  change (coverage.add record).packages.statements ≤ _
  unfold add
  cases coverage.key? record with
  | none => exact Nat.le_refl _
  | some key => exact PackageTable.statements_add_le coverage.packages key (.ofRecord record)

/-- Counting adds no more statements to the packages than the records in packages have. -/
theorem statements_countAll_le (coverage : Coverage) (records : List Record) :
    (coverage.countAll records).packages.statements ≤
      coverage.packages.statements + Record.statementSum (inside coverage.root records) := by
  induction records generalizing coverage with
  | nil => exact Nat.le_refl _
  | cons record later ih =>
      have hlater : (coverage.countAll (record :: later)).packages.statements ≤
          (coverage.count record).packages.statements +
            Record.statementSum (inside coverage.root later) := by
        -- counting keeps the root, and with it what is inside
        rw [← root_count coverage record]
        exact ih (coverage.count record)
      have hrecord := statements_count_le coverage record
      have hsum : Record.statementSum (inside coverage.root (record :: later)) =
          (if (coverage.key? record).isSome then record.statements.value else 0) +
            Record.statementSum (inside coverage.root later) := by
        unfold Coverage.key? inside
        rw [List.filter_cons]
        split
        · rw [Record.statementSum_cons]
        · exact (Nat.zero_add _).symm
      omega

theorem Reflects.statements_le (reflects : coverage.Reflects root handed counted) :
    coverage.packages.statements ≤ Record.statementSum (inside root handed) := by
  have hcount : ((empty root).countAll handed).Reflects root handed handed :=
    (reflects_empty root).countAll handed
  have hle := statements_countAll_le (empty root) handed
  have hempty : (empty root).packages.statements = 0 := rfl
  rw [hempty, Nat.zero_add] at hle
  rw [reflects.packages_eq hcount]
  exact hle

end Coverage

/-! ## Rows -/

namespace Row

theorem map_tally_perm (packages : PackageTable) (threshold : Binary64) :
    ((ofTable packages threshold).map tally).Perm
      ((packages.entries.map Prod.snd).filter fun tally => tally.total.value ≠ 0) := by
  have hperm := (ofTable_perm packages threshold).map tally
  rw [List.map_map] at hperm
  rw [List.filter_map]
  exact hperm

theorem foldl_tally (rows : List Row) (start : Tally) :
    rows.foldl (fun sum row => sum + row.tally) start = start + (rows.map Row.tally).sum := by
  induction rows generalizing start with
  | nil => exact (add_zero start).symm
  | cons row later ih => rw [List.foldl_cons, ih, List.map_cons, List.sum_cons, add_assoc]

section Sums

variable {packages : PackageTable} (threshold : Binary64)
  (hle : ∀ entry ∈ packages.entries, entry.2.covered.value ≤ entry.2.total.value)

include hle

/-- The tallies of the rows add up to the tally of all packages. -/
theorem sum_tally_ofTable : ((ofTable packages threshold).map tally).sum = packages.overall := by
  have htallies : ∀ tally ∈ packages.entries.map Prod.snd,
      tally.covered.value ≤ tally.total.value := by
    intro tally htally
    obtain ⟨entry, hentry, rfl⟩ := List.mem_map.mp htally
    exact hle entry hentry
  rw [(map_tally_perm packages threshold).sum_eq, Tally.sum_filter htallies]
  rfl

/-- The uncovered statements of the rows add up while all statements are within the limit. -/
theorem sum_uncovered_ofTable (hlimit : packages.statements ≤ Count.limit) :
    ((ofTable packages threshold).map fun row => row.tally.uncovered).sum =
      packages.overall.uncovered := by
  have hrows := map_tally_perm packages threshold
  have hrowsLe : ∀ tally ∈ (ofTable packages threshold).map Row.tally,
      tally.covered.value ≤ tally.total.value := by
    intro tally htally
    obtain ⟨entry, hentry, rfl⟩ :=
      List.mem_map.mp (List.mem_of_mem_filter (hrows.mem_iff.mp htally))
    exact hle entry hentry
  -- the rows have no more statements than all packages
  have hrowsLimit : (((ofTable packages threshold).map tally).map
      fun tally => tally.total.value).sum ≤ Count.limit := by
    rw [(hrows.map _).sum_eq]
    refine le_trans (List.Sublist.sum_le_sum ?_ ?_) hlimit
    · have hsublist := (List.filter_sublist (p := fun tally : Tally => tally.total.value ≠ 0)
        (l := packages.entries.map Prod.snd)).map fun tally => tally.total.value
      rwa [List.map_map] at hsublist
    · intro n _
      exact Nat.zero_le n
  rw [← sum_tally_ofTable threshold hle, ← Tally.uncovered_sum hrowsLe hrowsLimit, List.map_map]
  rfl

end Sums

end Row

namespace Report

/-- The overall tally is that of some records, and the rows of all packages amount to it. -/
structure AddsUp (overall : Tally) (rows : List Row) (records : List Record) : Prop where
  total_eq : overall.total.value = min (Record.statementSum records) Count.limit
  covered_eq : overall.covered.value = min (Record.coveredSum records) Count.limit
  merge_eq : ∀ order : List Row, order.Perm rows →
    order.foldl (fun sum row => sum + row.tally) 0 = overall
  uncovered_eq : Record.statementSum records ≤ Count.limit →
    (rows.map fun row => row.tally.uncovered).sum = overall.uncovered

/-- **The overall line accounts for every row and every record.**  After every run, the overall
tally is that of all records in packages, cut off once.  It is what the tallies of the rows merge
to, in whatever order, although packages without statements have no row.  If all statements are
within the limit, the uncovered statements of the rows add up to those of the overall tally. -/
theorem addsUp_run (path : String) (operations : List Coverage.Operation) (threshold : Binary64) :
    AddsUp (Coverage.run path operations).overall
      (Row.ofTable (Coverage.run path operations).packages threshold)
      (Coverage.inside (.ofPath path) (operations.flatMap Coverage.Operation.handed)) := by
  have reflects := Coverage.reflects_run path operations
  have hle : ∀ entry ∈ (Coverage.run path operations).packages.entries,
      entry.2.covered.value ≤ entry.2.total.value := by
    intro entry hentry
    exact reflects.covered_le hentry
  constructor
  · rw [reflects.overall_eq, Tally.value_total_ofRecords]
  · rw [reflects.overall_eq, Tally.value_covered_ofRecords]
  · intro order horder
    rw [Row.foldl_tally, zero_add, (horder.map Row.tally).sum_eq]
    exact Row.sum_tally_ofTable threshold hle
  · intro hlimit
    exact Row.sum_uncovered_ofTable threshold hle (reflects.statements_le.trans hlimit)

end Report

end PackageCoverage
