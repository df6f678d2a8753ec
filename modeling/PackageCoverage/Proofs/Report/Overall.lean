import Mathlib.Data.List.Pairwise
import PackageCoverage.Proofs.Report.Totals
import PackageCoverage.Proofs.Tally.Mediant

/-!
# The overall percentage among the rows

The rows go from the lowest percentage to the highest (`Row.pairwise_ofTable`), and the overall
tally is the sum of their tallies, although packages without statements have no row
(`Row.sum_tally_ofTable`).  As long as that sum is exact, its percentage is between two of those of
the rows (`Tally.exists_percentage_le_sum`, `Tally.exists_sum_le_percentage`), and so between the
first and the last one (`Report.overall_between_rows`).
-/

namespace PackageCoverage

namespace Row

variable {packages : PackageTable} {threshold : Binary64} {row : Row}

private theorem percentage_le_self (hrow : row ∈ ofTable packages threshold) :
    row.percentage ≤ row.percentage := by
  have hnumber := isNaN_percentage_of_mem hrow
  exact ⟨hnumber, hnumber, le_rfl⟩

theorem head_le_of_mem (hrow : row ∈ ofTable packages threshold) :
    ((ofTable packages threshold).head (List.ne_nil_of_mem hrow)).percentage ≤ row.percentage :=
  (pairwise_ofTable packages threshold).rel_head_of_rel_head_head hrow
    (percentage_le_self (List.head_mem _))

theorem le_getLast_of_mem (hrow : row ∈ ofTable packages threshold) :
    row.percentage ≤ ((ofTable packages threshold).getLast (List.ne_nil_of_mem hrow)).percentage :=
  (pairwise_ofTable packages threshold).rel_getLast_of_rel_getLast_getLast hrow
    (percentage_le_self (List.getLast_mem _))

section Sums

variable (threshold) (hle : ∀ entry ∈ packages.entries, entry.2.covered.value ≤ entry.2.total.value)
  (hlimit : packages.overall.total.value ≤ 2 ^ 53) (hne : ofTable packages threshold ≠ [])

include hle hlimit hne

/-- Some row has at most the percentage of all packages together, and some row has at least this
percentage. -/
theorem exists_rows_around :
    (∃ row ∈ ofTable packages threshold, row.percentage ≤ packages.overall.percentage) ∧
      ∃ row ∈ ofTable packages threshold, packages.overall.percentage ≤ row.percentage := by
  have hrows : ∀ tally ∈ (ofTable packages threshold).map Row.tally,
      tally.covered.value ≤ tally.total.value ∧ 0 < tally.total.value := by
    intro tally htally
    obtain ⟨row, hrow, rfl⟩ := List.mem_map.mp htally
    refine ⟨?_, total_pos_of_mem hrow⟩
    obtain ⟨entry, hentry, -, rfl⟩ := mem_ofTable_iff.mp hrow
    exact hle entry hentry
  have htallies : (ofTable packages threshold).map Row.tally ≠ [] := by simpa using hne
  have hpos := fun tally htally => (hrows tally htally).2
  have hcovered := fun tally htally => (hrows tally htally).1
  -- the overall percentage is that of the sum of the rows, so it lies between theirs
  rw [← sum_tally_ofTable threshold hle] at hlimit ⊢
  constructor
  · obtain ⟨tally, htally, hpercentage⟩ :=
      Tally.exists_percentage_le_sum hcovered hlimit htallies hpos
    obtain ⟨row, hrow, rfl⟩ := List.mem_map.mp htally
    exact ⟨row, hrow, (percentage_eq_of_mem hrow).1 ▸ hpercentage⟩
  · obtain ⟨tally, htally, hpercentage⟩ :=
      Tally.exists_sum_le_percentage hcovered hlimit htallies hpos
    obtain ⟨row, hrow, rfl⟩ := List.mem_map.mp htally
    exact ⟨row, hrow, (percentage_eq_of_mem hrow).1 ▸ hpercentage⟩

end Sums

end Row

namespace Report

/-- **The overall percentage lies within the rows.**  If some package has a statement, and the
records in packages have at most `2 ^ 53` statements in all, the overall percentage is at least
that of the first row and at most that of the last one. -/
theorem overall_between_rows (path : String) (operations : List Coverage.Operation)
    (threshold : Binary64)
    (hsome : ∃ entry ∈ (Coverage.run path operations).packages.entries, 0 < entry.2.total.value)
    (hlimit : Record.statementSum (Coverage.inside (.ofPath path)
      (operations.flatMap Coverage.Operation.handed)) ≤ 2 ^ 53) :
    let report := ofCoverage (Coverage.run path operations) threshold
    ∃ first last, report.rows.head? = some first ∧ report.rows.getLast? = some last ∧
      first.percentage ≤ report.overall.percentage ∧
      report.overall.percentage ≤ last.percentage := by
  intro report
  have reflects := Coverage.reflects_run path operations
  have htotal : (Coverage.run path operations).packages.overall.total.value ≤ 2 ^ 53 := by
    change (Coverage.run path operations).overall.total.value ≤ 2 ^ 53
    rw [reflects.overall_eq, Tally.value_total_ofRecords]
    exact (Nat.min_le_left _ _).trans hlimit
  have hne : Row.ofTable (Coverage.run path operations).packages threshold ≠ [] := by
    obtain ⟨entry, hentry, hpos⟩ := hsome
    exact List.ne_nil_of_mem
      (Row.mem_ofTable_iff.mpr ⟨entry, hentry, Nat.ne_of_gt hpos, rfl⟩)
  obtain ⟨⟨low, hlow, hle⟩, high, hhigh, hge⟩ := Row.exists_rows_around threshold
    (fun entry hentry => reflects.covered_le hentry) htotal hne
  -- the outermost rows are no nearer to it than these two
  refine ⟨report.rows.head hne, report.rows.getLast hne, List.head?_eq_some_head hne,
    List.getLast?_eq_some_getLast hne, ?_, ?_⟩
  · exact Binary64.le_trans (Row.head_le_of_mem hlow) hle
  · exact Binary64.le_trans hge (Row.le_getLast_of_mem hhigh)

/-- Two packages share the largest number of statements, a third one has none, and a record is
outside of all packages. -/
theorem overall_between_rows_at_limit :
    let operations : List Coverage.Operation := [.addLine "pkg/a/x.go:1 4503599627370497 1",
      .countAll [⟨"pkg/b/y.go", .clamp 4503599627370495, .clamp 0⟩,
        ⟨"cmd/z.go", .clamp 9, .clamp 1⟩],
      .addLine "pkg/c/w.go:1 0 3"]
    let report := ofCoverage (Coverage.run "pkg" operations) 75
    Record.statementSum (Coverage.inside (.ofPath "pkg")
        (operations.flatMap Coverage.Operation.handed)) = 2 ^ 53 ∧
      ∃ first last, report.rows.head? = some first ∧ report.rows.getLast? = some last ∧
        first.percentage ≤ report.overall.percentage ∧
        report.overall.percentage ≤ last.percentage := by
  intro operations report
  have hsum : Record.statementSum (Coverage.inside (.ofPath "pkg")
      (operations.flatMap Coverage.Operation.handed)) = 2 ^ 53 := by decide +kernel
  exact ⟨hsum, overall_between_rows "pkg" operations 75 (by decide +kernel) (Nat.le_of_eq hsum)⟩

end Report

end PackageCoverage
