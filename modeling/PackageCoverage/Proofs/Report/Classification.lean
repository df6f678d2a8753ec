import PackageCoverage.Proofs.Package.Uncovered
import PackageCoverage.Proofs.Report.Boundary
import PackageCoverage.Proofs.Tally.Quarters

/-!
# What a percentage decides

A status depends on a rounded percentage.  Two things can be said without any rounding.

* **In range.**  Percentages are finite numbers without a sign, so their two orders agree, nothing
  but a package without covered statements is at zero, and what is covered completely is good
  under every threshold that makes sense (`Report.percentageRange_and_rows`).
* **At quarters.**  At the default threshold, and at 25, 50 and 100, the status is what the counts
  alone say, up to `2 ^ 52` statements (`Report.good_iff_of_quarters`).
-/

namespace PackageCoverage.Report

open Binary64

variable {path : String} {operations : List Coverage.Operation} {threshold : Binary64} {row : Row}
  {covered total : Count}

/-! ## The range -/

theorem percentage_eq_hundred_of_uncovered
    (hrow : row ∈ (ofCoverage (Coverage.run path operations) threshold).rows)
    (huncovered : row.tally.uncovered = 0) : row.tally.percentage = 100 := by
  have hle := Coverage.covered_le_of_row hrow
  have htotal := Row.total_pos_of_mem hrow
  have hall : row.tally.covered = row.tally.total := by
    ext
    rw [Tally.uncovered_eq_of_le hle] at huncovered
    omega
  rw [Tally.percentage, hall]
  exact percentage_self (Nat.ne_of_gt htotal)

/-- **The range of percentages.**  Whatever two counts are, their percentage is in its range.
So in every report the total order of the percentages is their order as numbers, a package with a
covered statement has a percentage above zero, and one without uncovered statements is good
under every threshold of settings that make sense. -/
theorem percentageRange_and_rows (covered total : Count) (path : String)
    (operations : List Coverage.Operation) (threshold : Binary64) :
    let report := ofCoverage (Coverage.run path operations) threshold
    PercentageRange covered total ∧
      (∀ first ∈ report.rows, ∀ second ∈ report.rows,
        first.percentage.precedes second.percentage ↔ first.percentage ≤ second.percentage) ∧
      (∀ row ∈ report.rows, row.tally.covered.value ≠ 0 → 0 < row.percentage) ∧
      ∀ config accepted : Config, config.validated = .ok accepted →
        accepted.threshold = threshold →
          ∀ row ∈ report.rows, row.tally.uncovered = 0 → row.status = .good := by
  refine ⟨percentageRange covered total, ?_, ?_, ?_⟩
  · intro first hfirst second hsecond
    exact precedes_iff_le (Row.isNaN_percentage_of_mem hfirst)
      (Row.negative_percentage_of_mem hfirst) (Row.isNaN_percentage_of_mem hsecond)
      (Row.negative_percentage_of_mem hsecond)
  · intro row hrow hcovered
    rw [(Row.percentage_eq_of_mem hrow).1]
    exact percentage_pos hcovered (Nat.ne_of_gt (Row.total_pos_of_mem hrow))
  -- no threshold that makes sense is above a hundred
  · rintro config accepted haccepted rfl row hrow huncovered
    obtain ⟨hvalid, rfl⟩ := Config.validated_eq_ok_iff.mp haccepted
    rw [(Row.percentage_eq_of_mem hrow).2, Row.ofPercentage_eq_good_iff,
      percentage_eq_hundred_of_uncovered hrow huncovered]
    exact hvalid.threshold.2

/-- Two covered files, the second of them beyond the limit, make a good package at a threshold of
a hundred. -/
theorem percentageRange_and_rows_at_limit :
    let config : Config := { root := "pkg", threshold := 100 }
    let row := Row.ofEntry 100 ("pkg/a", ⟨.clamp Count.limit, .clamp Count.limit⟩)
    let report := ofCoverage (Coverage.run "pkg" [.addLine "pkg/a/x.go:1 18446744073709551615 1",
      .addLine "pkg/a/y.go:1 7 3"]) 100
    config.validated = .ok config ∧ row ∈ report.rows ∧ row.tally.uncovered = 0 ∧
      0 < row.percentage ∧ row.status = .good := by
  intro config row report
  have haccepted : config.validated = .ok config :=
    Config.validated_eq_ok_iff.mpr ⟨⟨⟨'p', by decide +kernel, by decide⟩, by decide +kernel⟩, rfl⟩
  have hrow : row ∈ report.rows :=
    mem_rows_of_entries_eq_singleton 100 (by decide +kernel) (by decide)
  obtain ⟨-, -, hpositive, hgood⟩ := percentageRange_and_rows 0 0 "pkg"
    [.addLine "pkg/a/x.go:1 18446744073709551615 1", .addLine "pkg/a/y.go:1 7 3"] 100
  exact ⟨haccepted, hrow, by decide, hpositive row hrow (by decide),
    hgood config config haccepted rfl row hrow (by decide)⟩

/-! ## Quarters -/

/-- A whole percentage whose hundredth is a quarter is met just if the counts meet it. -/
theorem ofPercentage_eq_good_iff_of_quarters {quarters : Nat} (hquarters : quarters ≤ 4)
    (hcovered : covered.value ≤ total.value) (hpos : 0 < total.value)
    (hlimit : total.value ≤ 2 ^ 52) :
    Status.ofPercentage (percentage covered total) (ofNat (25 * quarters)) = .good ↔
      quarters * total.value ≤ 4 * covered.value := by
  have representable : Tally.Representable ⟨total, covered⟩ :=
    ⟨hcovered, hpos, Nat.lt_of_le_of_lt hlimit (by decide)⟩
  rw [Row.ofPercentage_eq_good_iff]
  exact Tally.quarters_le_percentage_iff representable hlimit hquarters

/-- **Exact at quarters.**  Let no more statements be covered than there are, at most `2 ^ 52`.
At the thresholds 25, 50, 75 and 100 the percentage of the counts is good just if a hundred times
the covered statements are that many times all statements.  So it is at the default threshold,
with three quarters, and at a threshold of 100 a package with these counts is good just if
nothing is missing from it. -/
theorem good_iff_of_quarters (hcovered : covered.value ≤ total.value) (hpos : 0 < total.value)
    (hlimit : total.value ≤ 2 ^ 52) :
    (∀ n ∈ [25, 50, 75, 100],
      Status.ofPercentage (percentage covered total) (ofNat n) = .good ↔
        n * total.value ≤ 100 * covered.value) ∧
      (Status.ofPercentage (percentage covered total) ({} : Config).threshold = .good ↔
        3 * total.value ≤ 4 * covered.value) ∧
      ∀ coverage, ∀ row ∈ (ofCoverage coverage 100).rows, row.tally = ⟨total, covered⟩ →
        (row.status = .good ↔ row.tally.uncovered = 0) := by
  have hquarters : ∀ quarters ≤ 4,
      Status.ofPercentage (percentage covered total) (ofNat (25 * quarters)) = .good ↔
        quarters * total.value ≤ 4 * covered.value := by
    intro quarters hquarters
    exact ofPercentage_eq_good_iff_of_quarters hquarters hcovered hpos hlimit
  refine ⟨?_, hquarters 3 (by decide), ?_⟩
  · have hwhole : ∀ quarters ≤ 4,
        Status.ofPercentage (percentage covered total) (ofNat (25 * quarters)) = .good ↔
          25 * quarters * total.value ≤ 100 * covered.value := by
      intro quarters hle
      rw [hquarters quarters hle, Nat.mul_assoc]
      omega
    intro n hn
    simp only [List.mem_cons, List.not_mem_nil, or_false] at hn
    rcases hn with rfl | rfl | rfl | rfl
    · exact hwhole 1 (by decide)
    · exact hwhole 2 (by decide)
    · exact hwhole 3 (by decide)
    · exact hwhole 4 (by decide)
  · intro coverage row hrow htally
    have huncovered : (⟨total, covered⟩ : Tally).uncovered = total.value - covered.value :=
      Tally.uncovered_eq_of_le hcovered
    rw [(Row.percentage_eq_of_mem hrow).2, htally, huncovered]
    refine (hquarters 4 (by decide)).trans ?_
    omega

/-- One statement less than three quarters of the largest total is not good at the default
threshold. -/
theorem good_iff_of_quarters_at_limit :
    let total : Count := .clamp (2 ^ 52)
    let covered : Count := .clamp (3 * 2 ^ 50 - 1)
    covered.value ≤ total.value ∧ 0 < total.value ∧ total.value ≤ 2 ^ 52 ∧
      Status.ofPercentage (percentage covered total) ({} : Config).threshold ≠ .good := by
  intro total covered
  have hcovered : covered.value ≤ total.value := by decide
  refine ⟨hcovered, by decide, by decide, fun hgood => ?_⟩
  have hmet := (good_iff_of_quarters hcovered (by decide) (by decide)).2.1.mp hgood
  exact absurd hmet (by decide)

end PackageCoverage.Report
