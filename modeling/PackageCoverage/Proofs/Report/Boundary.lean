import Mathlib.Tactic.NormNum
import PackageCoverage.Proofs.Config.Loading
import PackageCoverage.Proofs.Report.ReadingBack
import PackageCoverage.Proofs.Tally.Rounding

/-!
# Packages that meet the threshold exactly

A package whose exact percentage is the threshold should be good.  Rounding may lead its percentage
below the threshold all the same, and then it needs work and is listed as one below
(`Report.needsWork_at_twentyNine`).  `Report.boundary_ofCoverage` tells which packages this
happens to, and `Report.boundary_good_iff` that of the whole thresholds only 29, 57 and 58 have
such packages.
-/

namespace PackageCoverage

namespace Report

open Binary64

/-! ## Rows at the boundary -/

variable {coverage : Coverage} {threshold : Binary64} {row : Row}

/-- A row is good and not listed again just when its rounded percentage is not below. -/
theorem good_and_not_mem_below_iff (hthreshold : threshold.isNaN = false)
    (hrow : row ∈ (ofCoverage coverage threshold).rows) :
    row.status = .good ∧ row ∉ (ofCoverage coverage threshold).below ↔
      threshold ≤ row.tally.percentage := by
  have hgood : row.status = .good ↔ threshold ≤ row.tally.percentage := by
    rw [(Row.percentage_eq_of_mem hrow).2]
    exact Row.ofPercentage_eq_good_iff
  rw [← hgood]
  refine and_iff_left_of_imp fun hstatus hbelow => ?_
  have hwork := (Row.isBelow_iff_needsWork hthreshold hrow).mp (List.mem_filter.mp hbelow).2
  rw [hstatus] at hwork
  cases hwork

theorem mem_rows_of_entries_eq_singleton {entry : String × Tally} (threshold : Binary64)
    (hentries : coverage.packages.entries = [entry]) (htotal : entry.2.total.value ≠ 0) :
    Row.ofEntry threshold entry ∈ (ofCoverage coverage threshold).rows := by
  rw [ofCoverage_of_entries_eq_singleton threshold hentries htotal]
  exact List.mem_singleton_self _

/-- **At the boundary.**  Let settings make sense, and let the exact percentage of a package with
fewer than `2 ^ 53` statements meet their threshold.  Then the package is good and not listed for
improvement just if the threshold does not fall when it is divided by a hundred and multiplied
again, or if the quotient of the counts is rounded to more than the hundredth of the threshold.
In any case it is good if it meets the threshold with a margin of one part in `2 ^ 53`, and its
percentage is at most one magnitude below the threshold. -/
theorem boundary_ofCoverage {config accepted : Config}
    (haccepted : config.validated = .ok accepted)
    (hrow : row ∈ (ofCoverage coverage accepted.threshold).rows)
    (hcovered : row.tally.covered.value ≤ row.tally.total.value)
    (htotal : row.tally.total.value < 2 ^ 53)
    (hmeets : accepted.threshold.toRat ≤ row.tally.exactPercentage) :
    let report := ofCoverage coverage accepted.threshold
    (row.status = .good ∧ row ∉ report.below ↔
        report.threshold ≤ report.threshold / 100 * 100 ∨
          report.threshold / 100 < row.tally.ratio) ∧
      (report.threshold.toRat * (1 + 1 / 2 ^ 53) ≤ row.tally.exactPercentage →
        row.status = .good ∧ row ∉ report.below) ∧
      report.threshold.magnitude ≤ row.percentage.magnitude + 1 := by
  obtain ⟨hlow, hhigh⟩ : 0 ≤ accepted.threshold ∧ accepted.threshold ≤ 100 := by
    obtain ⟨hvalid, rfl⟩ := Config.validated_eq_ok_iff.mp haccepted
    exact hvalid.threshold
  have representable : row.tally.Representable := ⟨hcovered, Row.total_pos_of_mem hrow, htotal⟩
  intro report
  -- status and list look at the rounded percentage only, so the rest is about numbers
  rw [good_and_not_mem_below_iff hlow.2.1 hrow]
  refine ⟨?_, ?_, ?_⟩
  · exact Tally.threshold_le_percentage_iff hlow hhigh representable hmeets
  · exact Tally.threshold_le_percentage representable hlow
  · rw [(Row.percentage_eq_of_mem hrow).1]
    exact Tally.magnitude_threshold_le representable hlow hmeets

/-- Seven of twelve statements meet a threshold of 58, which falls, but not to their quotient. -/
theorem boundary_ofCoverage_at_fiftyEight :
    let config : Config := { root := "pkg", threshold := 58 }
    let coverage := Coverage.run "pkg" [.addLine "pkg/a/x.go:1.1,2.2 7 1",
      .addLine "pkg/a/y.go:1.1,2.2 5 0"]
    let row := Row.ofEntry 58 ("pkg/a", ⟨.clamp 12, .clamp 7⟩)
    let report := ofCoverage coverage config.threshold
    config.validated = .ok config ∧ row ∈ report.rows ∧
      config.threshold.toRat ≤ row.tally.exactPercentage ∧
      (row.status = .good ∧ row ∉ report.below ↔
        report.threshold ≤ report.threshold / 100 * 100 ∨
          report.threshold / 100 < row.tally.ratio) ∧
      (report.threshold.toRat * (1 + 1 / 2 ^ 53) ≤ row.tally.exactPercentage →
        row.status = .good ∧ row ∉ report.below) ∧
      report.threshold.magnitude ≤ row.percentage.magnitude + 1 := by
  intro config coverage row report
  have haccepted : config.validated = .ok config :=
    Config.validated_eq_ok_iff.mpr ⟨⟨⟨'p', by decide +kernel, by decide⟩, by decide +kernel⟩, rfl⟩
  have hrow : row ∈ report.rows :=
    mem_rows_of_entries_eq_singleton 58 (by decide +kernel) (by decide)
  have hmeets : config.threshold.toRat ≤ row.tally.exactPercentage := by
    have hthreshold : config.threshold.toRat = (58 : ℕ) := toRat_ofNat (by decide)
    have hexact : row.tally.exactPercentage = 100 * (7 : ℕ) / (12 : ℕ) := rfl
    rw [hthreshold, hexact]
    norm_num
  exact ⟨haccepted, hrow, hmeets,
    boundary_ofCoverage haccepted hrow (by decide) (by decide) hmeets⟩

/-- A package with 29 of 100 statements covered meets a threshold of 29 exactly and is listed as
one below it: its percentage is the number in front of 29. -/
theorem needsWork_at_twentyNine :
    let config : Config := { root := "pkg", threshold := 29 }
    let report := ofCoverage (Coverage.run config.root [.countProfile
      "pkg/a/x.go:1.1,2.2 29 1\npkg/a/y.go:1.1,2.2 71 0\n".toUTF8.toList]) config.threshold
    config.validated = .ok config ∧ ∃ row ∈ report.rows,
      row.tally.covered.value ≤ row.tally.total.value ∧ row.tally.total.value ≤ 2 ^ 52 ∧
        config.threshold.toRat = row.tally.exactPercentage ∧
        row.status = .needsWork ∧ row ∈ report.below := by
  intro config report
  let row := Row.ofEntry 29 ("pkg/a", ⟨.clamp 100, .clamp 29⟩)
  have hrow : row ∈ report.rows :=
    mem_rows_of_entries_eq_singleton 29 (by decide +kernel) (by decide)
  -- the percentage is rounded to the number in front of 29
  have hbelow : row.isBelow 29 = true := by decide +kernel
  have hmeets : config.threshold.toRat = row.tally.exactPercentage := by
    have hthreshold : config.threshold.toRat = (29 : ℕ) := toRat_ofNat (by decide)
    have hexact : row.tally.exactPercentage = 100 * (29 : ℕ) / (100 : ℕ) := rfl
    rw [hthreshold, hexact]
    norm_num
  have haccepted : config.validated = .ok config :=
    Config.validated_eq_ok_iff.mpr ⟨⟨⟨'p', by decide +kernel, by decide⟩, by decide +kernel⟩, rfl⟩
  have hstatus : row.status = .needsWork :=
    (Row.isBelow_iff_needsWork (isNaN_ofNat 29) hrow).mp hbelow
  exact ⟨haccepted, row, hrow, by decide, by decide, hmeets, hstatus,
    List.mem_filter.mpr ⟨hrow, hbelow⟩⟩

/-! ## Whole thresholds -/

theorem ofNat_le_hundred {n : Nat} (hn : n ≤ 100) : ofNat n ≤ 100 :=
  (le_iff_of_zero_le (zero_le_ofNat n) (zero_le_ofNat 100)).mpr (magnitude_ofNat_mono hn)

/-- Of the whole percentages these three fall when they are divided by a hundred and multiplied
again. -/
theorem whole_falls_iff {n : Nat} (hn : n ≤ 100) :
    ¬ ofNat n ≤ ofNat n / 100 * 100 ↔ n = 29 ∨ n = 57 ∨ n = 58 := by
  have hlt : n < 2 * stretch := Nat.lt_of_le_of_lt hn (by decide)
  have hhundredth : (ofNat n / 100).magnitude = nearest n 100 := by
    rw [magnitude_hundredth (zero_le_ofNat n) (ofNat_le_hundred hn), units_ofNat hlt]
    refine nearest_congr hundred_mul_unitsPerOne_pos (Nat.succ_pos 99) ?_
    rw [Nat.mul_right_comm, Nat.mul_assoc]
  have hall : ∀ n < 101, ¬ nearest n 1 ≤ hundredfold (nearest n 100) ↔
      n = 29 ∨ n = 57 ∨ n = 58 := by
    decide +kernel
  rw [threshold_le_hundredth_iff (zero_le_ofNat n) (ofNat_le_hundred hn), hhundredth]
  exact hall n (by omega)

private theorem not_good_of_whole_falls {n : Nat} (hfalls : n = 29 ∨ n = 57 ∨ n = 58) :
    ∃ coverage, ∃ row ∈ (ofCoverage coverage (ofNat n)).rows, row.tally.Representable ∧
      (n : ℚ) ≤ row.tally.exactPercentage ∧ row.status = .needsWork := by
  -- `n` of a hundred statements meet the threshold exactly
  let row := Row.ofEntry (ofNat n) ("pkg/a", ⟨.clamp 100, .clamp n⟩)
  let coverage := Coverage.run "pkg" [.add ⟨"pkg/a/x.go", .clamp n, .clamp 1⟩,
    .add ⟨"pkg/a/y.go", .clamp (100 - n), .clamp 0⟩]
  have hentries : coverage.packages.entries = [("pkg/a", ⟨.clamp 100, .clamp n⟩)] := by
    rcases hfalls with rfl | rfl | rfl <;> decide +kernel
  have hpositive : (Count.clamp 100).value ≠ 0 := by decide
  have hrow : row ∈ (ofCoverage coverage (ofNat n)).rows :=
    mem_rows_of_entries_eq_singleton (ofNat n) hentries hpositive
  refine ⟨coverage, row, hrow, ?_, ?_, ?_⟩
  · rcases hfalls with rfl | rfl | rfl <;> exact ⟨by decide, by decide, by decide⟩
  · have hcovered : row.tally.covered.value = n := by
      rcases hfalls with rfl | rfl | rfl <;> rfl
    have htotal : row.tally.total.value = 100 := rfl
    rw [Tally.exactPercentage, hcovered, htotal]
    norm_num
  · rcases hfalls with rfl | rfl | rfl <;> decide +kernel

/-- **Whole thresholds.**  All packages that meet a whole threshold are good and not listed, just
if the threshold is not one of the three that fall. -/
theorem boundary_good_iff {n : Nat} (hn : n ≤ 100) :
    (∀ coverage, ∀ row ∈ (ofCoverage coverage (ofNat n)).rows, row.tally.Representable →
      (n : ℚ) ≤ row.tally.exactPercentage →
        row.status = .good ∧ row ∉ (ofCoverage coverage (ofNat n)).below) ↔
      ¬ (n = 29 ∨ n = 57 ∨ n = 58) := by
  constructor
  · intro hgood hfalls
    obtain ⟨coverage, row, hrow, representable, hmeets, hwork⟩ := not_good_of_whole_falls hfalls
    have hstatus := (hgood coverage row hrow representable hmeets).1
    rw [hwork] at hstatus
    cases hstatus
  · intro hstays coverage row hrow representable hmeets
    have hlt : n < 2 * stretch := Nat.lt_of_le_of_lt hn (by decide)
    rw [good_and_not_mem_below_iff (isNaN_ofNat n) hrow,
      Tally.threshold_le_percentage_iff (zero_le_ofNat n) (ofNat_le_hundred hn) representable
        (by rwa [toRat_ofNat hlt])]
    -- a threshold that does not fall asks nothing of the quotient
    left
    by_contra hfalls
    exact hstays ((whole_falls_iff hn).mp hfalls)

end Report

end PackageCoverage
