import PackageCoverage.Proofs.Binary64.Exact
import PackageCoverage.Proofs.Tally.Percentage

/-!
# The range of percentages

A percentage goes through four roundings, two when the counts become binary64 numbers, one when
they are divided and one when the quotient is multiplied by a hundred.  Each keeps the order of
what it rounds, so percentages can be compared before they are rounded
(`percentage_le_of_units`).  Compared with a few fixed ones, all percentages are finite
(`isInfinite_percentage`), and those of at most as many covered statements as there are lie
between zero and a hundred (`percentage_le_hundred`).  Zero and a hundred themselves are what they
should be (`percentage_eq_zero_iff`, `percentage_self`).
-/

namespace PackageCoverage

open Binary64

variable {covered total : Count}

/-! ## Bounds -/

theorem zero_le_percentage (covered total : Count) : 0 ≤ percentage covered total := by
  refine zero_le_iff.mpr ⟨isNaN_percentage _ _, fun hnegative => ?_⟩
  rw [negative_percentage] at hnegative
  cases hnegative

/-- No percentage is larger than that of all counts over one. -/
theorem isInfinite_percentage (covered total : Count) :
    (percentage covered total).isInfinite = false := by
  by_cases htotal : total.value = 0
  · rw [percentage, if_pos htotal]
    decide +kernel
  · have hle : percentage covered total ≤ percentage (.clamp Count.limit) (.clamp 1) :=
      percentage_le_of_units htotal (by decide) (Nat.mul_le_mul
        (units_ofNat_mono covered.value_le) (units_ofNat_mono (Nat.one_le_iff_ne_zero.mpr htotal)))
    have hlargest : (percentage (.clamp Count.limit) (.clamp 1)).magnitude < infiniteMagnitude := by
      decide +kernel
    rw [le_iff_magnitude (isNaN_percentage _ _) (negative_percentage _ _) (isNaN_percentage _ _)
      (negative_percentage _ _)] at hle
    exact isInfinite_of_lt (Nat.lt_of_le_of_lt hle hlargest)

theorem percentage_antitone {total₁ total₂ : Count} (covered : Count) (htotal : total₁.value ≠ 0)
    (hle : total₁.value ≤ total₂.value) :
    percentage covered total₂ ≤ percentage covered total₁ := by
  have htotal₂ : total₂.value ≠ 0 := by omega
  exact percentage_le_of_units htotal₂ htotal (Nat.mul_le_mul_left _ (units_ofNat_mono hle))

theorem percentage_one_one : percentage (.clamp 1) (.clamp 1) = 100 := by decide +kernel

theorem percentage_le_hundred (hle : covered.value ≤ total.value) :
    percentage covered total ≤ 100 := by
  by_cases htotal : total.value = 0
  · rw [percentage, if_pos htotal]
    decide +kernel
  · rw [← percentage_one_one]
    refine percentage_le_of_units htotal (by decide) ?_
    rw [Nat.mul_comm]
    exact Nat.mul_le_mul_left _ (units_ofNat_mono hle)

/-- What is covered completely has a percentage of a hundred, also where its count is rounded. -/
theorem percentage_self (htotal : total.value ≠ 0) : percentage total total = 100 := by
  have hle : percentage total total ≤ 100 := percentage_le_hundred le_rfl
  have hge : 100 ≤ percentage total total := by
    rw [← percentage_one_one]
    exact percentage_le_of_units (by decide) htotal (Nat.le_of_eq (Nat.mul_comm _ _))
  exact eq_of_le_of_le (negative_percentage _ _) (negative_ofNat 100) hle hge

/-- One covered statement among the largest number of statements already has a percentage. -/
theorem percentage_pos (hcovered : covered.value ≠ 0) (htotal : total.value ≠ 0) :
    0 < percentage covered total := by
  have hsmallest : 0 < percentage (.clamp 1) (.clamp Count.limit) := by decide +kernel
  have hle : percentage (.clamp 1) (.clamp Count.limit) ≤ percentage covered total :=
    percentage_le_of_units (by decide) htotal (Nat.mul_le_mul
      (units_ofNat_mono (Nat.one_le_iff_ne_zero.mpr hcovered)) (units_ofNat_mono total.value_le))
  exact ⟨hsmallest.1, hle.2.1, Int.lt_of_lt_of_le hsmallest.2.2 hle.2.2⟩

theorem percentage_eq_zero_iff (hle : covered.value ≤ total.value) :
    percentage covered total = 0 ↔ covered.value = 0 := by
  constructor
  · intro hzero
    by_contra hcovered
    have hpos := percentage_pos hcovered (by omega : total.value ≠ 0)
    rw [hzero] at hpos
    exact absurd hpos.2.2 (Int.lt_irrefl _)
  · intro hcovered
    by_cases htotal : total.value = 0
    · exact if_pos htotal
    -- the percentage of nothing does not depend on the total
    · have hone : percentage (.clamp 0) (.clamp 1) = 0 := by decide +kernel
      have hnone : percentage covered total ≤ percentage (.clamp 0) (.clamp 1) := by
        refine percentage_le_of_units htotal (by decide) ?_
        rw [hcovered, units_ofNat (n := 0) (by decide), Nat.zero_mul, Nat.zero_mul]
        exact Nat.zero_le _
      rw [hone] at hnone
      exact eq_of_le_of_le (negative_percentage _ _) (negative_ofNat 0) hnone
        (zero_le_percentage _ _)

/-! ## All of it -/

/-- The percentage of two counts is a number without a sign.  It is not lower if more of the same
statements are covered, and not higher if as many are covered of more.  If no more are covered
than there are, it lies between zero and a hundred, it is zero just if none is covered, and it is a
hundred if all are. -/
structure PercentageRange (covered total : Count) : Prop where
  isNaN_eq : (percentage covered total).isNaN = false
  isInfinite_eq : (percentage covered total).isInfinite = false
  negative_eq : (percentage covered total).negative = false
  mono : ∀ more : Count, covered.value ≤ more.value →
    percentage covered total ≤ percentage more total
  antitone : ∀ larger : Count, total.value ≠ 0 → total.value ≤ larger.value →
    percentage covered larger ≤ percentage covered total
  zero_le : 0 ≤ percentage covered total
  le_hundred : covered.value ≤ total.value → percentage covered total ≤ 100
  eq_zero_iff : covered.value ≤ total.value → (percentage covered total = 0 ↔ covered.value = 0)
  eq_hundred : covered = total → total.value ≠ 0 → percentage covered total = 100

theorem percentageRange (covered total : Count) : PercentageRange covered total where
  isNaN_eq := isNaN_percentage covered total
  isInfinite_eq := isInfinite_percentage covered total
  negative_eq := negative_percentage covered total
  mono _ hle := percentage_mono total hle
  antitone _ htotal hle := percentage_antitone covered htotal hle
  zero_le := zero_le_percentage covered total
  le_hundred := percentage_le_hundred
  eq_zero_iff := percentage_eq_zero_iff
  eq_hundred := by
    rintro rfl htotal
    exact percentage_self htotal

end PackageCoverage
