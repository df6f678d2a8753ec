import PackageCoverage.Proofs.Binary64.RelativeError
import PackageCoverage.Proofs.Tally.Rounding

/-!
# How accurate percentages are

A percentage is rounded up to four times, and each rounding is one factor of `slack`
(`Binary64.Near`).

* **All counts.**  Both counts, their quotient and the product with a hundred are rounded, so the
  percentage is near the exact one with four factors (`Tally.near_percentage`), which is less
  than `10 ^ -13` apart (`Tally.abs_percentage_sub_le`).
* **Represented counts.**  Where the counts are represented exactly, two factors are left
  (`Tally.Representable.near_percentage`).  Different fractions of at most `2 ^ 25` statements are
  farther apart than that, so rounding leaves them in their order
  (`Tally.percentage_lt_iff`, `Tally.percentage_eq_iff`).
-/

namespace PackageCoverage

open Binary64

/-! ## Counts -/

theorem Count.near_ofNat (count : Count) : Near 1 (ofNat count.value).toRat count.value := by
  have hlimit : Count.limit ≤ 1 * 2 ^ 100 := by decide
  have hnear : Near 1 (ofNat count.value).toRat (count.value / (1 : ℕ)) :=
    near_ofRatio Nat.one_pos (by omega) (count.value_le.trans hlimit)
  rwa [Nat.cast_one, div_one] at hnear

theorem Count.toRat_ofNat (count : Count) :
    (ofNat count.value).toRat = (units (ofNat count.value).magnitude : ℚ) / unitsPerOne :=
  toRat_of_zero_le (zero_le_ofNat count.value)

theorem Count.units_le (count : Count) :
    units (ofNat count.value).magnitude ≤ 2 ^ 64 * unitsPerOne := by
  have hlimit : units (ofNat Count.limit).magnitude = 2 ^ 64 * unitsPerOne := by decide +kernel
  exact hlimit ▸ units_ofNat_mono count.value_le

theorem Count.unitsPerOne_le {count : Count} (hvalue : count.value ≠ 0) :
    unitsPerOne ≤ units (ofNat count.value).magnitude := by
  have hone : units (ofNat 1).magnitude = unitsPerOne := by
    rw [units_ofNat (by decide), Nat.one_mul]
  exact hone ▸ units_ofNat_mono (Nat.one_le_iff_ne_zero.mpr hvalue)

theorem Binary64.toRat_mono {x y : Binary64} (hx : 0 ≤ x) (hle : x ≤ y) : x.toRat ≤ y.toRat := by
  have hy : 0 ≤ y := Binary64.le_trans hx hle
  rw [toRat_of_zero_le hx, toRat_of_zero_le hy]
  have hmagnitude := (le_iff_of_zero_le hx hy).mp hle
  have hunits : (units x.magnitude : ℚ) ≤ units y.magnitude :=
    Nat.cast_le.mpr (units_strictMono.monotone hmagnitude)
  exact div_le_div_of_nonneg_right hunits (Nat.cast_nonneg _)

namespace Tally

variable {tally : Tally}

/-! ## Quotients -/

theorem units_total_le (hsome : 0 < tally.covered.value) :
    units (ofNat tally.total.value).magnitude ≤
      units (ofNat tally.covered.value).magnitude * 2 ^ 64 := by
  rw [Nat.mul_comm]
  exact tally.total.units_le.trans
    (Nat.mul_le_mul_left _ (Count.unitsPerOne_le (Nat.ne_of_gt hsome)))

section Counts

variable (hpos : 0 < tally.total.value)

include hpos

/-- The quotient of the counts is near the exact one with three factors. -/
theorem near_ratio : Near 3 tally.ratio.toRat (tally.covered.value / tally.total.value) := by
  have htotal := Count.unitsPerOne_le (Nat.ne_of_gt hpos)
  have hlow : units (ofNat tally.covered.value).magnitude = 0 ∨
      units (ofNat tally.total.value).magnitude ≤
        units (ofNat tally.covered.value).magnitude * 2 ^ 100 := by
    rcases Nat.eq_zero_or_pos tally.covered.value with hnone | hsome
    · left
      rw [hnone, units_ofNat (n := 0) (by decide), Nat.zero_mul]
    · right
      have hpowers : 2 ^ 64 ≤ 2 ^ 100 := by decide
      exact (units_total_le hsome).trans (Nat.mul_le_mul_left _ hpowers)
  have hhigh : units (ofNat tally.covered.value).magnitude ≤
      units (ofNat tally.total.value).magnitude * 2 ^ 100 := by
    have hlimit := tally.covered.units_le
    omega
  -- the rounded quotient is near that of the rounded counts, and these are near the counts
  have hrounded := near_ofRatio (units_total_pos hpos) hlow hhigh
  have hquotient : (units (ofNat tally.covered.value).magnitude : ℚ) /
      units (ofNat tally.total.value).magnitude =
        (ofNat tally.covered.value).toRat / (ofNat tally.total.value).toRat := by
    rw [Count.toRat_ofNat, Count.toRat_ofNat, div_div_div_cancel_right₀]
    exact Nat.cast_ne_zero.mpr (Nat.ne_of_gt unitsPerOne_pos)
  rw [← ratio_eq hpos, hquotient] at hrounded
  refine hrounded.trans (tally.covered.near_ofNat.div tally.total.near_ofNat ?_ ?_ ?_ ?_)
  · rw [Count.toRat_ofNat]
    exact div_nonneg (Nat.cast_nonneg _) (Nat.cast_nonneg _)
  · exact Nat.cast_nonneg _
  · rw [Count.toRat_ofNat]
    exact div_pos (Nat.cast_pos.mpr (units_total_pos hpos)) (Nat.cast_pos.mpr unitsPerOne_pos)
  · exact Nat.cast_pos.mpr hpos

end Counts

/-! ## Percentages -/

section Percentages

variable (hcovered : tally.covered.value ≤ tally.total.value) (hpos : 0 < tally.total.value)

include hcovered hpos

theorem units_ratio_le : units tally.ratio.magnitude ≤ unitsPerOne := by
  have hone : units (nearest 1 1) = unitsPerOne := by decide +kernel
  rw [← hone, ratio_eq hpos]
  refine units_strictMono.monotone (nearest_mono (units_total_pos hpos) Nat.one_pos ?_)
  rw [Nat.mul_one, Nat.one_mul]
  exact units_ofNat_mono hcovered

omit hcovered in
theorem le_units_ratio_of_covered (hsome : 0 < tally.covered.value) :
    unitsPerOne ≤ units tally.ratio.magnitude * 2 ^ 64 := by
  have hsmallest : units (nearest 1 (2 ^ 64)) * 2 ^ 64 = unitsPerOne := by decide +kernel
  rw [← hsmallest, ratio_eq hpos]
  refine Nat.mul_le_mul_right _ (units_strictMono.monotone ?_)
  refine nearest_mono (Nat.two_pow_pos 64) (units_total_pos hpos) ?_
  rw [Nat.one_mul]
  exact units_total_le hsome

/-- A hundred times the rounded quotient is rounded once more. -/
theorem near_percentage_of_ratio : Near 1 tally.percentage.toRat (tally.ratio.toRat * 100) := by
  have hratio := zero_le_ratio hpos
  have hunits := units_ratio_le hcovered hpos
  -- the quotient is zero or far from tiny, and it is at most one
  have hlow : units tally.ratio.magnitude * 100 = 0 ∨
      unitsPerOne ≤ units tally.ratio.magnitude * 100 * 2 ^ 100 := by
    rcases Nat.eq_zero_or_pos tally.covered.value with hnone | hsome
    · left
      have hzero : tally.ratio.magnitude = 0 := by
        rw [ratio_eq hpos, hnone, units_ofNat (n := 0) (by decide), Nat.zero_mul]
        exact nearest_zero (units_total_pos hpos)
      rw [hzero, units_zero, Nat.zero_mul]
    · right
      have hpowers : 2 ^ 64 ≤ 100 * 2 ^ 100 := by decide
      rw [Nat.mul_assoc]
      exact (le_units_ratio_of_covered hpos hsome).trans (Nat.mul_le_mul_left _ hpowers)
  have hhigh : units tally.ratio.magnitude * 100 ≤ unitsPerOne * 2 ^ 100 :=
    Nat.mul_le_mul hunits (by decide)
  have hproduct : tally.percentage =
      ofRatio false (units tally.ratio.magnitude * 100) unitsPerOne := by
    have hfinite : tally.ratio.magnitude < infiniteMagnitude := by
      have hlimit : unitsPerOne < units infiniteMagnitude := by decide +kernel
      exact units_strictMono.lt_iff_lt.mp (Nat.lt_of_le_of_lt hunits hlimit)
    have hsign : tally.ratio.negative = false := by
      rw [ratio_eq hpos]
      rfl
    rw [percentage_eq_ratio_mul hpos, mul_hundred_eq hratio.2.1 (isInfinite_of_lt hfinite), hsign]
  have hrounded := near_ofRatio unitsPerOne_pos hlow hhigh
  rw [hproduct, toRat_of_zero_le hratio, div_mul_eq_mul_div]
  push_cast at hrounded
  exact hrounded

/-- The product with a hundred is one factor more than there are in the quotient. -/
theorem near_exactPercentage {count : ℕ}
    (hratio : Near count tally.ratio.toRat (tally.covered.value / tally.total.value)) :
    Near (1 + count) tally.percentage.toRat tally.exactPercentage := by
  have hexact : tally.exactPercentage = tally.covered.value / tally.total.value * 100 := by
    rw [exactPercentage]
    ring
  rw [hexact]
  exact (near_percentage_of_ratio hcovered hpos).trans (hratio.mul_right (by norm_num))

theorem near_percentage : Near 4 tally.percentage.toRat tally.exactPercentage :=
  near_exactPercentage hcovered hpos (near_ratio hpos)

theorem exactPercentage_le_hundred : tally.exactPercentage ≤ 100 := by
  rw [exactPercentage, div_le_iff₀ (Nat.cast_pos.mpr hpos)]
  exact mul_le_mul_of_nonneg_left (Nat.cast_le.mpr hcovered) (by norm_num)

omit hcovered hpos in
theorem exactPercentage_nonneg (tally : Tally) : 0 ≤ tally.exactPercentage :=
  div_nonneg (mul_nonneg (by norm_num) (Nat.cast_nonneg _)) (Nat.cast_nonneg _)

/-- Rounding moves a percentage by less than `10 ^ -13`. -/
theorem abs_percentage_sub_le : |tally.percentage.toRat - tally.exactPercentage| ≤ 1 / 10 ^ 13 := by
  have hfactors : slack ^ 4 - 1 ≤ 1 / (100 * 10 ^ 13) := by norm_num [slack]
  have hnonneg : 0 ≤ slack ^ 4 - 1 := sub_nonneg.mpr (one_le_slack_pow 4)
  calc |tally.percentage.toRat - tally.exactPercentage|
      ≤ tally.exactPercentage * (slack ^ 4 - 1) :=
        (near_percentage hcovered hpos).abs_sub_le (exactPercentage_nonneg tally)
    _ ≤ 100 * (1 / (100 * 10 ^ 13)) :=
        mul_le_mul (exactPercentage_le_hundred hcovered hpos) hfactors hnonneg (by norm_num)
    _ = 1 / 10 ^ 13 := by norm_num

end Percentages

/-! ## Fractions of few statements -/

/-- Where the counts are represented exactly, two factors are left. -/
theorem Representable.near_percentage (representable : tally.Representable) :
    Near 2 tally.percentage.toRat tally.exactPercentage := by
  have hlimit := representable.total_lt
  have hcovered := representable.covered_le
  have hratio : Near 1 tally.ratio.toRat (tally.covered.value / tally.total.value) := by
    rw [representable.ratio_eq]
    exact near_ofRatio representable.total_pos (by omega) (by omega)
  exact near_exactPercentage hcovered representable.total_pos hratio

/-- The counts make a percentage, and there are at most `2 ^ 25` statements. -/
structure Few (tally : Tally) : Prop where
  covered_le : tally.covered.value ≤ tally.total.value
  total_pos : 0 < tally.total.value
  total_le : tally.total.value ≤ 2 ^ 25

theorem Few.representable (few : tally.Few) : tally.Representable :=
  ⟨few.covered_le, few.total_pos, Nat.lt_of_le_of_lt few.total_le (by decide)⟩

variable {first second : Tally}

/-- Different fractions are more than four factors apart. -/
theorem exactPercentage_mul_slack_lt (hfirst : first.Few) (hsecond : second.Few)
    (hlt : first.covered.value * second.total.value < second.covered.value * first.total.value) :
    first.exactPercentage * slack ^ 4 < second.exactPercentage := by
  have hfactors : 2 ^ 50 * (slack ^ 4 - 1) < 1 := by norm_num [slack]
  have hnonneg : 0 ≤ slack ^ 4 - 1 := sub_nonneg.mpr (one_le_slack_pow 4)
  have hcross : first.covered.value * second.total.value ≤ 2 ^ 50 := by
    calc first.covered.value * second.total.value ≤ 2 ^ 25 * 2 ^ 25 :=
          Nat.mul_le_mul (hfirst.covered_le.trans hfirst.total_le) hsecond.total_le
      _ = 2 ^ 50 := by decide
  have hcast : (first.covered.value * second.total.value : ℚ) ≤ 2 ^ 50 := by exact_mod_cast hcross
  have hnext : (first.covered.value * second.total.value : ℚ) + 1 ≤
      second.covered.value * first.total.value := by exact_mod_cast hlt
  have hfirst_pos : (0 : ℚ) < first.total.value := Nat.cast_pos.mpr hfirst.total_pos
  have hsecond_pos : (0 : ℚ) < second.total.value := Nat.cast_pos.mpr hsecond.total_pos
  rw [exactPercentage, exactPercentage, div_mul_eq_mul_div, div_lt_div_iff₀ hfirst_pos hsecond_pos]
  -- the cross products are one apart or more, which is beyond the reach of four factors
  calc 100 * (first.covered.value : ℚ) * slack ^ 4 * second.total.value
      = 100 * (first.covered.value * second.total.value +
          first.covered.value * second.total.value * (slack ^ 4 - 1)) := by ring
    _ ≤ 100 * (first.covered.value * second.total.value + 2 ^ 50 * (slack ^ 4 - 1)) := by
        gcongr
    _ < 100 * (first.covered.value * second.total.value + 1) := by gcongr
    _ ≤ 100 * (second.covered.value * first.total.value) := by gcongr
    _ = 100 * second.covered.value * first.total.value := by ring

theorem percentage_lt_of_cross_lt (hfirst : first.Few) (hsecond : second.Few)
    (hlt : first.covered.value * second.total.value < second.covered.value * first.total.value) :
    first.percentage < second.percentage := by
  refine (not_le_iff_lt (isNaN_percentage _ _) (isNaN_percentage _ _)).mp fun hle => ?_
  have hpos := slack_pow_pos 2
  -- two factors for each percentage would have to close the gap
  have hback : second.exactPercentage ≤ first.exactPercentage * slack ^ 4 := by
    calc second.exactPercentage ≤ second.percentage.toRat * slack ^ 2 :=
          hsecond.representable.near_percentage.ge
      _ ≤ first.percentage.toRat * slack ^ 2 :=
          mul_le_mul_of_nonneg_right (toRat_mono (zero_le_percentage _ _) hle) hpos.le
      _ ≤ first.exactPercentage * slack ^ 2 * slack ^ 2 :=
          mul_le_mul_of_nonneg_right hfirst.representable.near_percentage.le hpos.le
      _ = first.exactPercentage * slack ^ 4 := by ring
  exact absurd hback (not_le_of_gt (exactPercentage_mul_slack_lt hfirst hsecond hlt))

theorem percentage_eq_of_cross_eq (hfirst : first.Representable) (hsecond : second.Representable)
    (heq : first.covered.value * second.total.value = second.covered.value * first.total.value) :
    first.percentage = second.percentage := by
  have hratio : first.ratio = second.ratio := by
    rw [hfirst.ratio_eq, hsecond.ratio_eq]
    exact ofRatio_congr false hfirst.total_pos hsecond.total_pos heq
  rw [percentage_eq_ratio_mul hfirst.total_pos, percentage_eq_ratio_mul hsecond.total_pos, hratio]

/-- Percentages of few statements are in the order of the fractions. -/
theorem percentage_lt_iff (hfirst : first.Few) (hsecond : second.Few) :
    first.percentage < second.percentage ↔
      first.covered.value * second.total.value < second.covered.value * first.total.value := by
  refine ⟨fun hlt => ?_, percentage_lt_of_cross_lt hfirst hsecond⟩
  rcases Nat.lt_trichotomy (first.covered.value * second.total.value)
    (second.covered.value * first.total.value) with hcross | hcross | hcross
  · exact hcross
  · rw [percentage_eq_of_cross_eq hfirst.representable hsecond.representable hcross] at hlt
    exact absurd hlt.2.2 (Int.lt_irrefl _)
  · have hgt := percentage_lt_of_cross_lt hsecond hfirst hcross
    exact absurd (Int.lt_trans hlt.2.2 hgt.2.2) (Int.lt_irrefl _)

/-- Percentages of few statements are equal just if the fractions are. -/
theorem percentage_eq_iff (hfirst : first.Few) (hsecond : second.Few) :
    first.percentage = second.percentage ↔
      first.covered.value * second.total.value = second.covered.value * first.total.value := by
  refine ⟨fun heq => ?_, percentage_eq_of_cross_eq hfirst.representable hsecond.representable⟩
  have hnot : ∀ {x y : Binary64}, x = y → ¬ x < y := fun hxy hlt =>
    absurd hlt.2.2 (by rw [hxy]; exact Int.lt_irrefl _)
  have hle := (percentage_lt_iff hfirst hsecond).not.mp (hnot heq)
  have hge := (percentage_lt_iff hsecond hfirst).not.mp (hnot heq.symm)
  omega

end Tally

end PackageCoverage
