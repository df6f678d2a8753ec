import Mathlib.Tactic.Ring
import PackageCoverage.Proofs.Tally.Range

/-!
# Percentages against thresholds

A percentage is rounded twice, once when the counts are divided and once when the quotient is
multiplied by a hundred, but the threshold that it is compared with is not rounded.  So the exact
percentage may meet a threshold that the rounded one is below.

A threshold *falls* if dividing it by a hundred and multiplying the result again leads below it.
The percentage and `threshold / 100 * 100` are each the `hundredfold` of a rounded quotient, and
rounding keeps the order of the quotients.  What follows is read off this comparison, for an exact
percentage that meets the threshold.

* **Which.**  The rounded percentage is below the threshold just if the threshold falls and its
  hundredth is rounded to the same number as the quotient of the counts
  (`Tally.threshold_le_percentage_iff`).
* **How far.**  It is not below if the threshold is met with a margin of one part in `2 ^ 53`
  (`Tally.threshold_le_percentage`), and never by more than one magnitude
  (`Tally.magnitude_threshold_le`).
-/

namespace PackageCoverage

namespace Binary64

variable {x : Binary64} {magnitude quotient : Nat}

/-! ## A hundred times a magnitude -/

/-- The magnitude nearest to a hundred times the value of a magnitude. -/
def hundredfold (magnitude : Nat) : Nat := nearest (units magnitude * 100) unitsPerOne

theorem hundredfold_mono : Monotone hundredfold := by
  intro first second hle
  have hunits : units first ≤ units second := units_strictMono.monotone hle
  refine nearest_mono unitsPerOne_pos unitsPerOne_pos ?_
  exact Nat.mul_le_mul_right _ (Nat.mul_le_mul_right _ hunits)

theorem le_hundredfold (hle : magnitude ≤ infiniteMagnitude)
    (hreach : units magnitude ≤ units quotient * 100) : magnitude ≤ hundredfold quotient :=
  le_nearest unitsPerOne_pos hle (Nat.mul_le_mul_right _ hreach)

theorem hundred_mul_unitsPerOne_pos : 0 < 100 * unitsPerOne :=
  Nat.mul_pos (Nat.succ_pos 99) unitsPerOne_pos

theorem units_hundred : units (100 : Binary64).magnitude = 100 * unitsPerOne :=
  units_ofNat (by decide)

theorem div_hundred_eq (hx : x.isNaN = false) (hfinite : x.isInfinite = false) :
    x / 100 = ofRatio x.negative (units x.magnitude) (100 * unitsPerOne) := by
  have hquotient : x / 100 =
      ofRatio (x.negative != false) (units x.magnitude) (units (100 : Binary64).magnitude) :=
    div_eq_ofRatio hx hfinite (isNaN_ofNat 100) isInfinite_hundred isZero_hundred
  rw [hquotient, units_hundred, Bool.bne_false]

theorem mul_hundred_eq (hx : x.isNaN = false) (hfinite : x.isInfinite = false) :
    x * 100 = ofRatio x.negative (units x.magnitude * 100) unitsPerOne := by
  have hproduct : x * 100 = ofRatio (x.negative != false)
      (units x.magnitude * units (100 : Binary64).magnitude) (unitsPerOne * unitsPerOne) :=
    mul_eq_ofRatio hx hfinite (isNaN_ofNat 100) isInfinite_hundred
  rw [hproduct, units_hundred, Bool.bne_false]
  refine ofRatio_congr _ (Nat.mul_pos unitsPerOne_pos unitsPerOne_pos) unitsPerOne_pos ?_
  rw [← Nat.mul_assoc, Nat.mul_assoc (units x.magnitude * 100)]

theorem zero_le_div_hundred (hx : 0 ≤ x) (hfinite : x.isInfinite = false) : 0 ≤ x / 100 := by
  obtain ⟨hnumber, hsign⟩ := zero_le_iff.mp hx
  rw [div_hundred_eq hnumber hfinite]
  refine zero_le_ofRatio hundred_mul_unitsPerOne_pos fun hnegative => ?_
  rw [hsign hnegative, units_zero]

theorem zero_le_mul_hundred (hx : 0 ≤ x) (hfinite : x.isInfinite = false) : 0 ≤ x * 100 := by
  obtain ⟨hnumber, hsign⟩ := zero_le_iff.mp hx
  rw [mul_hundred_eq hnumber hfinite]
  refine zero_le_ofRatio unitsPerOne_pos fun hnegative => ?_
  rw [hsign hnegative, units_zero, Nat.zero_mul]

theorem magnitude_mul_hundred (hx : 0 ≤ x) (hfinite : x.isInfinite = false) :
    (x * 100).magnitude = hundredfold x.magnitude := by
  rw [mul_hundred_eq hx.2.1 hfinite]
  rfl

/-! ## Percentages as thresholds -/

section Threshold

variable {threshold : Binary64} (hlow : 0 ≤ threshold) (hhigh : threshold ≤ 100)

include hlow hhigh

theorem units_le_hundred : units threshold.magnitude ≤ 100 * unitsPerOne := by
  rw [← units_hundred]
  exact units_strictMono.monotone ((le_iff_of_zero_le hlow (zero_le_ofNat 100)).mp hhigh)

theorem isInfinite_threshold : threshold.isInfinite = false := by
  have hle := (le_iff_of_zero_le hlow (zero_le_ofNat 100)).mp hhigh
  have hhundred : (100 : Binary64).magnitude < infiniteMagnitude := by decide +kernel
  exact isInfinite_of_lt (Nat.lt_of_le_of_lt hle hhundred)

theorem magnitude_hundredth :
    (threshold / 100).magnitude = nearest (units threshold.magnitude) (100 * unitsPerOne) := by
  rw [div_hundred_eq hlow.2.1 (isInfinite_threshold hlow hhigh)]
  rfl

theorem magnitude_hundredth_lt : (threshold / 100).magnitude < infiniteMagnitude := by
  rw [magnitude_hundredth hlow hhigh]
  exact nearest_lt hundred_mul_unitsPerOne_pos (units_le_hundred hlow hhigh)

/-- A threshold does not fall just if the hundredfold of its hundredth does not. -/
theorem threshold_le_hundredth_iff :
    threshold ≤ threshold / 100 * 100 ↔
      threshold.magnitude ≤ hundredfold (threshold / 100).magnitude := by
  have hhundredth := zero_le_div_hundred hlow (isInfinite_threshold hlow hhigh)
  have hfinite := isInfinite_of_lt (magnitude_hundredth_lt hlow hhigh)
  rw [le_iff_of_zero_le hlow (zero_le_mul_hundred hhundredth hfinite),
    magnitude_mul_hundred hhundredth hfinite]

/-- A hundred times any magnitude behind the hundredth of a threshold is enough. -/
theorem threshold_le_hundredfold {quotient : Nat}
    (hbehind : (threshold / 100).magnitude < quotient) :
    threshold.magnitude ≤ hundredfold quotient := by
  refine le_hundredfold (magnitude_le_of_isNaN hlow.2.1) ?_
  have hfinite := magnitude_hundredth_lt hlow hhigh
  rw [magnitude_hundredth hlow hhigh] at hbehind hfinite
  -- the exact hundredth lies in front of the midpoint behind the rounded one
  have hmidpoint := le_midpoint_nearest hundred_mul_unitsPerOne_pos hfinite
  have hrounded := units_strictMono.monotone (Nat.le_of_lt hbehind)
  have hnext := units_strictMono.monotone (Nat.succ_le_of_lt hbehind)
  refine Nat.le_of_mul_le_mul_right ?_ (Nat.mul_pos Nat.two_pos unitsPerOne_pos)
  calc units threshold.magnitude * (2 * unitsPerOne)
      = 2 * (units threshold.magnitude * unitsPerOne) := Nat.mul_left_comm _ _ _
    _ ≤ _ := hmidpoint
    _ ≤ (units quotient + units quotient) * (100 * unitsPerOne) :=
        Nat.mul_le_mul_right _ (Nat.add_le_add hrounded hnext)
    _ = units quotient * 100 * (2 * unitsPerOne) := by ring

end Threshold

end Binary64

namespace Tally

open Binary64

variable {tally : Tally} {threshold : Binary64} {magnitude : Nat}

/-! ## Rounded percentages -/

/-- The rounded quotient of the counts. -/
def ratio (tally : Tally) : Binary64 := ofNat tally.covered.value / ofNat tally.total.value

section Counts

variable (hpos : 0 < tally.total.value)

include hpos

theorem percentage_eq_ratio_mul : tally.percentage = tally.ratio * 100 :=
  if_neg (Nat.ne_of_gt hpos)

theorem units_total_pos : 0 < units (ofNat tally.total.value).magnitude :=
  units_pos (Count.isZero_ofNat (Nat.ne_of_gt hpos))

theorem ratio_eq : tally.ratio = ofRatio false (units (ofNat tally.covered.value).magnitude)
    (units (ofNat tally.total.value).magnitude) :=
  Count.div_eq_ofRatio tally.covered (Nat.ne_of_gt hpos)

theorem zero_le_ratio : 0 ≤ tally.ratio := by
  rw [ratio_eq hpos]
  exact zero_le_ofRatio (units_total_pos hpos) fun hnegative => by cases hnegative

end Counts

/-- The counts make a percentage, and both are represented exactly. -/
structure Representable (tally : Tally) : Prop where
  covered_le : tally.covered.value ≤ tally.total.value
  total_pos : 0 < tally.total.value
  total_lt : tally.total.value < 2 ^ 53

namespace Representable

variable (representable : tally.Representable)

include representable

theorem ratio_eq : tally.ratio = ofRatio false tally.covered.value tally.total.value := by
  have htotal : tally.total.value < 2 * stretch := representable.total_lt
  have hcovered : tally.covered.value < 2 * stretch :=
    Nat.lt_of_le_of_lt representable.covered_le htotal
  rw [Tally.ratio_eq representable.total_pos, units_ofNat hcovered, units_ofNat htotal]
  refine ofRatio_congr _ (Nat.mul_pos representable.total_pos unitsPerOne_pos)
    representable.total_pos ?_
  rw [Nat.mul_right_comm, Nat.mul_assoc]

theorem magnitude_ratio_lt : tally.ratio.magnitude < infiniteMagnitude := by
  rw [representable.ratio_eq]
  exact nearest_lt representable.total_pos representable.covered_le

/-- A quotient of counts other than zero is beyond the first stretch. -/
theorem stretch_le_magnitude_ratio (hcovered : 0 < tally.covered.value) :
    stretch ≤ tally.ratio.magnitude := by
  have hsmallest : stretch ≤ nearest 1 (2 ^ 53) := by decide +kernel
  refine Nat.le_trans hsmallest ?_
  rw [representable.ratio_eq]
  refine nearest_mono (Nat.two_pow_pos 53) representable.total_pos ?_
  calc 1 * tally.total.value ≤ 1 * 2 ^ 53 :=
        Nat.mul_le_mul_left 1 (Nat.le_of_lt representable.total_lt)
    _ ≤ tally.covered.value * 2 ^ 53 := Nat.mul_le_mul_right _ hcovered

/-- The quotient of the counts loses less than one part in `2 ^ 53`. -/
theorem le_units_ratio :
    tally.covered.value * unitsPerOne * (2 * stretch) ≤
      units tally.ratio.magnitude * tally.total.value * (2 * stretch + 1) := by
  rcases Nat.eq_zero_or_pos tally.covered.value with hnone | hsome
  · rw [hnone, Nat.zero_mul, Nat.zero_mul]
    exact Nat.zero_le _
  · have hfinite := representable.magnitude_ratio_lt
    have hnormal := representable.stretch_le_magnitude_ratio hsome
    rw [representable.ratio_eq] at hfinite hnormal ⊢
    exact le_units_nearest representable.total_pos hnormal hfinite

theorem magnitude_percentage : tally.percentage.magnitude = hundredfold tally.ratio.magnitude := by
  rw [percentage_eq_ratio_mul representable.total_pos]
  exact magnitude_mul_hundred (zero_le_ratio representable.total_pos)
    (isInfinite_of_lt representable.magnitude_ratio_lt)

end Representable

/-! ## Exact percentages -/

/-- The percentage that the counts have without any rounding. -/
def exactPercentage (tally : Tally) : ℚ := 100 * tally.covered.value / tally.total.value

private theorem cast_unitsPerOne_pos : (0 : ℚ) < unitsPerOne := Nat.cast_pos.mpr unitsPerOne_pos

theorem meets_iff (hlow : 0 ≤ threshold) (hpos : 0 < tally.total.value) :
    threshold.toRat ≤ tally.exactPercentage ↔
      units threshold.magnitude * tally.total.value ≤
        100 * tally.covered.value * unitsPerOne := by
  rw [toRat_of_zero_le hlow, exactPercentage,
    div_le_div_iff₀ cast_unitsPerOne_pos (Nat.cast_pos.mpr hpos)]
  norm_cast

/-- A quotient reaches another one with a margin of one in `parts`, in natural numbers. -/
private theorem margin_le_iff {num₁ den₁ num₂ den₂ parts : ℕ} (hden₁ : 0 < den₁)
    (hden₂ : 0 < den₂) (hparts : 0 < parts) :
    (num₁ / den₁ : ℚ) * (1 + 1 / parts) ≤ num₂ / den₂ ↔
      num₁ * (parts + 1) * den₂ ≤ num₂ * den₁ * parts := by
  have hmargin : (num₁ / den₁ : ℚ) * (1 + 1 / parts) =
      ((num₁ * (parts + 1) : ℕ) : ℚ) / ((den₁ * parts : ℕ) : ℚ) := by
    push_cast
    field_simp
  rw [hmargin, div_le_div_iff₀ (Nat.cast_pos.mpr (Nat.mul_pos hden₁ hparts))
    (Nat.cast_pos.mpr hden₂), Nat.mul_assoc num₂]
  norm_cast

theorem meets_with_margin_iff (hlow : 0 ≤ threshold) (hpos : 0 < tally.total.value) :
    threshold.toRat * (1 + 1 / 2 ^ 53) ≤ tally.exactPercentage ↔
      units threshold.magnitude * (2 * stretch + 1) * tally.total.value ≤
        100 * tally.covered.value * unitsPerOne * (2 * stretch) := by
  have hdouble : ((2 * stretch : ℕ) : ℚ) = 2 ^ 53 := by norm_num [stretch]
  have hexact : tally.exactPercentage =
      ((100 * tally.covered.value : ℕ) : ℚ) / tally.total.value := by
    rw [exactPercentage, Nat.cast_mul, Nat.cast_ofNat]
  rw [toRat_of_zero_le hlow, hexact, ← hdouble]
  exact margin_le_iff unitsPerOne_pos hpos (Nat.mul_pos Nat.two_pos stretch_pos)

/-! ## Which percentages are rounded below a threshold that they meet -/

section Meets

variable (hlow : 0 ≤ threshold) (hhigh : threshold ≤ 100) (representable : tally.Representable)

include hlow representable

theorem threshold_le_percentage_iff_magnitude :
    threshold ≤ tally.percentage ↔ threshold.magnitude ≤ hundredfold tally.ratio.magnitude := by
  have hpercentage : 0 ≤ tally.percentage := zero_le_percentage tally.covered tally.total
  rw [le_iff_of_zero_le hlow hpercentage, representable.magnitude_percentage]

include hhigh

/-- If the threshold is met, its hundredth is not rounded to more than the quotient. -/
theorem magnitude_hundredth_le (hmeets : threshold.toRat ≤ tally.exactPercentage) :
    (threshold / 100).magnitude ≤ tally.ratio.magnitude := by
  rw [meets_iff hlow representable.total_pos] at hmeets
  rw [magnitude_hundredth hlow hhigh, representable.ratio_eq]
  refine nearest_mono hundred_mul_unitsPerOne_pos representable.total_pos ?_
  rw [← Nat.mul_assoc, Nat.mul_comm tally.covered.value 100]
  exact hmeets

/-- A percentage that meets the threshold exactly is not rounded below it, unless the threshold
falls and the quotient of the counts is rounded to its hundredth. -/
theorem threshold_le_percentage_iff (hmeets : threshold.toRat ≤ tally.exactPercentage) :
    threshold ≤ tally.percentage ↔
      threshold ≤ threshold / 100 * 100 ∨ threshold / 100 < tally.ratio := by
  have hle := magnitude_hundredth_le hlow hhigh representable hmeets
  have hhundredth := zero_le_div_hundred hlow (isInfinite_threshold hlow hhigh)
  rw [threshold_le_percentage_iff_magnitude hlow representable,
    threshold_le_hundredth_iff hlow hhigh,
    lt_iff_of_zero_le hhundredth (zero_le_ratio representable.total_pos)]
  constructor
  · intro hreach
    -- the quotient is rounded to the hundredth of the threshold or behind it
    rcases Nat.lt_or_eq_of_le hle with hlt | heq
    · exact .inr hlt
    · left
      rw [heq]
      exact hreach
  · rintro (hstays | hlt)
    · exact Nat.le_trans hstays (hundredfold_mono hle)
    · exact threshold_le_hundredfold hlow hhigh hlt

end Meets

/-! ## How far they are rounded below it -/

section Margin

variable (representable : tally.Representable)

include representable

/-- The rounded percentage reaches every magnitude that the exact one reaches with a margin. -/
theorem le_hundredfold_ratio (hlimit : magnitude ≤ infiniteMagnitude)
    (hreach : units magnitude * (2 * stretch + 1) * tally.total.value ≤
      100 * tally.covered.value * unitsPerOne * (2 * stretch)) :
    magnitude ≤ hundredfold tally.ratio.magnitude := by
  refine le_hundredfold hlimit ?_
  have hpos : 0 < tally.total.value * (2 * stretch + 1) :=
    Nat.mul_pos representable.total_pos (Nat.succ_pos _)
  refine Nat.le_of_mul_le_mul_right ?_ hpos
  -- what the quotient loses is no more than the margin
  calc units magnitude * (tally.total.value * (2 * stretch + 1))
      = units magnitude * (2 * stretch + 1) * tally.total.value := by ring
    _ ≤ 100 * tally.covered.value * unitsPerOne * (2 * stretch) := hreach
    _ = 100 * (tally.covered.value * unitsPerOne * (2 * stretch)) := by ring
    _ ≤ 100 * (units tally.ratio.magnitude * tally.total.value * (2 * stretch + 1)) :=
        Nat.mul_le_mul_left 100 representable.le_units_ratio
    _ = units tally.ratio.magnitude * 100 * (tally.total.value * (2 * stretch + 1)) := by ring

variable (hlow : 0 ≤ threshold)

include hlow

/-- A percentage that meets the threshold with a margin of one part in `2 ^ 53` is not rounded
below it. -/
theorem threshold_le_percentage
    (hmeets : threshold.toRat * (1 + 1 / 2 ^ 53) ≤ tally.exactPercentage) :
    threshold ≤ tally.percentage := by
  rw [threshold_le_percentage_iff_magnitude hlow representable]
  refine le_hundredfold_ratio representable (magnitude_le_of_isNaN hlow.2.1) ?_
  exact (meets_with_margin_iff hlow representable.total_pos).mp hmeets

/-- A percentage that meets the threshold exactly is rounded at most one magnitude below it. -/
theorem magnitude_threshold_le (hmeets : threshold.toRat ≤ tally.exactPercentage) :
    threshold.magnitude ≤ tally.percentage.magnitude + 1 := by
  rw [representable.magnitude_percentage]
  rw [meets_iff hlow representable.total_pos] at hmeets
  have hlimit := magnitude_le_of_isNaN hlow.2.1
  cases hmagnitude : threshold.magnitude with
  | zero => exact Nat.zero_le _
  | succ before =>
      rw [hmagnitude] at hmeets hlimit
      refine Nat.succ_le_succ (le_hundredfold_ratio representable (Nat.le_of_succ_le hlimit) ?_)
      -- one magnitude less leaves the margin that rounding takes
      calc units before * (2 * stretch + 1) * tally.total.value
          ≤ units (before + 1) * (2 * stretch) * tally.total.value :=
            Nat.mul_le_mul_right _ (le_units_succ before)
        _ = units (before + 1) * tally.total.value * (2 * stretch) := Nat.mul_right_comm _ _ _
        _ ≤ 100 * tally.covered.value * unitsPerOne * (2 * stretch) :=
            Nat.mul_le_mul_right _ hmeets

end Margin

end Tally

end PackageCoverage
