import PackageCoverage.Package.Tally
import PackageCoverage.Proofs.Binary64.Arithmetic
import PackageCoverage.Proofs.Binary64.Order

/-!
# Percentages are numbers

The percentage of any tally is a number and carries no sign (`isNaN_percentage`,
`negative_percentage`), and it grows with the covered count (`percentage_mono`).  Counts are far
below the largest finite number, and a total of at least one does not round to zero, so the
division in a percentage is one of finite numbers.
-/

namespace PackageCoverage

open Binary64

/-! ## Counts as binary64 numbers -/

theorem Binary64.isInfinite_hundred : (100 : Binary64).isInfinite = false := by decide +kernel

theorem Binary64.isZero_hundred : (100 : Binary64).isZero = false := by decide +kernel

theorem Count.isInfinite_ofNat (count : Count) : (ofNat count.value).isInfinite = false := by
  have hle : (ofNat count.value).magnitude ≤ (ofNat Count.limit).magnitude :=
    magnitude_ofNat_mono count.value_le
  have hlimit : (ofNat Count.limit).magnitude < infiniteMagnitude := by decide +kernel
  exact isInfinite_of_lt (Nat.lt_of_le_of_lt hle hlimit)

theorem Count.isZero_ofNat {count : Count} (hvalue : count.value ≠ 0) :
    (ofNat count.value).isZero = false := by
  have hle : (ofNat 1).magnitude ≤ (ofNat count.value).magnitude :=
    magnitude_ofNat_mono (Nat.one_le_iff_ne_zero.mpr hvalue)
  have hone : 0 < (ofNat 1).magnitude := by decide +kernel
  rw [isZero, beq_eq_false_iff_ne]
  omega

/-- The quotient of two counts is rounded from their units. -/
theorem Count.div_eq_ofRatio {total : Count} (covered : Count) (htotal : total.value ≠ 0) :
    ofNat covered.value / ofNat total.value =
      ofRatio false (units (ofNat covered.value).magnitude) (units (ofNat total.value).magnitude) :=
  Binary64.div_eq_ofRatio (isNaN_ofNat _) covered.isInfinite_ofNat (isNaN_ofNat _)
    total.isInfinite_ofNat (Count.isZero_ofNat htotal)

/-! ## Percentages -/

/-- A percentage is a rounded quotient, times a hundred, unless there is nothing to cover. -/
theorem percentage_eq {total : Count} (covered : Count) (htotal : total.value ≠ 0) :
    percentage covered total =
      ofRatio false (units (ofNat covered.value).magnitude) (units (ofNat total.value).magnitude) *
        ofNat 100 := by
  rw [percentage, if_neg htotal, Count.div_eq_ofRatio covered htotal]
  rfl

private theorem percentage_isNumber (covered total : Count) :
    (percentage covered total).isNaN = false ∧ (percentage covered total).negative = false := by
  by_cases htotal : total.value = 0
  · rw [percentage, if_pos htotal]
    exact ⟨isNaN_ofNat 0, negative_ofNat 0⟩
  · rw [percentage_eq covered htotal]
    exact mul_finite (isNaN_ofRatio _ _ _) (isNaN_ofNat 100) isInfinite_hundred isZero_hundred

@[simp] theorem isNaN_percentage (covered total : Count) :
    (percentage covered total).isNaN = false := (percentage_isNumber covered total).1

@[simp] theorem negative_percentage (covered total : Count) :
    (percentage covered total).negative = false := (percentage_isNumber covered total).2

/-- Percentages are in the order of the quotients that they are rounded from, however the two
roundings behind the quotients turn out. -/
theorem percentage_le_of_units {covered₁ total₁ covered₂ total₂ : Count}
    (htotal₁ : total₁.value ≠ 0) (htotal₂ : total₂.value ≠ 0)
    (hle : units (ofNat covered₁.value).magnitude * units (ofNat total₂.value).magnitude ≤
      units (ofNat covered₂.value).magnitude * units (ofNat total₁.value).magnitude) :
    percentage covered₁ total₁ ≤ percentage covered₂ total₂ := by
  rw [le_iff_magnitude (isNaN_percentage _ _) (negative_percentage _ _) (isNaN_percentage _ _)
    (negative_percentage _ _), percentage_eq covered₁ htotal₁, percentage_eq covered₂ htotal₂]
  refine magnitude_mul_mono (isNaN_ofRatio _ _ _) (isNaN_ofRatio _ _ _) (isNaN_ofNat 100)
    isInfinite_hundred isZero_hundred ?_
  exact nearest_mono (units_pos (Count.isZero_ofNat htotal₁))
    (units_pos (Count.isZero_ofNat htotal₂)) hle

theorem Binary64.units_ofNat_mono {m n : Nat} (hle : m ≤ n) :
    units (ofNat m).magnitude ≤ units (ofNat n).magnitude :=
  units_strictMono.monotone (magnitude_ofNat_mono hle)

/-- Covering more of the same statements does not lower the percentage, however the three
roundings in it turn out. -/
theorem percentage_mono {covered₁ covered₂ : Count} (total : Count)
    (hle : covered₁.value ≤ covered₂.value) :
    percentage covered₁ total ≤ percentage covered₂ total := by
  by_cases htotal : total.value = 0
  · have hzero : ∀ covered, percentage covered total = 0 := fun _ => if_pos htotal
    rw [hzero, hzero]
    exact ⟨isNaN_ofNat 0, isNaN_ofNat 0, le_rfl⟩
  · -- the quotients are rounded from units of the covered counts over the same total
    exact percentage_le_of_units htotal htotal (Nat.mul_le_mul_right _ (units_ofNat_mono hle))

end PackageCoverage
