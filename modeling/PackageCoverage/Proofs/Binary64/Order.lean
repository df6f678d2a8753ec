import PackageCoverage.Binary64.Basic

/-!
# The two orders of numbers

Numbers that are no NaNs are compared by their place among the integers, so of any two
one is at most the other (`not_le_iff_lt`).  The total order by rank tells the two zeros
apart and has places for NaNs, and agrees with the comparison where there is no sign
(`precedes_iff_le`).
-/

namespace PackageCoverage.Binary64

variable {x y z : Binary64}

/-! ## Comparison by value -/

theorem le_iff_ordinal (hx : x.isNaN = false) (hy : y.isNaN = false) :
    x ≤ y ↔ x.ordinal ≤ y.ordinal :=
  ⟨fun hle => hle.2.2, fun hle => ⟨hx, hy, hle⟩⟩

theorem lt_iff_ordinal (hx : x.isNaN = false) (hy : y.isNaN = false) :
    x < y ↔ x.ordinal < y.ordinal :=
  ⟨fun hlt => hlt.2.2, fun hlt => ⟨hx, hy, hlt⟩⟩

theorem not_le_iff_lt (hx : x.isNaN = false) (hy : y.isNaN = false) : ¬ x ≤ y ↔ y < x := by
  rw [le_iff_ordinal hx hy, lt_iff_ordinal hy hx]
  exact Int.not_le

protected theorem le_trans (hxy : x ≤ y) (hyz : y ≤ z) : x ≤ z :=
  ⟨hxy.1, hyz.2.1, Int.le_trans hxy.2.2 hyz.2.2⟩

theorem le_iff_magnitude (hx : x.isNaN = false) (hxsign : x.negative = false)
    (hy : y.isNaN = false) (hysign : y.negative = false) : x ≤ y ↔ x.magnitude ≤ y.magnitude := by
  rw [le_iff_ordinal hx hy, ordinal, ordinal, hxsign, hysign]
  exact Int.ofNat_le

theorem lt_of_le_of_lt (hle : x ≤ y) (hlt : y < z) : x < z :=
  ⟨hle.1, hlt.2.1, Int.lt_of_le_of_lt hle.2.2 hlt.2.2⟩

/-! ## The total order -/

theorem precedes_trans (hxy : x.precedes y) (hyz : y.precedes z) : x.precedes z := by
  simp only [precedes, decide_eq_true_eq] at *
  exact Int.le_trans hxy hyz

theorem precedes_total (x y : Binary64) : x.precedes y || y.precedes x := by
  simp only [precedes, Bool.or_eq_true, decide_eq_true_eq]
  exact Int.le_total _ _

/-- No two numbers have one place in the total order. -/
theorem eq_of_precedes (hxy : x.precedes y) (hyx : y.precedes x) : x = y := by
  simp only [precedes, decide_eq_true_eq] at hxy hyx
  have hrank : x.rank = y.rank := Int.le_antisymm hxy hyx
  obtain ⟨negative₁, magnitude₁, _⟩ := x
  obtain ⟨negative₂, magnitude₂, _⟩ := y
  -- with different signs, the ranks are on different sides of zero
  cases negative₁ <;> cases negative₂ <;> simp only [rank, if_true, Bool.false_eq_true, if_false]
    at hrank
  · simp only [mk.injEq, true_and]
    omega
  · omega
  · omega
  · simp only [mk.injEq, true_and]
    omega

theorem precedes_iff_le (hx : x.isNaN = false) (hxsign : x.negative = false)
    (hy : y.isNaN = false) (hysign : y.negative = false) : x.precedes y ↔ x ≤ y := by
  rw [le_iff_ordinal hx hy, precedes, decide_eq_true_eq]
  simp [rank, ordinal, hxsign, hysign]

theorem eq_of_le_of_le (hxsign : x.negative = false) (hysign : y.negative = false) (hxy : x ≤ y)
    (hyx : y ≤ x) : x = y := by
  apply eq_of_precedes
  · exact (precedes_iff_le hxy.1 hxsign hxy.2.1 hysign).mpr hxy
  · exact (precedes_iff_le hyx.1 hysign hyx.2.1 hxsign).mpr hyx

end PackageCoverage.Binary64
