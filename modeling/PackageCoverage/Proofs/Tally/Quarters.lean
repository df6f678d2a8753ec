import Mathlib.Tactic.Ring
import PackageCoverage.Proofs.Tally.Rounding

/-!
# Percentages against quarters

The thresholds 25, 50, 75 and 100 are those whose hundredths are quarters, which are values.  The
quotient of two counts that lies in front of a quarter is therefore compared with one value, and
both roundings of a percentage keep the two apart.

* **The division.**  With a total of at most `2 ^ 52`, a quotient below a quarter is at least
  one in `2 ^ 54` below it, and so it is not rounded up to the quarter
  (`Binary64.quarter_le_nearest_iff`).
* **The multiplication.**  A hundred times the value in front of a quarter is rounded to less than
  the threshold (`Binary64.threshold_le_hundredfold_iff`).

So these thresholds are met just if the exact percentage meets them
(`Tally.quarters_le_percentage_iff`).
-/

namespace PackageCoverage

namespace Binary64

variable {quarters covered total magnitude : Nat}

/-! ## The value in front of a quarter -/

/-- A quarter is a value, and the value in front of it is at most one in `2 ^ 53` less. -/
private theorem exists_before_quarter (hpos : 0 < quarters) (hquarters : quarters ≤ 4) :
    ∃ before, nearest quarters 4 = before + 1 ∧
      4 * units (before + 1) = quarters * unitsPerOne ∧
      units (before + 1) * 2 ^ 53 ≤ units before * 2 ^ 53 + unitsPerOne := by
  have hall : ∀ n < 5, 0 < n → nearest n 4 = nearest n 4 - 1 + 1 ∧
      4 * units (nearest n 4 - 1 + 1) = n * unitsPerOne ∧
      units (nearest n 4 - 1 + 1) * 2 ^ 53 ≤ units (nearest n 4 - 1) * 2 ^ 53 + unitsPerOne := by
    decide +kernel
  exact ⟨nearest quarters 4 - 1, hall quarters (by omega) hpos⟩

/-- What counts lack to a quarter is one statement in four times the total at least, and two if the
total is `2 ^ 52`. -/
private theorem total_lt_lack (hlimit : total ≤ 2 ^ 52) (hbelow : 4 * covered < quarters * total) :
    total < 2 ^ 52 * (quarters * total - 4 * covered) := by
  rcases Nat.lt_or_eq_of_le hlimit with hlt | rfl
  · have hlack : 1 ≤ quarters * total - 4 * covered := by omega
    calc total < 2 ^ 52 * 1 := by omega
      _ ≤ 2 ^ 52 * (quarters * total - 4 * covered) := Nat.mul_le_mul_left _ hlack
  · omega

/-- A quotient in front of a quarter lies in front of the midpoint in front of it. -/
private theorem lt_midpoint {before : Nat} (hlimit : total ≤ 2 ^ 52)
    (hbelow : 4 * covered < quarters * total)
    (hvalue : 4 * units (before + 1) = quarters * unitsPerOne)
    (hstep : units (before + 1) * 2 ^ 53 ≤ units before * 2 ^ 53 + unitsPerOne) :
    2 * (covered * unitsPerOne) < (units before + units (before + 1)) * total := by
  have hlack := total_lt_lack hlimit hbelow
  obtain ⟨lack, hcounts⟩ := Nat.exists_eq_add_of_lt hbelow
  have hlarge : 2 * total < 2 ^ 53 * (lack + 1) := by omega
  have hpositive := unitsPerOne_pos
  generalize units before = value at hstep ⊢
  generalize units (before + 1) = quarter at hvalue hstep ⊢
  -- scaled by `2 ^ 54`, half the step in front of the quarter is at most one
  have hscaled : 2 * (covered * unitsPerOne) * 2 ^ 54 + unitsPerOne * (2 * total) <
      (value + quarter) * total * 2 ^ 54 + unitsPerOne * (2 * total) := by
    calc 2 * (covered * unitsPerOne) * 2 ^ 54 + unitsPerOne * (2 * total)
        < 2 * (covered * unitsPerOne) * 2 ^ 54 + unitsPerOne * (2 ^ 53 * (lack + 1)) :=
          Nat.add_lt_add_left (Nat.mul_lt_mul_of_pos_left hlarge hpositive) _
      _ = (4 * covered + lack + 1) * unitsPerOne * 2 ^ 53 := by ring
      _ = 4 * quarter * total * 2 ^ 53 := by rw [← hcounts, hvalue]; ring
      _ = (quarter * 2 ^ 54 + 2 * (quarter * 2 ^ 53)) * total := by ring
      _ ≤ (quarter * 2 ^ 54 + 2 * (value * 2 ^ 53 + unitsPerOne)) * total :=
          Nat.mul_le_mul_right _ (Nat.add_le_add_left (Nat.mul_le_mul_left 2 hstep) _)
      _ = (value + quarter) * total * 2 ^ 54 + unitsPerOne * (2 * total) := by ring
  exact Nat.lt_of_mul_lt_mul_right (Nat.lt_of_add_lt_add_right hscaled)

/-- The quotient of counts is rounded to a quarter or more just if it is that large. -/
theorem quarter_le_nearest_iff (hpos : 0 < quarters) (hquarters : quarters ≤ 4)
    (htotal : 0 < total) (hlimit : total ≤ 2 ^ 52) :
    nearest quarters 4 ≤ nearest covered total ↔ quarters * total ≤ 4 * covered := by
  constructor
  · intro hreach
    by_contra hbelow
    -- below the quarter, counts are rounded to the value in front of it or less
    obtain ⟨before, hquarter, hvalue, hstep⟩ := exists_before_quarter hpos hquarters
    have hlast := nearest_le quarters 4
    refine absurd hreach (Nat.not_le_of_lt ?_)
    rw [hquarter, Nat.lt_succ_iff, nearest_le_iff htotal (by omega)]
    left
    exact lt_midpoint hlimit (by omega) hvalue hstep
  · intro hle
    refine nearest_mono (Nat.succ_pos 3) htotal ?_
    rwa [Nat.mul_comm covered]

/-- A hundred times a magnitude reaches the threshold just if the magnitude reaches the quarter. -/
theorem threshold_le_hundredfold_iff (hquarters : quarters ≤ 4) :
    nearest (25 * quarters) 1 ≤ hundredfold magnitude ↔ nearest quarters 4 ≤ magnitude := by
  -- the hundredfold of a quarter is exact, and that of the value in front falls short
  have hall : ∀ n < 5, hundredfold (nearest n 4) = nearest (25 * n) 1 ∧
      (nearest n 4 = 0 ∨ hundredfold (nearest n 4 - 1) < nearest (25 * n) 1) := by
    decide +kernel
  obtain ⟨hreach, hbefore⟩ := hall quarters (by omega)
  constructor
  · intro hle
    by_contra hlt
    rcases hbefore with hzero | hbelow
    · omega
    · have hmono : hundredfold magnitude ≤ hundredfold (nearest quarters 4 - 1) :=
        hundredfold_mono (by omega)
      omega
  · intro hle
    rw [← hreach]
    exact hundredfold_mono hle

end Binary64

namespace Tally

open Binary64

/-- A percentage reaches a threshold whose hundredth is a quarter just if the counts do. -/
theorem quarters_le_percentage_iff {tally : Tally} {quarters : Nat}
    (representable : tally.Representable) (hlimit : tally.total.value ≤ 2 ^ 52)
    (hquarters : quarters ≤ 4) :
    ofNat (25 * quarters) ≤ tally.percentage ↔
      quarters * tally.total.value ≤ 4 * tally.covered.value := by
  rcases Nat.eq_zero_or_pos quarters with rfl | hpos
  · refine iff_of_true ?_ ?_
    · exact zero_le_percentage tally.covered tally.total
    · rw [Nat.zero_mul]
      exact Nat.zero_le _
  · rw [threshold_le_percentage_iff_magnitude (zero_le_ofNat _) representable,
      representable.ratio_eq]
    exact (threshold_le_hundredfold_iff hquarters).trans
      (quarter_le_nearest_iff hpos hquarters representable.total_pos hlimit)

end Tally

end PackageCoverage
