import Mathlib.Algebra.Order.Field.Power
import Mathlib.Tactic.Linarith
import Mathlib.Tactic.Ring
import PackageCoverage.Proofs.Binary64.Exact

/-!
# Relative errors

A quotient that is neither tiny nor huge changes by a factor of at most `slack`, which is
`1 + 2 ^ -53`, when it is rounded.  `Near count` says of two rationals that neither exceeds the
other by more than `count` such factors.

* **One rounding.**  It leads to a number that is near with one factor (`near_ofRatio`).
* **Several.**  Factors add up along a computation: when one result is rounded again
  (`Near.trans`), multiplied by something exact (`Near.mul_right`) or divided by another result
  (`Near.div`).
* **Differences.**  The factors bound how far two rationals are apart (`Near.abs_sub_le`).
-/

namespace PackageCoverage.Binary64

variable {num den magnitude count count' : ℕ} {x y z x' y' : ℚ}

/-! ## Factors -/

/-- The largest factor by which one rounding changes a value. -/
def slack : ℚ := 1 + 1 / 2 ^ 53

theorem one_le_slack : 1 ≤ slack := by norm_num [slack]

theorem slack_pos : 0 < slack := by norm_num [slack]

theorem one_le_slack_pow (count : ℕ) : 1 ≤ slack ^ count := one_le_pow₀ one_le_slack

theorem slack_pow_pos (count : ℕ) : 0 < slack ^ count := pow_pos slack_pos count

/-- Neither of two rationals exceeds the other by more than `count` factors of `slack`. -/
structure Near (count : ℕ) (x y : ℚ) : Prop where
  le : x ≤ y * slack ^ count
  ge : y ≤ x * slack ^ count

namespace Near

theorem symm (hxy : Near count x y) : Near count y x := ⟨hxy.ge, hxy.le⟩

theorem trans (hxy : Near count x y) (hyz : Near count' y z) : Near (count + count') x z := by
  have hpos := (slack_pow_pos count).le
  have hpos' := (slack_pow_pos count').le
  constructor
  · calc x ≤ y * slack ^ count := hxy.le
      _ ≤ z * slack ^ count' * slack ^ count := mul_le_mul_of_nonneg_right hyz.le hpos
      _ = z * slack ^ (count + count') := by ring
  · calc z ≤ y * slack ^ count' := hyz.ge
      _ ≤ x * slack ^ count * slack ^ count' := mul_le_mul_of_nonneg_right hxy.ge hpos'
      _ = x * slack ^ (count + count') := by ring

theorem mul_right (hxy : Near count x y) (hz : 0 ≤ z) : Near count (x * z) (y * z) := by
  constructor
  · calc x * z ≤ y * slack ^ count * z := mul_le_mul_of_nonneg_right hxy.le hz
      _ = y * z * slack ^ count := mul_right_comm _ _ _
  · calc y * z ≤ x * slack ^ count * z := mul_le_mul_of_nonneg_right hxy.ge hz
      _ = x * z * slack ^ count := mul_right_comm _ _ _

private theorem div_le_div_mul (hxy : Near count x y) (hxy' : Near count' x' y') (hy : 0 ≤ y)
    (hx' : 0 < x') (hy' : 0 < y') : x / x' ≤ y / y' * slack ^ (count + count') := by
  rw [div_mul_eq_mul_div, div_le_div_iff₀ hx' hy']
  calc x * y' ≤ y * slack ^ count * (x' * slack ^ count') :=
        mul_le_mul hxy.le hxy'.ge hy'.le (mul_nonneg hy (slack_pow_pos count).le)
    _ = y * slack ^ (count + count') * x' := by ring

theorem div (hxy : Near count x y) (hxy' : Near count' x' y') (hx : 0 ≤ x) (hy : 0 ≤ y)
    (hx' : 0 < x') (hy' : 0 < y') : Near (count + count') (x / x') (y / y') where
  le := div_le_div_mul hxy hxy' hy hx' hy'
  ge := div_le_div_mul hxy.symm hxy'.symm hx hy' hx'

theorem abs_sub_le (hxy : Near count x y) (hy : 0 ≤ y) :
    |x - y| ≤ y * (slack ^ count - 1) := by
  have hpos := slack_pow_pos count
  rw [abs_sub_le_iff]
  constructor
  · linarith [hxy.le]
  · -- dividing by the factors takes no more away than multiplying by them adds
    have hback : y * (2 - slack ^ count) ≤ x := by
      refine le_of_mul_le_mul_right ?_ hpos
      calc y * (2 - slack ^ count) * slack ^ count = y - y * (slack ^ count - 1) ^ 2 := by ring
        _ ≤ y := sub_le_self _ (mul_nonneg hy (sq_nonneg _))
        _ ≤ x * slack ^ count := hxy.ge
    linarith

end Near

/-! ## One rounding -/

/-- A quotient does not lie in front of the midpoint in front of the magnitude that it is rounded
to. -/
theorem midpoint_le_nearest (hden : 0 < den) (hnearest : nearest num den = magnitude + 1) :
    (units magnitude + units (magnitude + 1)) * den ≤ 2 * (num * unitsPerOne) := by
  have hlimit := nearest_le num den
  have hfinite : magnitude < infiniteMagnitude := by omega
  have hbefore : ¬ nearest num den ≤ magnitude := by omega
  rw [nearest_le_iff hden hfinite, BelowMidpoint] at hbefore
  omega

/-- Behind the first stretch, rounding adds less than one part in `2 ^ 53` to a quotient. -/
theorem units_nearest_le (hden : 0 < den) (hnormal : stretch < nearest num den) :
    units (nearest num den) * den * (2 * stretch) ≤ num * unitsPerOne * (2 * stretch + 1) := by
  obtain ⟨before, hnearest⟩ :=
    Nat.exists_eq_succ_of_ne_zero (Nat.ne_of_gt (Nat.zero_lt_of_lt hnormal))
  have hmidpoint := midpoint_le_nearest hden hnearest
  have hnext : units (before + 1) * stretch ≤ units before * (stretch + 1) :=
    units_succ_le (by omega)
  rw [hnearest]
  generalize units before = value at hmidpoint hnext
  generalize units (before + 1) = next at hmidpoint hnext ⊢
  -- the next value is at most `2 * stretch + 2` parts of the midpoint, in `2 * stretch + 1`
  have hparts : next * den * (2 * stretch + 1) ≤ num * unitsPerOne * (2 * stretch + 2) := by
    calc next * den * (2 * stretch + 1) = (next * stretch + next * (stretch + 1)) * den := by ring
      _ ≤ (value * (stretch + 1) + next * (stretch + 1)) * den :=
          Nat.mul_le_mul_right den (Nat.add_le_add_right hnext _)
      _ = (value + next) * den * (stretch + 1) := by ring
      _ ≤ 2 * (num * unitsPerOne) * (stretch + 1) := Nat.mul_le_mul_right _ hmidpoint
      _ = num * unitsPerOne * (2 * stretch + 2) := by ring
  refine Nat.le_of_mul_le_mul_right ?_ (Nat.succ_pos (2 * stretch))
  calc next * den * (2 * stretch) * (2 * stretch + 1)
      = next * den * (2 * stretch + 1) * (2 * stretch) := Nat.mul_right_comm _ _ _
    _ ≤ num * unitsPerOne * (2 * stretch + 2) * (2 * stretch) := Nat.mul_le_mul_right _ hparts
    _ ≤ num * unitsPerOne * (2 * stretch + 1) * (2 * stretch + 1) := by
        rw [Nat.mul_assoc, Nat.mul_assoc (num * unitsPerOne)]
        refine Nat.mul_le_mul_left _ ?_
        ring_nf
        omega

private theorem le_mul_slack_iff {num₁ den₁ num₂ den₂ : ℕ} (hden₁ : 0 < den₁) (hden₂ : 0 < den₂) :
    (num₁ / den₁ : ℚ) ≤ num₂ / den₂ * slack ↔
      num₁ * den₂ * (2 * stretch) ≤ num₂ * den₁ * (2 * stretch + 1) := by
  have hslack : slack = ((2 * stretch + 1 : ℕ) : ℚ) / ((2 * stretch : ℕ) : ℚ) := by
    norm_num [slack, stretch]
  have hstretch : 0 < 2 * stretch := Nat.mul_pos Nat.two_pos stretch_pos
  rw [hslack, div_mul_div_comm, div_le_div_iff₀ (Nat.cast_pos.mpr hden₁)
    (mul_pos (Nat.cast_pos.mpr hden₂) (Nat.cast_pos.mpr hstretch)), ← mul_assoc,
    mul_right_comm (num₂ : ℚ)]
  norm_cast

/-- Quotients that are not tiny are rounded to magnitudes behind the first stretch. -/
theorem stretch_lt_nearest (hden : 0 < den) (hlow : den ≤ num * 2 ^ 100) :
    stretch < nearest num den := by
  have hfirst : stretch < nearest 1 (2 ^ 100) := by decide +kernel
  refine Nat.lt_of_lt_of_le hfirst (nearest_mono (Nat.two_pow_pos 100) hden ?_)
  rwa [Nat.one_mul]

theorem nearest_lt_infinite (hden : 0 < den) (hhigh : num ≤ den * 2 ^ 100) :
    nearest num den < infiniteMagnitude := by
  have hlast : nearest (2 ^ 100) 1 < infiniteMagnitude := by decide +kernel
  refine Nat.lt_of_le_of_lt (nearest_mono hden Nat.one_pos ?_) hlast
  rwa [Nat.mul_one, Nat.mul_comm]

/-- Rounding a quotient that is neither tiny nor huge changes it by at most one factor. -/
theorem near_ofRatio (hden : 0 < den) (hlow : num = 0 ∨ den ≤ num * 2 ^ 100)
    (hhigh : num ≤ den * 2 ^ 100) : Near 1 (ofRatio false num den).toRat (num / den) := by
  have hvalue : (ofRatio false num den).toRat = (units (nearest num den) : ℚ) / unitsPerOne :=
    toRat_of_zero_le (zero_le_ofRatio hden fun hnegative => by cases hnegative)
  rw [hvalue]
  -- zero is exact, and any other quotient is within the range of the two bounds
  rcases hlow with rfl | hlow
  · rw [nearest_zero hden, units_zero]
    exact ⟨by simp, by simp⟩
  · have hnormal := stretch_lt_nearest hden hlow
    have hfinite := nearest_lt_infinite hden hhigh
    constructor
    · rw [pow_one, le_mul_slack_iff unitsPerOne_pos hden]
      exact units_nearest_le hden hnormal
    · rw [pow_one, le_mul_slack_iff hden unitsPerOne_pos]
      exact le_units_nearest hden hnormal.le hfinite

end PackageCoverage.Binary64
