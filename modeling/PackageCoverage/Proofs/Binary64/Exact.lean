import Mathlib.Algebra.Order.Field.Basic
import Mathlib.Algebra.Order.Field.Rat
import Mathlib.Tactic.FieldSimp
import Mathlib.Tactic.NormNum
import PackageCoverage.Proofs.Binary64.Arithmetic
import PackageCoverage.Proofs.Binary64.Order

/-!
# Exact values and what rounding loses

A finite number stands for a rational (`Binary64.toRat`).  This module compares the rounded
results with the exact ones.

* **Nothing is lost on a value.**  A quotient that is the value of some magnitude is rounded to
  this magnitude (`nearest_units`), so a quotient that reaches a value is not rounded to less
  (`le_nearest`).  Natural numbers with at most 53 bits are values (`units_ofNat`).
* **Little is lost elsewhere.**  Neighbouring magnitudes are about one part in `2 ^ 53` to one
  part in `2 ^ 52` apart (`le_units_succ`, `units_succ_le`).  A quotient beyond the first stretch
  therefore loses less than one part in `2 ^ 53` when it is rounded (`le_units_nearest`).
-/

namespace PackageCoverage.Binary64

variable {num den num₁ den₁ num₂ den₂ magnitude : Nat} {x y : Binary64}

/-! ## Rounding a value -/

@[simp] theorem units_zero : units 0 = 0 := by
  rw [units, if_pos stretch_pos]

theorem nearest_congr (hden₁ : 0 < den₁) (hden₂ : 0 < den₂) (heq : num₁ * den₂ = num₂ * den₁) :
    nearest num₁ den₁ = nearest num₂ den₂ := by
  apply Nat.le_antisymm
  · exact nearest_mono hden₁ hden₂ (Nat.le_of_eq heq)
  · exact nearest_mono hden₂ hden₁ (Nat.le_of_eq heq.symm)

theorem ofRatio_congr (negative : Bool) (hden₁ : 0 < den₁) (hden₂ : 0 < den₂)
    (heq : num₁ * den₂ = num₂ * den₁) :
    ofRatio negative num₁ den₁ = ofRatio negative num₂ den₂ := by
  simp only [ofRatio, nearest_congr hden₁ hden₂ heq]

/-- The value of a magnitude is rounded to the magnitude. -/
theorem nearest_units (hle : magnitude ≤ infiniteMagnitude) :
    nearest (units magnitude) unitsPerOne = magnitude := by
  apply Nat.le_antisymm
  · rcases Nat.lt_or_eq_of_le hle with hfinite | rfl
    · rw [nearest_le_iff unitsPerOne_pos hfinite]
      left
      have hnext : units magnitude < units (magnitude + 1) := units_strictMono (Nat.lt_succ_self _)
      calc 2 * (units magnitude * unitsPerOne) = 2 * units magnitude * unitsPerOne :=
            (Nat.mul_assoc _ _ _).symm
        _ < (units magnitude + units (magnitude + 1)) * unitsPerOne :=
            Nat.mul_lt_mul_of_pos_right (by omega) unitsPerOne_pos
    · exact nearest_le _ _
  · cases magnitude with
    | zero => exact Nat.zero_le _
    | succ before =>
        have hlast : units before < units (before + 1) := units_strictMono (Nat.lt_succ_self _)
        -- the value lies behind the midpoint in front of it
        refine Nat.lt_of_not_le fun hbefore => ?_
        rw [nearest_le_iff unitsPerOne_pos (Nat.lt_of_succ_le hle)] at hbefore
        have hbehind : (units before + units (before + 1)) * unitsPerOne <
            2 * (units (before + 1) * unitsPerOne) := by
          rw [← Nat.mul_assoc]
          exact Nat.mul_lt_mul_of_pos_right (by omega) unitsPerOne_pos
        rcases hbefore with hlt | ⟨heq, -⟩ <;> omega

theorem le_nearest (hden : 0 < den) (hle : magnitude ≤ infiniteMagnitude)
    (hreach : units magnitude * den ≤ num * unitsPerOne) : magnitude ≤ nearest num den := by
  calc magnitude = nearest (units magnitude) unitsPerOne := (nearest_units hle).symm
    _ ≤ nearest num den := nearest_mono unitsPerOne_pos hden hreach

theorem nearest_zero (hden : 0 < den) : nearest 0 den = 0 := by
  calc nearest 0 den = nearest (units 0) unitsPerOne :=
        nearest_congr hden unitsPerOne_pos (by rw [units_zero, Nat.zero_mul, Nat.zero_mul])
    _ = 0 := nearest_units (Nat.zero_le _)

theorem nearest_lt (hden : 0 < den) (hle : num ≤ den) : nearest num den < infiniteMagnitude := by
  have hone : nearest 1 1 < infiniteMagnitude := by decide +kernel
  calc nearest num den ≤ nearest 1 1 := nearest_mono hden Nat.one_pos (by omega)
    _ < infiniteMagnitude := hone

/-! ## Natural numbers -/

/-- A number with at most 53 bits is brought to 53 bits by doubling. -/
private theorem exists_doublings {n : Nat} (hpos : 0 < n) (hlt : n < 2 * stretch) :
    ∃ doublings ≤ 52, stretch ≤ n <<< doublings ∧ n <<< doublings < 2 * stretch := by
  have hstretch : stretch = 2 ^ 52 := by decide
  have hdouble : 2 * stretch = 2 ^ 53 := by decide
  have hne : n ≠ 0 := Nat.ne_of_gt hpos
  have hbits : n.log2 < 53 := (Nat.log2_lt hne).mpr (hdouble ▸ hlt)
  -- `n` has `n.log2 + 1` bits, and every doubling adds one
  refine ⟨52 - n.log2, Nat.sub_le _ _, ?_, ?_⟩
  · calc stretch = 2 ^ n.log2 * 2 ^ (52 - n.log2) := by
          rw [hstretch, ← Nat.pow_add, show n.log2 + (52 - n.log2) = 52 by omega]
      _ ≤ n * 2 ^ (52 - n.log2) := Nat.mul_le_mul_right _ (Nat.log2_self_le hne)
      _ = n <<< (52 - n.log2) := (Nat.shiftLeft_eq _ _).symm
  · calc n <<< (52 - n.log2) = n * 2 ^ (52 - n.log2) := Nat.shiftLeft_eq _ _
      _ < 2 ^ (n.log2 + 1) * 2 ^ (52 - n.log2) :=
          Nat.mul_lt_mul_of_pos_right Nat.lt_log2_self (Nat.two_pow_pos _)
      _ = 2 * stretch := by
          rw [hdouble, ← Nat.pow_add, show n.log2 + 1 + (52 - n.log2) = 53 by omega]

private theorem exists_units_eq {n : Nat} (hlt : n < 2 * stretch) :
    ∃ magnitude ≤ infiniteMagnitude, units magnitude = n * unitsPerOne := by
  rcases Nat.eq_zero_or_pos n with rfl | hpos
  · exact ⟨0, Nat.zero_le _, by rw [units_zero, Nat.zero_mul]⟩
  · obtain ⟨doublings, hfew, hlow, hhigh⟩ := exists_doublings hpos hlt
    refine ⟨(1074 - doublings) * stretch + n <<< doublings, ?_, ?_⟩
    · have hgrid : (1074 - doublings) * stretch ≤ 1074 * stretch :=
        Nat.mul_le_mul_right stretch (Nat.sub_le _ _)
      unfold infiniteMagnitude
      omega
    · rw [units_grid (.inr hlow) (Nat.le_of_lt hhigh), ← Nat.shiftLeft_add,
        Nat.add_sub_cancel' (by omega), unitsPerOne, Nat.one_shiftLeft, Nat.shiftLeft_eq]

/-- A natural number with at most 53 bits is represented exactly. -/
theorem units_ofNat {n : Nat} (hlt : n < 2 * stretch) :
    units (ofNat n).magnitude = n * unitsPerOne := by
  obtain ⟨magnitude, hle, hunits⟩ := exists_units_eq hlt
  have hnearest : (ofNat n).magnitude = magnitude := by
    calc nearest n 1 = nearest (units magnitude) unitsPerOne :=
          nearest_congr Nat.one_pos unitsPerOne_pos (by rw [hunits, Nat.mul_one])
      _ = magnitude := nearest_units hle
  rw [hnearest, hunits]

/-! ## Neighbours -/

/-- The value in front of another one is at least one part in `2 ^ 53` less. -/
theorem le_units_succ (magnitude : Nat) :
    units magnitude * (2 * stretch + 1) ≤ units (magnitude + 1) * (2 * stretch) := by
  obtain ⟨excess, k, rfl, hlow, hhigh⟩ := exists_grid magnitude
  rw [Nat.add_assoc, units_grid hlow (by omega), units_grid (by omega) (by omega),
    Nat.shiftLeft_eq, Nat.shiftLeft_eq, Nat.mul_right_comm, Nat.mul_right_comm (k + 1)]
  have hsteps : k * (2 * stretch + 1) ≤ (k + 1) * (2 * stretch) := by
    calc k * (2 * stretch + 1) = k * (2 * stretch) + k := Nat.mul_succ _ _
      _ ≤ k * (2 * stretch) + 2 * stretch := Nat.add_le_add_left (Nat.le_of_lt hhigh) _
      _ = (k + 1) * (2 * stretch) := (Nat.succ_mul _ _).symm
  exact Nat.mul_le_mul_right _ hsteps

/-- Beyond the first stretch, the next value is at most one part in `2 ^ 52` more. -/
theorem units_succ_le (hnormal : stretch ≤ magnitude) :
    units (magnitude + 1) * stretch ≤ units magnitude * (stretch + 1) := by
  obtain ⟨excess, k, rfl, hlow, hhigh⟩ := exists_grid magnitude
  have hfull : stretch ≤ k := by
    rcases hlow with rfl | hfull
    · omega
    · exact hfull
  -- both values are on one grid, one step apart
  rw [Nat.add_assoc, units_grid hlow (by omega), units_grid (by omega) (by omega),
    Nat.shiftLeft_eq, Nat.shiftLeft_eq, Nat.mul_right_comm, Nat.mul_right_comm k]
  have hsteps : (k + 1) * stretch ≤ k * (stretch + 1) := by
    calc (k + 1) * stretch = k * stretch + stretch := Nat.succ_mul _ _
      _ ≤ k * stretch + k := Nat.add_le_add_left hfull _
      _ = k * (stretch + 1) := (Nat.mul_succ _ _).symm
  exact Nat.mul_le_mul_right _ hsteps

/-! ## The error of one rounding -/

/-- A quotient does not lie behind the midpoint behind the magnitude that it is rounded to. -/
theorem le_midpoint_nearest (hden : 0 < den) (hfinite : nearest num den < infiniteMagnitude) :
    2 * (num * unitsPerOne) ≤
      (units (nearest num den) + units (nearest num den + 1)) * den := by
  rcases (nearest_le_iff hden hfinite).mp le_rfl with hlt | ⟨heq, -⟩
  · exact Nat.le_of_lt hlt
  · exact Nat.le_of_eq heq

/-- Beyond the first stretch, rounding loses less than one part in `2 ^ 53` of a quotient. -/
theorem le_units_nearest (hden : 0 < den) (hnormal : stretch ≤ nearest num den)
    (hfinite : nearest num den < infiniteMagnitude) :
    num * unitsPerOne * (2 * stretch) ≤ units (nearest num den) * den * (2 * stretch + 1) := by
  have hmidpoint := le_midpoint_nearest hden hfinite
  have hnext := units_succ_le hnormal
  -- only these two values matter from here on
  generalize units (nearest num den) = value at hmidpoint hnext ⊢
  generalize units (nearest num den + 1) = next at hmidpoint hnext
  calc num * unitsPerOne * (2 * stretch) = 2 * (num * unitsPerOne) * stretch := by
        rw [← Nat.mul_assoc, Nat.mul_comm _ 2]
    _ ≤ (value + next) * den * stretch := Nat.mul_le_mul_right stretch hmidpoint
    _ = (value * stretch + next * stretch) * den := by rw [Nat.mul_right_comm, Nat.add_mul]
    _ ≤ (value * stretch + value * (stretch + 1)) * den :=
        Nat.mul_le_mul_right den (Nat.add_le_add_left hnext _)
    _ = value * den * (2 * stretch + 1) := by
        rw [← Nat.mul_add, show stretch + (stretch + 1) = 2 * stretch + 1 by omega,
          Nat.mul_right_comm]

/-! ## Numbers that are not below zero -/

theorem magnitude_zero : (0 : Binary64).magnitude = 0 := nearest_zero Nat.one_pos

/-- Nothing but a zero has a sign and is not below zero. -/
theorem zero_le_iff :
    0 ≤ x ↔ x.isNaN = false ∧ (x.negative = true → x.magnitude = 0) := by
  have hzero : (0 : Binary64).ordinal = 0 := by
    rw [ordinal, magnitude_zero]
    rfl
  constructor
  -- a sign turns the ordinal of a number negative unless it is that of zero
  · rintro ⟨-, hnumber, hordinal⟩
    refine ⟨hnumber, fun hnegative => ?_⟩
    rw [hzero, ordinal, if_pos hnegative] at hordinal
    omega
  · rintro ⟨hnumber, hsign⟩
    refine ⟨isNaN_ofNat 0, hnumber, ?_⟩
    rw [hzero, ordinal]
    split
    case isTrue hnegative => rw [hsign hnegative]; rfl
    case isFalse => omega

theorem zero_le_ofNat (n : Nat) : 0 ≤ ofNat n :=
  zero_le_iff.mpr ⟨isNaN_ofNat n, fun hnegative => by cases hnegative⟩

theorem zero_le_ofRatio {negative : Bool} (hden : 0 < den) (hsign : negative = true → num = 0) :
    0 ≤ ofRatio negative num den := by
  refine zero_le_iff.mpr ⟨isNaN_ofRatio negative num den, fun hnegative => ?_⟩
  calc nearest num den = nearest 0 den := by rw [hsign hnegative]
    _ = 0 := nearest_zero hden

theorem ordinal_of_zero_le (hx : 0 ≤ x) : x.ordinal = x.magnitude := by
  rw [ordinal]
  split
  case isTrue hnegative => rw [(zero_le_iff.mp hx).2 hnegative]; rfl
  case isFalse => rfl

theorem le_iff_of_zero_le (hx : 0 ≤ x) (hy : 0 ≤ y) : x ≤ y ↔ x.magnitude ≤ y.magnitude := by
  rw [le_iff_ordinal hx.2.1 hy.2.1, ordinal_of_zero_le hx, ordinal_of_zero_le hy]
  exact Int.ofNat_le

theorem lt_iff_of_zero_le (hx : 0 ≤ x) (hy : 0 ≤ y) : x < y ↔ x.magnitude < y.magnitude := by
  rw [lt_iff_ordinal hx.2.1 hy.2.1, ordinal_of_zero_le hx, ordinal_of_zero_le hy]
  exact Int.ofNat_lt

/-! ## Rational values -/

/-- The rational that a finite number stands for. -/
def toRat (x : Binary64) : ℚ :=
  (if x.negative then -1 else 1) * (units x.magnitude : ℚ) / unitsPerOne

theorem toRat_of_zero_le (hx : 0 ≤ x) : x.toRat = (units x.magnitude : ℚ) / unitsPerOne := by
  rw [toRat]
  split
  case isTrue hnegative =>
      rw [(zero_le_iff.mp hx).2 hnegative, units_zero]
      simp
  case isFalse => rw [one_mul]

theorem toRat_ofNat {n : Nat} (hlt : n < 2 * stretch) : (ofNat n).toRat = n := by
  have hone : (unitsPerOne : ℚ) ≠ 0 := Nat.cast_ne_zero.mpr (Nat.ne_of_gt unitsPerOne_pos)
  rw [toRat_of_zero_le (zero_le_ofNat n), units_ofNat hlt, Nat.cast_mul,
    mul_div_cancel_right₀ _ hone]

end PackageCoverage.Binary64
