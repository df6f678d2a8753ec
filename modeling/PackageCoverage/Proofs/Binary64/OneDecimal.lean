import Mathlib.Data.List.TakeWhile
import Mathlib.Tactic.Linarith
import Mathlib.Tactic.Ring
import PackageCoverage.Binary64.Decimal
import PackageCoverage.Proofs.Binary64.Exact

/-!
# One decimal

Numbers are shown with one decimal.  What is shown of a finite number without a sign is a decimal
again, whose significand are the tenths of the number (`Binary64.readDecimal?_toOneDecimal`).

* **Error.**  The tenths are rounded from the number itself, so they are at most half a tenth away
  from it (`Binary64.abs_toRat_ofTenths_sub_le`).
* **Order.**  Larger numbers have no fewer tenths (`Binary64.tenths_mono`).
* **Length.**  The text is two characters longer than the digits of the whole part
  (`Binary64.length_toOneDecimal`).
-/

namespace PackageCoverage

/-! ## Rounding to whole numbers -/

variable {num den : ℕ}

theorem le_midpoint_roundHalfEven (hden : 0 < den) :
    2 * num ≤ (2 * roundHalfEven num den + 1) * den := by
  rcases (roundHalfEven_le_iff hden (roundHalfEven num den)).mp le_rfl with hlt | ⟨heq, -⟩
  · exact hlt.le
  · exact heq.le

theorem midpoint_le_roundHalfEven (hden : 0 < den) :
    2 * roundHalfEven num den * den ≤ 2 * num + den := by
  cases hrounded : roundHalfEven num den with
  | zero =>
      rw [Nat.mul_zero, Nat.zero_mul]
      exact Nat.zero_le _
  | succ before =>
      have hbefore : ¬ roundHalfEven num den ≤ before := by omega
      rw [roundHalfEven_le_iff hden, BelowMidpoint] at hbefore
      have hmidpoint : 2 * (before + 1) * den = (2 * before + 1) * den + den := by ring
      omega

/-- Rounding a quotient to a whole number changes it by at most a half. -/
theorem abs_roundHalfEven_sub_le (num : ℕ) (hden : 0 < den) :
    |(roundHalfEven num den : ℚ) - num / den| ≤ 1 / 2 := by
  have hpos : (0 : ℚ) < den := Nat.cast_pos.mpr hden
  have hupper : (2 * num : ℚ) ≤ (2 * roundHalfEven num den + 1) * den := by
    exact_mod_cast le_midpoint_roundHalfEven hden
  have hlower : 2 * (roundHalfEven num den : ℚ) * den ≤ 2 * num + den := by
    exact_mod_cast midpoint_le_roundHalfEven hden
  -- the two midpoints, with the denominator multiplied out
  rw [abs_sub_le_iff]
  constructor
  · rw [sub_le_iff_le_add, ← sub_le_iff_le_add', le_div_iff₀ hpos]
    linarith
  · rw [sub_le_iff_le_add, div_le_iff₀ hpos]
    linarith

namespace Binary64

/-! ## Reading digits -/

/-- The value of a decimal. -/
def Decimal.toRat (decimal : Decimal) : ℚ := (decimal.num : ℚ) / decimal.den

/-- Digits around a point are read as one number, with a place behind the point for each digit
there. -/
theorem readDecimal?_append_point {whole fraction : List Char} (hne : whole ≠ [])
    (hwhole : ∀ c ∈ whole, c.isDigit = true) (hfraction : ∀ c ∈ fraction, c.isDigit = true) :
    readDecimal? (whole ++ '.' :: fraction) =
      some ⟨Nat.ofDigitChars 10 (whole ++ fraction) 0, -(fraction.length : ℤ)⟩ := by
  have hpoint : '.'.isDigit = false := by decide
  have htake : fraction.takeWhile Char.isDigit = fraction :=
    List.takeWhile_eq_self_iff.mpr hfraction
  have hdrop : fraction.dropWhile Char.isDigit = [] := List.dropWhile_eq_nil_iff.mpr hfraction
  unfold readDecimal?
  rw [List.takeWhile_append_of_pos hwhole, List.dropWhile_append_of_pos hwhole]
  simp [hpoint, htake, hdrop, hne]

/-- The number with the given tenths. -/
def ofTenths (tenths : ℕ) : Decimal := ⟨tenths, -1⟩

theorem toRat_ofTenths (tenths : ℕ) : (ofTenths tenths).toRat = (tenths : ℚ) / 10 := by
  have hnum : (ofTenths tenths).num = tenths := Nat.mul_one tenths
  have hden : (ofTenths tenths).den = 10 := rfl
  rw [Decimal.toRat, hnum, hden]
  rfl

private theorem ofDigitChars_div_append_mod (n : ℕ) :
    Nat.ofDigitChars 10 (Nat.toDigits 10 (n / 10) ++ Nat.toDigits 10 (n % 10)) 0 = n := by
  have hlength : (Nat.toDigits 10 (n % 10)).length = 1 := by
    rw [Nat.toDigits_of_lt_base (Nat.mod_lt n (by decide))]
    rfl
  rw [Nat.ofDigitChars_append, Nat.ofDigitChars_eq_ofDigitChars_zero, Nat.ofDigitChars_ten_toDigits,
    Nat.ofDigitChars_ten_toDigits, hlength]
  exact Nat.div_add_mod n 10

/-! ## Numbers with one decimal -/

variable {x : Binary64}

/-- A finite number without a sign is shown as its tenths. -/
theorem readDecimal?_toOneDecimal (hnumber : x.isNaN = false) (hfinite : x.isInfinite = false)
    (hsign : x.negative = false) :
    readDecimal? x.toOneDecimal.toList = some (ofTenths (tenths x.magnitude)) := by
  have htext : x.toOneDecimal.toList = Nat.toDigits 10 (tenths x.magnitude / 10) ++
      '.' :: Nat.toDigits 10 (tenths x.magnitude % 10) := by
    simp [toOneDecimal, toText, hnumber, hfinite, hsign]
  have hdigits : ∀ n, ∀ c ∈ Nat.toDigits 10 n, c.isDigit = true := by
    intro n c hc
    exact Nat.isDigit_of_mem_toDigits (by decide) (by decide) hc
  rw [htext, readDecimal?_append_point Nat.toDigits_ne_nil (hdigits _) (hdigits _),
    ofDigitChars_div_append_mod, Nat.toDigits_of_lt_base (Nat.mod_lt _ (by decide))]
  rfl

/-- A finite number without a sign is shown with its whole digits, a point and one more digit. -/
theorem length_toOneDecimal (hnumber : x.isNaN = false) (hfinite : x.isInfinite = false)
    (hsign : x.negative = false) :
    x.toOneDecimal.length = (Nat.toDigits 10 (tenths x.magnitude / 10)).length + 2 := by
  have hlast : (Nat.toDigits 10 (tenths x.magnitude % 10)).length = 1 := by
    rw [Nat.toDigits_of_lt_base (Nat.mod_lt _ (by decide))]
    rfl
  rw [← String.length_toList]
  simp [toOneDecimal, toText, hnumber, hfinite, hsign, hlast]

/-- The tenths of a number are at most half a tenth away from it. -/
theorem abs_toRat_ofTenths_sub_le (hx : 0 ≤ x) :
    |(ofTenths (tenths x.magnitude)).toRat - x.toRat| ≤ 1 / 20 := by
  have hrounded := abs_roundHalfEven_sub_le (10 * units x.magnitude) unitsPerOne_pos
  have hsplit : (ofTenths (tenths x.magnitude)).toRat - x.toRat =
      ((tenths x.magnitude : ℚ) - (10 * units x.magnitude : ℕ) / unitsPerOne) / 10 := by
    rw [toRat_ofTenths, toRat_of_zero_le hx]
    push_cast
    ring
  have hten : |(10 : ℚ)| = 10 := abs_of_pos (by norm_num)
  rw [hsplit, abs_div, hten, div_le_iff₀ (by norm_num)]
  refine hrounded.trans ?_
  norm_num

theorem tenths_mono : Monotone tenths := by
  intro first second hle
  have hunits : units first ≤ units second := units_strictMono.monotone hle
  refine roundHalfEven_mono unitsPerOne_pos unitsPerOne_pos ?_
  exact Nat.mul_le_mul_right _ (Nat.mul_le_mul_left 10 hunits)

end Binary64

end PackageCoverage
