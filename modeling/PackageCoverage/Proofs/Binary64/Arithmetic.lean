import PackageCoverage.Binary64.Arithmetic
import PackageCoverage.Proofs.Binary64.Nearest

/-!
# Signs and kinds of results

Rounding a quotient never leads to a NaN, and it keeps the sign.  A division or product of
numbers that are no NaNs is such a rounding, or an infinity or zero that the kinds of the
operands tell, so it is no NaN either unless there is no limit.
-/

namespace PackageCoverage.Binary64

variable {x y z : Binary64}

/-! ## Rounded quotients -/

@[simp] theorem isNaN_ofRatio (negative : Bool) (num den : Nat) :
    (ofRatio negative num den).isNaN = false :=
  decide_eq_false (Nat.not_lt.mpr (nearest_le num den))

@[simp] theorem negative_ofRatio (negative : Bool) (num den : Nat) :
    (ofRatio negative num den).negative = negative := rfl

@[simp] theorem isNaN_infinity (negative : Bool) : (infinity negative).isNaN = false := by
  cases negative <;> rfl

@[simp] theorem negative_infinity (negative : Bool) : (infinity negative).negative = negative := rfl

theorem isInfinite_of_lt (hlt : x.magnitude < infiniteMagnitude) : x.isInfinite = false := by
  rw [isInfinite, beq_eq_false_iff_ne]
  exact Nat.ne_of_lt hlt

theorem isZero_of_isInfinite (hx : x.isInfinite = true) : x.isZero = false := by
  rw [isInfinite, beq_iff_eq] at hx
  rw [isZero, hx]
  decide

@[simp] theorem isNaN_ofNat (n : Nat) : (ofNat n).isNaN = false := isNaN_ofRatio false n 1

@[simp] theorem negative_ofNat (n : Nat) : (ofNat n).negative = false := rfl

theorem magnitude_ofNat_mono {m n : Nat} (hle : m ≤ n) :
    (ofNat m).magnitude ≤ (ofNat n).magnitude :=
  nearest_mono Nat.one_pos Nat.one_pos (by omega)

/-! ## Quotients and products -/

/-- The quotient of finite numbers is their exact quotient, rounded once. -/
theorem div_eq_ofRatio (hx : x.isNaN = false) (hxfinite : x.isInfinite = false)
    (hy : y.isNaN = false) (hyfinite : y.isInfinite = false) (hyzero : y.isZero = false) :
    x / y = ofRatio (x.negative != y.negative) (units x.magnitude) (units y.magnitude) := by
  change (if x.isNaN || y.isNaN then nan else _) = _
  simp [hx, hy, hxfinite, hyfinite, hyzero]

/-- A product with a finite number other than zero is a number again, and its sign is the
product of the signs. -/
theorem mul_finite (hx : x.isNaN = false) (hy : y.isNaN = false)
    (hyfinite : y.isInfinite = false) (hyzero : y.isZero = false) :
    (x * y).isNaN = false ∧ (x * y).negative = (x.negative != y.negative) := by
  change (if x.isNaN || y.isNaN then nan else _ : Binary64).isNaN = false ∧
    (if x.isNaN || y.isNaN then nan else _ : Binary64).negative = _
  cases hxfinite : x.isInfinite with
  | true =>
      have hxzero := isZero_of_isInfinite hxfinite
      simp [hx, hy, hyzero, hxzero]
  | false => simp [hx, hy, hyfinite]

/-- The product of finite numbers is their exact product, rounded once. -/
theorem mul_eq_ofRatio (hx : x.isNaN = false) (hxfinite : x.isInfinite = false)
    (hy : y.isNaN = false) (hyfinite : y.isInfinite = false) :
    x * y = ofRatio (x.negative != y.negative) (units x.magnitude * units y.magnitude)
      (unitsPerOne * unitsPerOne) := by
  change (if x.isNaN || y.isNaN then nan else _) = _
  simp [hx, hy, hxfinite, hyfinite]

/-! ## Larger operands -/

theorem unitsPerOne_pos : 0 < unitsPerOne := by
  rw [unitsPerOne, Nat.one_shiftLeft]
  exact Nat.two_pow_pos 1074

theorem units_pos (hx : x.isZero = false) : 0 < units x.magnitude := by
  have hmagnitude : 0 < x.magnitude := by
    rw [isZero, beq_eq_false_iff_ne] at hx
    exact Nat.pos_of_ne_zero hx
  calc 0 = units 0 := rfl
    _ < units x.magnitude := units_strictMono hmagnitude

theorem magnitude_le_of_isNaN (hx : x.isNaN = false) : x.magnitude ≤ infiniteMagnitude :=
  Nat.le_of_not_lt (of_decide_eq_false hx)

theorem magnitude_mul_mono (hx : x.isNaN = false) (hy : y.isNaN = false) (hz : z.isNaN = false)
    (hzfinite : z.isInfinite = false) (hzzero : z.isZero = false)
    (hle : x.magnitude ≤ y.magnitude) : (x * z).magnitude ≤ (y * z).magnitude := by
  cases hyfinite : y.isInfinite with
  | true =>
      -- nothing is larger than the product with an infinity, which is an infinity
      have hyzero := isZero_of_isInfinite hyfinite
      have hinfinity : y * z = infinity (y.negative != z.negative) := by
        change (if y.isNaN || z.isNaN then nan else _) = _
        simp [hy, hz, hyfinite, hyzero, hzzero]
      rw [hinfinity]
      exact magnitude_le_of_isNaN (mul_finite hx hz hzfinite hzzero).1
  | false =>
      have hxfinite : x.isInfinite = false := by
        have hlimit := magnitude_le_of_isNaN hy
        rw [isInfinite, beq_eq_false_iff_ne] at hyfinite ⊢
        omega
      have hunits : units x.magnitude ≤ units y.magnitude := units_strictMono.monotone hle
      have hone : 0 < unitsPerOne * unitsPerOne := Nat.mul_pos unitsPerOne_pos unitsPerOne_pos
      rw [mul_eq_ofRatio hx hxfinite hz hzfinite, mul_eq_ofRatio hy hyfinite hz hzfinite]
      refine nearest_mono hone hone ?_
      exact Nat.mul_le_mul_right _ (Nat.mul_le_mul_right _ hunits)

end PackageCoverage.Binary64
