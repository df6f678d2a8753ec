import Mathlib.Order.Monotone.Basic
import PackageCoverage.Binary64.Rounding

/-!
# Rounding by midpoints

A quotient is rounded to at most `m` just when it lies below the midpoint between `m` and
the next value, or on the midpoint if `m` is even.  This one fact says all about rounding,
for naturals (`roundHalfEven_le_iff`) and for binary64 magnitudes (`nearest_le_iff`), and
monotonicity (`nearest_mono`) follows from it at once.

The second is the first on a grid.  All magnitudes from one power of two to the next are
on one grid (`units_grid`), the grid on which a quotient is rounded is the one it lies on
(`excessBits_spec`), and a magnitude outside of that grid lies with its midpoint on one
side of the quotient.
-/

namespace PackageCoverage

/-! ## Midpoints -/

/-- The quotient `num / den` lies below the midpoint that is half of `twice`, or on it
while the value `m` in front of it is even. -/
def BelowMidpoint (num den twice m : Nat) : Prop :=
  2 * num < twice * den ∨ 2 * num = twice * den ∧ m % 2 = 0

/-- A smaller quotient lies below the midpoints that a larger one lies below. -/
theorem BelowMidpoint.of_le {num₁ den₁ num₂ den₂ twice m : Nat} (hden₁ : 0 < den₁)
    (hden₂ : 0 < den₂) (hle : num₁ * den₂ ≤ num₂ * den₁)
    (hbelow : BelowMidpoint num₂ den₂ twice m) : BelowMidpoint num₁ den₁ twice m := by
  have hcross : 2 * num₁ * den₂ ≤ 2 * num₂ * den₁ := by
    rw [Nat.mul_assoc, Nat.mul_assoc]
    exact Nat.mul_le_mul_left 2 hle
  -- from the midpoint itself, a smaller quotient may or may not get in front of it
  rcases hbelow with hlt | ⟨heq, heven⟩
  · left
    refine Nat.lt_of_mul_lt_mul_right (a := den₂) ?_
    calc 2 * num₁ * den₂ ≤ 2 * num₂ * den₁ := hcross
      _ < twice * den₂ * den₁ := Nat.mul_lt_mul_of_pos_right hlt hden₁
      _ = twice * den₁ * den₂ := Nat.mul_right_comm _ _ _
  · have hle₁ : 2 * num₁ ≤ twice * den₁ := by
      refine Nat.le_of_mul_le_mul_right ?_ hden₂
      calc 2 * num₁ * den₂ ≤ 2 * num₂ * den₁ := hcross
        _ = twice * den₂ * den₁ := by rw [heq]
        _ = twice * den₁ * den₂ := Nat.mul_right_comm _ _ _
    exact (Nat.lt_or_eq_of_le hle₁).imp_right fun heq₁ => ⟨heq₁, heven⟩

variable {num den : Nat}

/-- A quotient less than some value lies below the midpoints from this value on. -/
theorem BelowMidpoint.of_div_lt {bound twice m : Nat} (hden : 0 < den) (hlt : num / den < bound)
    (htwice : 2 * bound ≤ twice) : BelowMidpoint num den twice m := by
  have hnum : num < bound * den := (Nat.div_lt_iff_lt_mul hden).mp hlt
  left
  calc 2 * num < 2 * (bound * den) := by omega
    _ = 2 * bound * den := (Nat.mul_assoc _ _ _).symm
    _ ≤ twice * den := Nat.mul_le_mul_right den htwice

/-- A quotient of at least some value lies above the midpoints in front of this value. -/
theorem BelowMidpoint.not_of_le_div {bound twice m : Nat} (hden : 0 < den)
    (hle : bound ≤ num / den) (htwice : twice < 2 * bound) : ¬ BelowMidpoint num den twice m := by
  have hnum : bound * den ≤ num := (Nat.le_div_iff_mul_le hden).mp hle
  have hlt : twice * den < 2 * num := by
    calc twice * den < 2 * bound * den := Nat.mul_lt_mul_of_pos_right htwice hden
      _ = 2 * (bound * den) := Nat.mul_assoc _ _ _
      _ ≤ 2 * num := Nat.mul_le_mul_left 2 hnum
  unfold BelowMidpoint
  omega

/-- A quotient is rounded to at most `m` below the midpoint of `m` and `m + 1`. -/
theorem roundHalfEven_le_iff (hden : 0 < den) (m : Nat) :
    roundHalfEven num den ≤ m ↔ BelowMidpoint num den (2 * m + 1) m := by
  have hdivmod := Nat.div_add_mod' num den
  have hmod := Nat.mod_lt num hden
  have hmidpoint : (2 * m + 1) * den = 2 * (m * den) + den := by
    rw [Nat.add_mul, Nat.one_mul, Nat.mul_assoc]
  unfold roundHalfEven BelowMidpoint
  rcases Nat.lt_trichotomy m (num / den) with hlt | heq | hgt
  -- the whole part of the quotient is behind `m`, or `m` itself, or in front of it
  · have hnext := Nat.mul_le_mul_right den (Nat.succ_le_of_lt hlt)
    rw [Nat.succ_mul] at hnext
    dsimp only
    split <;> omega
  · subst heq
    dsimp only
    split <;> omega
  · have hnext := Nat.mul_le_mul_right den (Nat.succ_le_of_lt hgt)
    rw [Nat.succ_mul] at hnext
    dsimp only
    split <;> omega

theorem roundHalfEven_mono {num₁ den₁ num₂ den₂ : Nat} (hden₁ : 0 < den₁) (hden₂ : 0 < den₂)
    (hle : num₁ * den₂ ≤ num₂ * den₁) : roundHalfEven num₁ den₁ ≤ roundHalfEven num₂ den₂ := by
  rw [roundHalfEven_le_iff hden₁]
  exact BelowMidpoint.of_le hden₁ hden₂ hle ((roundHalfEven_le_iff hden₂ _).mp le_rfl)

namespace Binary64

/-! ## Grids -/

theorem stretch_pos : 0 < stretch := by decide

theorem stretch_even : stretch % 2 = 0 := by decide

private theorem units_of_stretch_le {excess rest : Nat} (hrest : rest < stretch) :
    units ((excess + 1) * stretch + rest) = (stretch + rest) <<< excess := by
  have hdiv : ((excess + 1) * stretch + rest) / stretch = excess + 1 := by
    rw [Nat.mul_comm, Nat.mul_add_div stretch_pos, Nat.div_eq_of_lt hrest, Nat.add_zero]
  have hmod : ((excess + 1) * stretch + rest) % stretch = rest := by
    rw [Nat.mul_comm, Nat.mul_add_mod, Nat.mod_eq_of_lt hrest]
  have hlarge : ¬ (excess + 1) * stretch + rest < stretch := by
    rw [Nat.succ_mul]
    omega
  rw [units, if_neg hlarge, hdiv, hmod, Nat.add_sub_cancel]

/-- On the grid of steps of `2 ^ excess` units, the magnitude `k` steps behind the start of
the grid has the value of `k` steps. -/
theorem units_grid {excess k : Nat} (hlow : excess = 0 ∨ stretch ≤ k) (hhigh : k ≤ 2 * stretch) :
    units (excess * stretch + k) = k <<< excess := by
  by_cases hfirst : k < stretch
  · obtain rfl : excess = 0 := hlow.resolve_right (by omega)
    simp [units, hfirst]
  · rcases Nat.lt_or_eq_of_le hhigh with hinner | rfl
    · have hsplit : excess * stretch + k = (excess + 1) * stretch + (k - stretch) := by
        simp only [Nat.add_mul, Nat.one_mul]
        omega
      rw [hsplit, units_of_stretch_le (by omega), Nat.add_sub_of_le (by omega)]
    -- the end of a grid is where the next one starts
    · have hend : excess * stretch + 2 * stretch = (excess + 1 + 1) * stretch + 0 := by
        simp only [Nat.add_mul, Nat.one_mul]
        omega
      rw [hend, units_of_stretch_le stretch_pos, Nat.add_zero, Nat.shiftLeft_succ_inside]

/-- Every magnitude is on a grid, in front of its end. -/
theorem exists_grid (magnitude : Nat) :
    ∃ excess k, magnitude = excess * stretch + k ∧ (excess = 0 ∨ stretch ≤ k) ∧
      k < 2 * stretch := by
  have hdivmod := Nat.div_add_mod' magnitude stretch
  have hmod := Nat.mod_lt magnitude stretch_pos
  -- the first two stretches share the grid of single units
  cases hdiv : magnitude / stretch with
  | zero =>
      refine ⟨0, magnitude, by simp, .inl rfl, ?_⟩
      rw [hdiv] at hdivmod
      omega
  | succ excess =>
      refine ⟨excess, stretch + magnitude % stretch, ?_, .inr (by omega), by omega⟩
      rw [hdiv, Nat.succ_mul] at hdivmod
      omega

theorem units_strictMono : StrictMono units := by
  refine strictMono_nat_of_lt_succ fun magnitude => ?_
  obtain ⟨excess, k, rfl, hlow, hhigh⟩ := exists_grid magnitude
  rw [Nat.add_assoc, units_grid hlow (by omega), units_grid (by omega) (by omega),
    Nat.shiftLeft_eq, Nat.shiftLeft_eq]
  exact Nat.mul_lt_mul_of_pos_right (Nat.lt_succ_self k) (Nat.two_pow_pos excess)

/-- A value has the excess of the grid that it lies on. -/
theorem excessBits_spec (value : Nat) :
    (excessBits value = 0 ∨ stretch <<< excessBits value ≤ value) ∧
      value < (2 * stretch) <<< excessBits value := by
  have hstretch : stretch = 2 ^ 52 := by decide
  have hdouble : 2 * stretch = 2 ^ 53 := by decide
  rw [hdouble, hstretch, Nat.shiftLeft_eq, Nat.shiftLeft_eq, ← Nat.pow_add, ← Nat.pow_add]
  have hupper : value < 2 ^ (value.log2 + 1) := Nat.lt_log2_self
  -- 53 bits or less fit as they are
  by_cases hsmall : value.log2 ≤ 52
  · have hexcess : excessBits value = 0 := Nat.sub_eq_zero_of_le hsmall
    rw [hexcess]
    exact ⟨.inl rfl, Nat.lt_of_lt_of_le hupper (Nat.pow_le_pow_right (by decide) (by omega))⟩
  · have hexponent : 52 + excessBits value = value.log2 := by
      unfold excessBits
      omega
    have hne : value ≠ 0 := by
      rintro rfl
      simp at hsmall
    rw [hexponent, show 53 + excessBits value = value.log2 + 1 by omega]
    exact ⟨.inr (Nat.log2_self_le hne), hupper⟩

/-! ## Magnitudes -/

/-- Rounding to a grid has its midpoints between the steps of the grid. -/
private theorem roundHalfEven_grid_le_iff (hden : 0 < den) (excess k : Nat) :
    roundHalfEven num (den <<< excess) ≤ k ↔
      BelowMidpoint num den ((2 * k + 1) <<< excess) k := by
  have hstep : 0 < den <<< excess := by
    rw [Nat.shiftLeft_eq]
    exact Nat.mul_pos hden (Nat.two_pow_pos excess)
  have hmidpoint : (2 * k + 1) * den <<< excess = (2 * k + 1) <<< excess * den := by
    simp only [Nat.shiftLeft_eq]
    rw [Nat.mul_right_comm, Nat.mul_assoc]
  rw [roundHalfEven_le_iff hstep, BelowMidpoint, BelowMidpoint, hmidpoint]

/-- Rounding to the grid that a quotient lies on does not lead off the grid. -/
private theorem roundHalfEven_grid_bounds (hden : 0 < den) {excess : Nat}
    (hlower : excess = 0 ∨ stretch <<< excess ≤ num / den)
    (hupper : num / den < (2 * stretch) <<< excess) :
    (excess = 0 ∨ stretch ≤ roundHalfEven num (den <<< excess)) ∧
      roundHalfEven num (den <<< excess) ≤ 2 * stretch := by
  have hstretch := stretch_pos
  constructor
  -- rounding below the start of the grid would take a quotient in front of it
  · refine hlower.imp_right fun hle => Nat.le_of_not_lt fun hlt => ?_
    have hrounded : roundHalfEven num (den <<< excess) ≤ stretch - 1 := by omega
    rw [roundHalfEven_grid_le_iff hden] at hrounded
    refine BelowMidpoint.not_of_le_div hden hle ?_ hrounded
    rw [Nat.shiftLeft_eq, Nat.shiftLeft_eq, ← Nat.mul_assoc]
    exact Nat.mul_lt_mul_of_pos_right (by omega) (Nat.two_pow_pos excess)
  · rw [roundHalfEven_grid_le_iff hden]
    refine BelowMidpoint.of_div_lt hden hupper ?_
    rw [Nat.shiftLeft_eq, Nat.shiftLeft_eq, ← Nat.mul_assoc]
    exact Nat.mul_le_mul_right (2 ^ excess) (Nat.le_succ _)

/-- Rounding to the grid that a quotient lies on has its midpoints between magnitudes. -/
private theorem grid_le_iff (hden : 0 < den) {excess : Nat}
    (hlower : excess = 0 ∨ stretch <<< excess ≤ num / den)
    (hupper : num / den < (2 * stretch) <<< excess) (magnitude : Nat) :
    roundHalfEven num (den <<< excess) + excess * stretch ≤ magnitude ↔
      BelowMidpoint num den (units magnitude + units (magnitude + 1)) magnitude := by
  have hnext : units magnitude < units (magnitude + 1) := units_strictMono (Nat.lt_succ_self _)
  obtain ⟨hfirst, hlast⟩ := roundHalfEven_grid_bounds hden hlower hupper
  by_cases hfront : excess ≠ 0 ∧ magnitude < excess * stretch + stretch
  -- the magnitude is in front of the grid, and its midpoint in front of the quotient
  · obtain ⟨hexcess, hmagnitude⟩ := hfront
    have hstart : units (magnitude + 1) ≤ stretch <<< excess := by
      rw [← units_grid (.inr le_rfl) (by omega)]
      exact units_strictMono.monotone hmagnitude
    refine iff_of_false (by omega) ?_
    exact BelowMidpoint.not_of_le_div hden (hlower.resolve_left hexcess) (by omega)
  · by_cases hback : excess * stretch + 2 * stretch ≤ magnitude
    -- the magnitude is behind the grid, and its midpoint behind the quotient
    · have hend : (2 * stretch) <<< excess ≤ units magnitude := by
        rw [← units_grid (.inr (by omega)) le_rfl]
        exact units_strictMono.monotone hback
      refine iff_of_true (by omega) ?_
      exact BelowMidpoint.of_div_lt hden hupper (by omega)
    -- the magnitude is on the grid, and its midpoint is one between two steps
    · have hbase : excess * stretch ≤ magnitude := by
        by_cases hexcess : excess = 0
        · simp [hexcess]
        · omega
      obtain ⟨k, rfl⟩ := Nat.exists_eq_add_of_le hbase
      have hlow : excess = 0 ∨ stretch ≤ k := by omega
      have htwice : units (excess * stretch + k) + units (excess * stretch + k + 1) =
          (2 * k + 1) <<< excess := by
        rw [Nat.add_assoc, units_grid hlow (by omega), units_grid (by omega) (by omega)]
        simp only [Nat.shiftLeft_eq, ← Nat.add_mul]
        congr 1
        omega
      have heven : (excess * stretch + k) % 2 = k % 2 := by
        rw [Nat.add_mod, Nat.mul_mod, stretch_even]
        simp
      rw [htwice, Nat.add_comm, Nat.add_le_add_iff_left, roundHalfEven_grid_le_iff hden,
        BelowMidpoint, BelowMidpoint, heven]

/-- A quotient is rounded to at most a finite magnitude below the midpoint of the values
of this magnitude and the next one, and on the midpoint if the magnitude is even.  The
next one may be that of infinity, which counts with the value that would come next. -/
theorem nearest_le_iff (hden : 0 < den) {magnitude : Nat}
    (hfinite : magnitude < infiniteMagnitude) :
    nearest num den ≤ magnitude ↔
      BelowMidpoint (num * unitsPerOne) den (units magnitude + units (magnitude + 1))
        magnitude := by
  obtain ⟨hlower, hupper⟩ := excessBits_spec (num * unitsPerOne / den)
  rw [← grid_le_iff hden hlower hupper, nearest]
  omega

theorem nearest_mono {num₁ den₁ num₂ den₂ : Nat} (hden₁ : 0 < den₁) (hden₂ : 0 < den₂)
    (hle : num₁ * den₂ ≤ num₂ * den₁) : nearest num₁ den₁ ≤ nearest num₂ den₂ := by
  rcases Nat.lt_or_eq_of_le (nearest_le num₂ den₂) with hfinite | hinfinite
  · rw [nearest_le_iff hden₁ hfinite]
    refine BelowMidpoint.of_le hden₁ hden₂ ?_ ((nearest_le_iff hden₂ hfinite).mp le_rfl)
    rw [Nat.mul_right_comm num₁, Nat.mul_right_comm num₂]
    exact Nat.mul_le_mul_right unitsPerOne hle
  · rw [hinfinite]
    exact nearest_le num₁ den₁

end Binary64

end PackageCoverage
