import PackageCoverage.Binary64.Basic

/-!
# Rounding to nearest, ties to even

`roundHalfEven` rounds a quotient of naturals to the nearest natural, and
`nearest` rounds it to the nearest binary64 magnitude.  The second is the first
on a grid: the quotient in units lies between two neighbouring magnitudes whose
spacing is a power of two that its leading bit tells.
-/

namespace PackageCoverage

/-- The natural number nearest to `num / den`, the even one of two that are
equally near. -/
def roundHalfEven (num den : Nat) : Nat :=
  let quotient := num / den
  let twice := 2 * (num % den)
  if twice < den ∨ twice = den ∧ quotient % 2 = 0 then quotient else quotient + 1

namespace Binary64

/-- The bits by which a value of `units` units exceeds the 53 that a magnitude
can tell apart. -/
def excessBits (units : Nat) : Nat := units.log2 - 52

/-- The magnitude nearest to `num / den`, the even one of two that are equally
near.  From half a step beyond the largest finite magnitude on it is that of
infinity. -/
def nearest (num den : Nat) : Nat :=
  let scaled := num * unitsPerOne
  let excess := excessBits (scaled / den)
  min infiniteMagnitude (roundHalfEven scaled (den <<< excess) + excess * stretch)

theorem nearest_le (num den : Nat) : nearest num den ≤ infiniteMagnitude :=
  Nat.min_le_left _ _

/-- The number of a sign whose magnitude is nearest to `num / den`. -/
def ofRatio (negative : Bool) (num den : Nat) : Binary64 where
  negative := negative
  magnitude := nearest num den
  magnitude_lt := Nat.lt_of_le_of_lt (nearest_le num den) (by decide)

/-- The number nearest to a natural number. -/
def ofNat (n : Nat) : Binary64 := ofRatio false n 1

instance (n : Nat) : OfNat Binary64 n := ⟨ofNat n⟩

/-- The number nearest to an integer; zero is positive. -/
def ofInt (n : Int) : Binary64 := ofRatio (decide (n < 0)) n.natAbs 1

end Binary64

end PackageCoverage
