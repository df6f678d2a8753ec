/-!
# Binary64 numbers

A number of the IEEE 754 format binary64 is its sign and its *magnitude*, the 63
bits below the sign read as one natural number.  Finite magnitudes are numbered
in the order of the values they denote, so comparing numbers is comparing
integers (`Binary64.ordinal`), and the successor of a magnitude is the next
representable value.

Every finite value is a whole number of *units*, `2 ^ -1074` each
(`Binary64.units`).  All arithmetic on finite numbers is exact arithmetic on
units followed by one rounding.
-/

namespace PackageCoverage

/-- The sign and the magnitude of a binary64 number. -/
structure Binary64 where
  /-- Whether the sign bit is set; zeros and NaNs have one too. -/
  negative : Bool
  magnitude : Nat
  magnitude_lt : magnitude < 0x8000000000000000
deriving DecidableEq

namespace Binary64

/-! ## Bits -/

/-- The number that 64 bits stand for. -/
def ofBits (bits : UInt64) : Binary64 where
  negative := decide (0x8000000000000000 ≤ bits.toNat)
  magnitude := bits.toNat % 0x8000000000000000
  magnitude_lt := Nat.mod_lt _ (by decide)

/-- The 64 bits of a number. -/
def toBits (x : Binary64) : UInt64 :=
  UInt64.ofNat (if x.negative then 0x8000000000000000 + x.magnitude else x.magnitude)

/-! ## Kinds of numbers -/

/-- The number of magnitudes with the same leading bits, `2 ^ 52`: those that differ
only in the bits of the fraction. -/
def stretch : Nat := 0x10000000000000

/-- The magnitude of the infinities; those beyond it belong to NaNs. -/
def infiniteMagnitude : Nat := 2047 * stretch

/-- Whether a number is not a number. -/
def isNaN (x : Binary64) : Bool := infiniteMagnitude < x.magnitude

/-- Whether a number is one of the two infinities. -/
def isInfinite (x : Binary64) : Bool := x.magnitude == infiniteMagnitude

/-- Whether a number is one of the two zeros. -/
def isZero (x : Binary64) : Bool := x.magnitude == 0

/-- The infinity of a sign. -/
def infinity (negative : Bool) : Binary64 := ⟨negative, infiniteMagnitude, by decide⟩

/-- The zero of a sign. -/
def zero (negative : Bool) : Binary64 := ⟨negative, 0, by decide⟩

/-- The quiet NaN without a payload. -/
def nan : Binary64 := ⟨false, infiniteMagnitude + stretch / 2, by decide⟩

/-! ## Values -/

/-- The value `1` in units, `2 ^ 1074`. -/
def unitsPerOne : Nat := 1 <<< 1074

/-- The value of a finite magnitude in units.  The magnitudes of the first stretch
count units one by one.  Each later stretch goes from a power of two to the next,
and from the third on in steps twice as wide as those of the stretch before. -/
def units (magnitude : Nat) : Nat :=
  if magnitude < stretch then magnitude
  else (stretch + magnitude % stretch) <<< (magnitude / stretch - 1)

/-! ## Order -/

/-- The place of a number among the integers, which is its place by value; both
zeros are at `0`. -/
def ordinal (x : Binary64) : Int :=
  if x.negative then -(x.magnitude : Int) else x.magnitude

/-- Numbers compare by value, and nothing compares with a NaN. -/
instance : LE Binary64 :=
  ⟨fun x y => x.isNaN = false ∧ y.isNaN = false ∧ x.ordinal ≤ y.ordinal⟩

instance : LT Binary64 :=
  ⟨fun x y => x.isNaN = false ∧ y.isNaN = false ∧ x.ordinal < y.ordinal⟩

instance (x y : Binary64) : Decidable (x ≤ y) :=
  inferInstanceAs (Decidable (x.isNaN = false ∧ y.isNaN = false ∧ x.ordinal ≤ y.ordinal))

instance (x y : Binary64) : Decidable (x < y) :=
  inferInstanceAs (Decidable (x.isNaN = false ∧ y.isNaN = false ∧ x.ordinal < y.ordinal))

/-- The place of a number in the total order of binary64, where the negative
zero comes just before the positive one and NaNs lie beyond the infinities. -/
def rank (x : Binary64) : Int :=
  if x.negative then -(x.magnitude : Int) - 1 else x.magnitude

/-- Whether `x` comes no later than `y` in the total order. -/
def precedes (x y : Binary64) : Bool := x.rank ≤ y.rank

end Binary64

end PackageCoverage
