import PackageCoverage.Binary64.Rounding

/-!
# Decimal text of binary64 numbers

Two texts are written and one is read.

* `toOneDecimal` writes the value rounded to tenths, exactly and with ties to
  even.
* `toShortest` writes the fewest digits that read back as the same number,
  always in positional notation.  It looks for the coarsest power of ten that
  has a multiple reading back, and among the two multiples next to the value
  takes the nearer one, the upper one if both are as near.
* `read?` reads digits, a point and an exponent, or the name of an infinity or a
  NaN, and rounds to nearest.
-/

namespace PackageCoverage.Binary64

/-- The words for numbers that have no digits, and otherwise the sign in front
of the digits of the magnitude. -/
def toText (digits : Nat → String) (x : Binary64) : String :=
  if x.isNaN then "NaN"
  else
    (if x.negative then "-" else "") ++
      (if x.isInfinite then "inf" else digits x.magnitude)

/-! ## One decimal -/

/-- The value of a finite magnitude in tenths. -/
def tenths (magnitude : Nat) : Nat := roundHalfEven (10 * units magnitude) unitsPerOne

/-- The value rounded to one decimal. -/
def toOneDecimal (x : Binary64) : String :=
  x.toText fun magnitude =>
    let value := tenths magnitude
    toString (value / 10) ++ "." ++ toString (value % 10)

/-! ## Fewest digits -/

/-- The power of ten with a natural exponent. -/
def powerOfTen (exponent : Nat) : Nat := Nat.pow 10 exponent

/-- A decimal `significand * 10 ^ exponent`. -/
structure Decimal where
  significand : Nat
  exponent : Int

namespace Decimal

/-- The numerator of a decimal as a fraction. -/
def num (decimal : Decimal) : Nat := decimal.significand * powerOfTen decimal.exponent.toNat

/-- The denominator of a decimal as a fraction, a power of ten. -/
def den (decimal : Decimal) : Nat := powerOfTen (-decimal.exponent).toNat

/-- Positional notation, without zeros at the end of the fraction and without a
point where nothing follows it. -/
def toText (decimal : Decimal) : String :=
  let whole := toString (decimal.num / decimal.den)
  let digits := Nat.toDigits 10 (decimal.num % decimal.den)
  let places := (-decimal.exponent).toNat
  let fraction := List.replicate (places - digits.length) '0' ++ digits
  let fraction := (fraction.reverse.dropWhile (· == '0')).reverse
  if fraction.isEmpty then whole else whole ++ "." ++ String.ofList fraction

end Decimal

/-- The multiple of `10 ^ exponent` that reads back as a magnitude, if there is
one, and the one nearer to the value if there are two. -/
def readingBack? (magnitude : Nat) (exponent : Int) : Option Decimal :=
  let num := units magnitude * powerOfTen (-exponent).toNat
  let den := unitsPerOne * powerOfTen exponent.toNat
  let lower : Decimal := ⟨num / den, exponent⟩
  let upper : Decimal := ⟨num / den + 1, exponent⟩
  let readsBack (decimal : Decimal) : Bool := nearest decimal.num decimal.den == magnitude
  match readsBack lower, readsBack upper with
  | true, true => if 2 * (num % den) < den then some lower else some upper
  | true, false => some lower
  | false, true => some upper
  | false, false => none

/-- The decimal with the fewest digits that reads back as a magnitude.  The
search goes from the power of ten above the value down to one unit, where the
value itself is found. -/
def shortest (magnitude : Nat) : Decimal :=
  let value := units magnitude
  let highest := (Nat.toDigits 10 (value / unitsPerOne)).length
  let exponents := (List.range (highest + 1075)).map fun step : Nat => (highest : Int) - step
  (exponents.findSome? (readingBack? magnitude)).getD ⟨value * Nat.pow 5 1074, -1074⟩

/-- The fewest digits that read back as the number. -/
def toShortest (x : Binary64) : String :=
  x.toText fun magnitude => if magnitude = 0 then "0" else (shortest magnitude).toText

/-! ## Reading -/

/-- The number nearest to a decimal.  Far outside the range of binary64 the
power of ten is not computed. -/
def ofDecimal (negative : Bool) (decimal : Decimal) : Binary64 :=
  let top := (Nat.toDigits 10 decimal.significand).length + decimal.exponent
  if decimal.significand = 0 ∨ top < -330 then zero negative
  else if 310 < top then infinity negative
  else ofRatio negative decimal.num decimal.den

/-- The integer that digits with an optional sign write, and nothing else. -/
def readExponent? (text : List Char) : Option Int :=
  let (negative, digits) := match text with
    | '+' :: rest => (false, rest)
    | '-' :: rest => (true, rest)
    | _ => (false, text)
  if digits.isEmpty || !digits.all Char.isDigit then none
  else
    let value : Int := Nat.ofDigitChars 10 digits 0
    some (if negative then -value else value)

/-- The decimal that unsigned text writes: digits with at most one point among
or around them, and then perhaps `e` or `E` and an integer. -/
def readDecimal? (text : List Char) : Option Decimal := do
  let whole := text.takeWhile Char.isDigit
  let afterWhole := text.dropWhile Char.isDigit
  let (fraction, afterFraction) := match afterWhole with
    | '.' :: rest => (rest.takeWhile Char.isDigit, rest.dropWhile Char.isDigit)
    | _ => ([], afterWhole)
  let digits := whole ++ fraction
  if digits.isEmpty then none
  let exponent ← match afterFraction with
    | [] => some 0
    | mark :: rest => if mark = 'e' ∨ mark = 'E' then readExponent? rest else none
  some ⟨Nat.ofDigitChars 10 digits 0, exponent - fraction.length⟩

/-- The number that text writes: an optional sign, and then digits or, in
letters of either case, `inf`, `infinity` or `nan`. -/
def read? (text : List Char) : Option Binary64 :=
  let (negative, unsigned) := match text with
    | '+' :: rest => (false, rest)
    | '-' :: rest => (true, rest)
    | _ => (false, text)
  let word := String.ofList (unsigned.map Char.toLower)
  if word = "inf" ∨ word = "infinity" then some (infinity negative)
  else if word = "nan" then some ⟨negative, nan.magnitude, nan.magnitude_lt⟩
  else (readDecimal? unsigned).map (ofDecimal negative)

end PackageCoverage.Binary64
