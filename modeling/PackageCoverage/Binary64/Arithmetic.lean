import PackageCoverage.Binary64.Rounding

/-!
# Multiplication and division

Both operations are the exact result rounded once, with the sign rule of
products.  Infinities and zeros follow their limits, and where there is no limit
(`0 * ∞`, `∞ / ∞`, `0 / 0`) the result is a NaN.
-/

namespace PackageCoverage.Binary64

/-- The product, rounded to nearest. -/
instance : Mul Binary64 where
  mul x y :=
    let negative := x.negative != y.negative
    if x.isNaN || y.isNaN then nan
    else if x.isInfinite || y.isInfinite then
      if x.isZero || y.isZero then nan else infinity negative
    else
      ofRatio negative (units x.magnitude * units y.magnitude) (unitsPerOne * unitsPerOne)

/-- The quotient, rounded to nearest. -/
instance : Div Binary64 where
  div x y :=
    let negative := x.negative != y.negative
    if x.isNaN || y.isNaN then nan
    else if x.isInfinite then if y.isInfinite then nan else infinity negative
    else if y.isInfinite then zero negative
    else if y.isZero then if x.isZero then nan else infinity negative
    else ofRatio negative (units x.magnitude) (units y.magnitude)

end PackageCoverage.Binary64
