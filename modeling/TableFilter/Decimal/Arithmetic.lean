import TableFilter.Decimal.Quotient

/-!
# Arithmetic on decimals

Each operation takes the exact result and keeps as many places as the bounds on decimals allow,
with ties to even. `none` is a result whose whole part is too large.

## Main definitions

* `Decimal.add?`, `Decimal.sub?`: at the larger of the two scales; adding zero changes nothing
* `Decimal.mul?`: at the sum of the scales
* `Decimal.div?`: an integral quotient of coefficients keeps the difference of the scales; any
  other is worked out until it ends or no more places fit, and loses groups of zeros at its end
-/

namespace TableFilter.Decimal

open TableFilter.Number

/-- The sum of two decimals. A zero operand leaves the other one as it is. -/
def add? (a b : Decimal) : Option Decimal :=
  if a.isZero then some b
  else if b.isZero then some a
  else
    let scale := max a.scale b.scale
    let sum :=
      a.signedCoefficient * tenTo (scale - a.scale) + b.signedCoefficient * tenTo (scale - b.scale)
    fit? (sum < 0) sum.natAbs scale

/-- The difference of two decimals. -/
def sub? (a b : Decimal) : Option Decimal :=
  if b.isZero then some (if a.isZero then b else a) else a.add? b.neg

/-- The number of places beyond which a product of two coefficients of 32 bits is plain zero. -/
def vanishingScale : Nat := 47

/-- The product of two decimals. What vanishes is a plain zero if both coefficients are of 32 bits,
and else a zero with the sign of the product. -/
def mul? (a b : Decimal) : Option Decimal :=
  let scale := a.scale + b.scale
  let product := fit? (a.negative != b.negative) (a.coefficient * b.coefficient) scale
  if a.isZero || b.isZero then some zero
  else if a.coefficient < word32 && b.coefficient < word32 then
    if vanishingScale < scale then some zero else product.map plainZero
  else product

/-- The quotient of two decimals, for a divisor other than zero. -/
def div? (a b : Decimal) : Option Decimal :=
  if a.isZero then some zero
  else
    let negative := a.negative != b.negative
    let places : Int := a.scale - b.scale
    if a.coefficient % b.coefficient == 0 then
      let q := a.coefficient / b.coefficient
      if 0 ≤ places then ofParts? negative q places.toNat
      else ofParts? negative (q * tenTo (-places).toNat) 0
    else do
      let quotient ← (PartialQuotient.start a.coefficient b.coefficient places).finish?
      let (coefficient, scale) := trimGroups quotient
      ofParts? negative coefficient scale

end TableFilter.Decimal
