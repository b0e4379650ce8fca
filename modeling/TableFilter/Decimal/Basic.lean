import TableFilter.Number.Rounding

/-!
# Decimals with a scale

A decimal is a sign, a coefficient below `2 ^ 96` and a scale of at most 28 places. It stands for
`± coefficient / 10 ^ scale`; the scale is kept, so `1.10` and `1.1` are equal in value only, and a
zero may carry a minus sign.

## Main definitions

* `Decimal`, `Decimal.ofSignedParts?`, `Decimal.ofParts?`: the type and its checked constructors
* `Decimal.compareValues`: order of the numbers stood for
* `Decimal.truncate`, `floor`, `ceiling`, `round`: integral parts
* `Decimal.fit?`: an exact number brought within the bounds by dropping places, ties to even
-/

namespace TableFilter

open TableFilter.Number

/-- Coefficients are below two to the power of 96. -/
def Decimal.coefficientBound : Nat := 79228162514264337593543950336

/-- The number `± coefficient / 10 ^ scale`. -/
structure Decimal where
  negative : Bool
  coefficient : Nat
  scale : Nat
  coefficient_lt : coefficient < Decimal.coefficientBound
  scale_le : scale ≤ 28
deriving DecidableEq

namespace Decimal

/-- The decimal with given parts, if they are within the bounds. A zero keeps its sign. -/
def ofSignedParts? (negative : Bool) (coefficient scale : Nat) : Option Decimal :=
  if h : coefficient < coefficientBound ∧ scale ≤ 28 then
    some ⟨negative, coefficient, scale, h.1, h.2⟩
  else none

/-- The decimal with given parts, if they are within the bounds. A zero made here has no minus
sign. -/
def ofParts? (negative : Bool) (coefficient scale : Nat) : Option Decimal :=
  ofSignedParts? (negative && coefficient != 0) coefficient scale

/-- Zero with no places. -/
def zero : Decimal := ⟨false, 0, 0, by decide, by decide⟩

instance : Inhabited Decimal := ⟨zero⟩

/-- Whether a decimal stands for zero. -/
def isZero (d : Decimal) : Bool := d.coefficient == 0

/-- The coefficient with the sign. -/
def signedCoefficient (d : Decimal) : Int :=
  if d.negative then -(d.coefficient : Int) else d.coefficient

/-- An integer as a decimal with no places, if it is within the bounds. -/
def ofInt? (i : Int) : Option Decimal := ofParts? (i < 0) i.natAbs 0

/-- The order of the numbers that two decimals stand for. -/
def compareValues (a b : Decimal) : Ordering :=
  compare (a.signedCoefficient * tenTo b.scale) (b.signedCoefficient * tenTo a.scale)

/-- Whether two decimals stand for one number. -/
def sameValue (a b : Decimal) : Bool := a.compareValues b == .eq

/-! ### Sign -/

/-- The other sign, of a zero too. -/
def neg (d : Decimal) : Decimal := { d with negative := !d.negative }

/-- A decimal without its sign. -/
def abs (d : Decimal) : Decimal := { d with negative := false }

/-- A decimal that has no minus sign if it is zero. -/
def plainZero (d : Decimal) : Decimal := { d with negative := d.negative && !d.isZero }

/-! ### Integral parts -/

/-- The whole part of the coefficient. -/
def whole (d : Decimal) : Nat := d.coefficient / tenTo d.scale

/-- What the coefficient has beyond its whole part. -/
def fraction (d : Decimal) : Nat := d.coefficient % tenTo d.scale

theorem whole_lt (d : Decimal) : d.whole < coefficientBound :=
  Nat.lt_of_le_of_lt (Nat.div_le_self _ _) d.coefficient_lt

theorem whole_succ_lt (d : Decimal) (h : d.scale ≠ 0) : d.whole + 1 < coefficientBound := by
  have hc := d.coefficient_lt
  have hd : d.whole ≤ d.coefficient / 10 :=
    Nat.div_le_div_left (ten_le_tenTo h) (by decide)
  simp only [coefficientBound] at *
  omega

/-- The integral part toward zero. It keeps the sign, of a zero too. -/
def truncate (d : Decimal) : Decimal := ⟨d.negative, d.whole, 0, d.whole_lt, by decide⟩

/-- The integral part away from zero, for a decimal with places. -/
def awayFromZero (d : Decimal) (h : d.scale ≠ 0) : Decimal :=
  ⟨d.negative, d.whole + 1, 0, d.whole_succ_lt h, by decide⟩

/-- The largest integral decimal not above a decimal. -/
def floor (d : Decimal) : Decimal :=
  if h : d.scale = 0 then d
  else if d.negative && d.fraction != 0 then d.awayFromZero h
  else d.truncate

/-- The least integral decimal not below a decimal. -/
def ceiling (d : Decimal) : Decimal :=
  if h : d.scale = 0 then d
  else if !d.negative && d.fraction != 0 then d.awayFromZero h
  else d.truncate

/-- The nearest integral decimal, ties away from zero. What rounds to zero loses its sign. -/
def round (d : Decimal) : Decimal :=
  if h : d.scale = 0 then d
  else if tenTo d.scale ≤ 2 * d.fraction then d.awayFromZero h
  else if d.whole == 0 && !d.isZero then d.truncate.abs
  else d.truncate

/-- The integral part toward zero, as an integer. -/
def toInt (d : Decimal) : Int := if d.negative then -(d.whole : Int) else d.whole

/-! ### Bringing exact numbers within the bounds -/

/-- `± n / 10 ^ scale` with as many of its places as the bounds allow; dropped places round to
even. What vanishes with them is a zero with its sign. -/
def fit? (negative : Bool) (n scale : Nat) : Option Decimal :=
  (List.range (scale + 1)).findSome? fun dropped =>
    ofSignedParts? negative (roundHalfEven n (tenTo dropped)) (scale - dropped)

/-- The least coefficient and scale of `n / 10 ^ scale`. -/
def stripZeros (n : Nat) : Nat → Nat × Nat
  | 0 => (n, 0)
  | scale + 1 => if n % 10 == 0 then stripZeros (n / 10) scale else (n, scale + 1)

/-- The same number without zeros at the end of its places. -/
def stripped (d : Decimal) : Decimal :=
  let (n, scale) := stripZeros d.coefficient d.scale
  (ofParts? d.negative n scale).getD d

end Decimal

end TableFilter
