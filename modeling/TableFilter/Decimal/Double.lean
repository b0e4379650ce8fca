import TableFilter.Decimal.Basic
import TableFilter.Number.Binary64

/-!
# Decimals and doubles

A double becomes a decimal of about sixteen digits, and a decimal the double that its whole part and
its places add up to.

## Main definitions

* `Decimal.ofDouble?`: a power of two is traded for a power of ten within 96 bits, then places are
  dropped until the coefficient is of 52 bits
* `Decimal.toDouble`: whole part plus places, rounded at the last place
-/

namespace TableFilter.Decimal

open TableFilter.Binary64 TableFilter.Number

/-! ### From a double -/

/-- The number `coefficient * 10 ^ exponent` on its way to a decimal. -/
structure Scaled where
  coefficient : Nat
  exponent : Int

/-- Divides by a power of two: each two taken from the coefficient, or else made a ten by a
multiplication with five, or else, where the bits are full, taken from it with a loss. -/
def Scaled.halve (x : Scaled) : Nat → Scaled
  | 0 => x
  | k + 1 =>
    if x.coefficient % 2 == 0 || coefficientBound ≤ x.coefficient * 5 then
      Scaled.halve ⟨x.coefficient / 2, x.exponent + 1⟩ k
    else Scaled.halve ⟨x.coefficient * 5, x.exponent⟩ k

/-- Multiplies by a power of two: each by a ten less and a doubling twice over, or else, where the
bits are full, by a division by five. -/
def Scaled.double (x : Scaled) : Nat → Scaled
  | 0 => x
  | k + 1 =>
    if x.coefficient * 2 < coefficientBound then Scaled.double ⟨x.coefficient * 2, x.exponent - 1⟩ k
    else Scaled.double ⟨x.coefficient / 5, x.exponent⟩ k

/-- Uses up a positive exponent, if the bits allow it. -/
def Scaled.raise? (x : Scaled) : Nat → Option Scaled
  | 0 => some x
  | k + 1 =>
    if x.coefficient * 10 < coefficientBound then
      Scaled.raise? ⟨x.coefficient * 10, x.exponent - 1⟩ k
    else none

/-- One place fewer, a half rounded up. -/
def Scaled.dropPlace (x : Scaled) : Scaled :=
  ⟨roundHalfUp x.coefficient 10, x.exponent + 1⟩

/-- Drops places until there are at most 28. What vanishes on the way is zero. -/
def Scaled.limitPlaces (x : Scaled) : Nat → Scaled
  | 0 => x
  | k + 1 =>
    if x.exponent < -28 then
      if x.coefficient / 10 == 0 then ⟨0, 0⟩ else Scaled.limitPlaces x.dropPlace k
    else x

/-- Coefficients of decimals that come from doubles are below two to the power of 52, unless there
are no places to drop. -/
def digitsBound : Nat := 4503599627370496

/-- Drops places until the coefficient is below the bound. -/
def Scaled.limitDigits (x : Scaled) : Nat → Scaled
  | 0 => x
  | k + 1 =>
    if x.exponent < 0 && digitsBound ≤ x.coefficient then Scaled.limitDigits x.dropPlace k else x

/-- The decimal for a finite double, if it is within the bounds. -/
def ofParts64? (negative : Bool) (m : Nat) (e : Int) : Option Decimal := do
  if m == 0 then some { zero with negative }
  else
    let x : Scaled := ⟨m, e⟩
    let x := if 0 ≤ e then x.double e.toNat else x.halve (-e).toNat
    let x ← x.raise? x.exponent.toNat
    let x := (x.limitPlaces 1200).limitDigits 30
    let (coefficient, scale) := stripZeros x.coefficient (-x.exponent).toNat
    ofSignedParts? negative coefficient scale

/-- The decimal for a double, if it is a number within the bounds. -/
def ofDouble? (x : Float) : Option Decimal :=
  match parts x with
  | .finite negative m e => ofParts64? negative m e
  | _ => none

/-! ### To a double -/

/-- A double to a power, by squaring from the least bit of the exponent up. -/
def powerBySquaring (base : Float) (acc : Float) (fuel n : Nat) : Float :=
  match fuel with
  | 0 => acc
  | fuel + 1 =>
    let acc := if n % 2 == 1 then acc * base else acc
    if n / 2 == 0 then acc else powerBySquaring (base * base) acc fuel (n / 2)

/-- The double for a decimal: the whole part plus the places, rounded at the last place. -/
def toDouble (d : Decimal) : Float :=
  if d.scale == 0 then ofRatio (d.negative && !d.isZero) d.coefficient 1
  else
    let unit := tenTo d.scale
    let whole := ofRatio false d.whole 1
    let places := ofRatio false d.fraction 1 / ofRatio false unit 1
    let magnitude :=
      if d.fraction == 0 then whole
      else
        let shift := powerBySquaring 10 1 6 d.scale
        Binary64.round ((whole + places) * shift) / shift
    if d.negative then -magnitude else magnitude

end TableFilter.Decimal
