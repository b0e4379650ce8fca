import TableFilter.Decimal.Basic

/-!
# Working out quotients

A quotient that is not integral is worked out in rounds of nine decimal places each, fewer where
nine would not fit. It is done when nothing is left over. If no more places fit first, the last
place is rounded to the nearest, ties to even.

Zeros at the end of the places are then taken off in groups. The groups are of fixed sizes, so that
some zeros stay: a half is `0.50`.

## Main definitions

* `PartialQuotient`: what is worked out and what is left over
* `PartialQuotient.finish?`: coefficient and scale of the quotient
* `trimGroups`: coefficient and scale without groups of zeros
-/

namespace TableFilter.Decimal

open TableFilter.Number

/-- The quotient `whole + rest / divisor`, counted in units of ten to the power of minus `scale`.
A negative scale is that of a quotient whose last digits before the point are not yet there. -/
structure PartialQuotient where
  whole : Nat
  rest : Nat
  divisor : Nat
  scale : Int
deriving Repr

namespace PartialQuotient

/-- The quotient of two coefficients, given the scale of the first less that of the second. -/
def start (n d : Nat) (places : Int) : PartialQuotient := ⟨n / d, n % d, d, places⟩

/-- The number of places worked out in one round, if they fit. -/
def roundPlaces : Nat := 9

/-- How many places the next round can have: a coefficient and a scale have to stay within the
bounds. -/
def room (x : PartialQuotient) : Nat :=
  ((List.range (roundPlaces + 1)).reverse.find? fun (k : Nat) =>
    x.scale + k ≤ 28 && x.whole * tenTo k < coefficientBound).getD 0

/-- How many places the next round has. With nothing left over there are only those before the
point to come. -/
def nextPlaces (x : PartialQuotient) : Nat :=
  if x.rest == 0 then min roundPlaces (-x.scale).toNat else x.room

/-- The quotient with some places more. -/
def extend (x : PartialQuotient) (k : Nat) : PartialQuotient :=
  let rest := x.rest * tenTo k
  { x with
    whole := x.whole * tenTo k + rest / x.divisor
    rest := rest % x.divisor
    scale := x.scale + k }

/-- Coefficient and scale of the quotient rounded at its last place, or at the one before if the
coefficient is too large. -/
def rounded? (x : PartialQuotient) : Option (Nat × Nat) :=
  [0, 1].findSome? fun (dropped : Nat) =>
    let coefficient := roundHalfEven (x.whole * x.divisor + x.rest) (x.divisor * tenTo dropped)
    if dropped ≤ x.scale && coefficient < coefficientBound then
      some (coefficient, (x.scale - dropped).toNat)
    else none

/-- Coefficient and scale of the quotient, worked out in at most so many rounds. -/
def finishWithin? : Nat → PartialQuotient → Option (Nat × Nat)
  | 0, x => x.rounded?
  | rounds + 1, x =>
    if x.rest == 0 && 0 ≤ x.scale then x.rounded?
    else
      let k := x.nextPlaces
      let y := x.extend k
      if k == 0 || coefficientBound ≤ y.whole then y.rounded? else finishWithin? rounds y

/-- Coefficient and scale of the quotient. Each round but the last adds a place, and the scale goes
from at least `-28` to at most `28`. -/
def finish? (x : PartialQuotient) : Option (Nat × Nat) := x.finishWithin? 57

end PartialQuotient

/-! ### Zeros at the end -/

/-- A coefficient and a scale without a group of zeros at the end, if the places end in one. -/
def trimGroup (size : Nat) (x : Nat × Nat) : Nat × Nat :=
  if size ≤ x.2 && x.1 % tenTo size == 0 then (x.1 / tenTo size, x.2 - size) else x

/-- Groups of eight zeros are taken off only as long as the low word of the coefficient is clear. -/
def trimEights : Nat → Nat × Nat → Nat × Nat
  | 0, x => x
  | times + 1, x => if x.1 % word32 == 0 then trimEights times (trimGroup 8 x) else x

/-- A coefficient and a scale without groups of eight zeros, and then without one group each of
four, of two and of one. -/
def trimGroups (x : Nat × Nat) : Nat × Nat :=
  trimGroup 1 (trimGroup 2 (trimGroup 4 (trimEights 3 x)))

end TableFilter.Decimal
