import TableFilter.Number.Rounding

/-!
# Doubles as exact numbers

A finite double is a sign, a significand and a power of two. Rounding a ratio to the nearest double
and taking integral parts are done in natural arithmetic on these parts.

## Main definitions

* `Parts`, `parts`: what a double stands for
* `ofRatio`: the double nearest to a ratio, ties to the even significand
* `truncated?`: integral part of a finite double
* `floor`, `ceiling`, `round`: integral doubles below, above, and nearest with ties away from zero
-/

namespace TableFilter.Binary64

open TableFilter.Number

/-- What a double stands for: `± significand * 2 ^ exponent`, an infinity, or no number. -/
inductive Parts where
  | nan
  | infinite (negative : Bool)
  | finite (negative : Bool) (significand : Nat) (exponent : Int)
deriving DecidableEq, Repr

/-- The parts of a double. Below the least normal number the exponent stays at `-1074`. -/
def parts (x : Float) : Parts :=
  let bits := x.toBits.toNat
  let negative := bits / twoTo 63 == 1
  let biased : Nat := bits / twoTo 52 % twoTo 11
  let fraction : Nat := bits % twoTo 52
  if biased == 2047 then
    if fraction == 0 then .infinite negative else .nan
  else if biased == 0 then .finite negative fraction (-1074)
  else .finite negative (fraction + twoTo 52) ((biased : Int) - 1075)

/-- The double that is no number. -/
def nan : Float := Float.ofBits 0x7FF8000000000000

/-- The bits of infinity, without its sign. -/
def infinityBits : Nat := 2047 * twoTo 52

/-- The double with a sign and a magnitude given by its bits. -/
def ofMagnitudeBits (negative : Bool) (bits : Nat) : Float :=
  Float.ofBits (UInt64.ofNat (if negative then bits + twoTo 63 else bits))

/-- Infinity with a sign. -/
def infinity (negative : Bool) : Float := ofMagnitudeBits negative infinityBits

/-- Whether a double is a number other than an infinity. -/
def isFinite (x : Float) : Bool :=
  match parts x with
  | .finite .. => true
  | _ => false

/-- Whether a double is no number. -/
def isNaN (x : Float) : Bool :=
  match parts x with
  | .nan => true
  | _ => false

/-! ### Nearest double -/

/-- `n / d` divided by a power of two, as a ratio. -/
def unscaled (n d : Nat) (exponent : Int) : Nat × Nat :=
  if 0 ≤ exponent then (n, d * twoTo exponent.toNat) else (n * twoTo (-exponent).toNat, d)

/-- The power of two of the last place of the double nearest to `n / d`, for positive `n` and
`d`. -/
def lastPlace (n d : Nat) : Int :=
  let guess := max ((n.log2 : Int) - d.log2 - 52) (-1074)
  let (m, unit) := unscaled n d guess
  if m < unit * twoTo 52 && -1074 < guess then guess - 1 else guess

/-- The bits of the double nearest to `n / d`, for a positive `d`. A significand that rounds up to
`2 ^ 53` carries into the exponent. -/
def magnitudeBits (n d : Nat) : Nat :=
  if n == 0 then 0
  else
    let exponent := lastPlace n d
    let (m, unit) := unscaled n d exponent
    min ((exponent + 1074).toNat * twoTo 52 + roundHalfEven m unit) infinityBits

/-- The double nearest to `n / d` with a sign, for a positive `d`. Beyond the largest double it is
an infinity. -/
def ofRatio (negative : Bool) (n d : Nat) : Float :=
  ofMagnitudeBits negative (magnitudeBits n d)

/-- The double nearest to an integer. -/
def ofInt (i : Int) : Float := ofRatio (i < 0) i.natAbs 1

/-! ### Sign and integral parts -/

/-- A double without its sign. -/
def abs (x : Float) : Float := Float.ofBits (UInt64.ofNat (x.toBits.toNat % twoTo 63))

/-- The integral part of a finite double. -/
def truncated? (x : Float) : Option Int :=
  match parts x with
  | .finite negative m e =>
    let whole := if 0 ≤ e then m * twoTo e.toNat else m / twoTo (-e).toNat
    some (if negative then -(whole : Int) else whole)
  | _ => none

/-- A double whose fraction is replaced by a whole number: `choose` picks it from the sign, the
whole part, the fraction and the divisor of the fraction. -/
def integralBy (choose : Bool → Nat → Nat → Nat → Nat) (x : Float) : Float :=
  match parts x with
  | .finite negative m e =>
    if 0 ≤ e then x
    else
      let unit := twoTo (-e).toNat
      ofRatio negative (choose negative (m / unit) (m % unit) unit) 1
  | _ => x

/-- The largest integral double not above a double. -/
def floor : Float → Float :=
  integralBy fun negative whole rest _ => if negative && 0 < rest then whole + 1 else whole

/-- The least integral double not below a double. -/
def ceiling : Float → Float :=
  integralBy fun negative whole rest _ => if !negative && 0 < rest then whole + 1 else whole

/-- The nearest integral double, ties away from zero. -/
def round : Float → Float :=
  integralBy fun _ whole rest unit => if unit ≤ 2 * rest then whole + 1 else whole

end TableFilter.Binary64
