import TableFilter.Number.Binary64

/-!
# Fewest digits that read back

Of the decimals that lie closer to a double than to any other, the ones with the fewest digits, and
of these the nearest.

## Main definitions

* `Decimals`: a number `digits * 10 ^ exponent`
* `leadingExponent`: the power of ten of the first digit of a ratio
* `shortest`: fewest digits of a positive double given by its parts
-/

namespace TableFilter.Number

/-- The number `digits * 10 ^ exponent`. -/
structure Decimals where
  digits : Nat
  exponent : Int
deriving DecidableEq, Repr

/-- `n / d` divided by a power of ten, as a ratio. -/
def overTen (n d : Nat) (exponent : Int) : Nat × Nat :=
  if 0 ≤ exponent then (n, d * tenTo exponent.toNat) else (n * tenTo (-exponent).toNat, d)

/-- How often `n` has to be multiplied by ten to reach `d`, looking at most `fuel` times. -/
def tensBelow (fuel n d : Nat) : Nat :=
  match fuel with
  | 0 => 0
  | fuel + 1 => if d ≤ n then 0 else tensBelow fuel (n * 10) d + 1

/-- The power of ten of the first digit of `n / d`, for positive `n` and `d`. -/
def leadingExponent (n d : Nat) : Int :=
  if d ≤ n then ((natText (n / d)).length : Int) - 1
  else -(tensBelow (d.log2 + 1) n d : Int)

/-- Digits without the zeros at their end, at most `fuel` of them. -/
def dropZeros (fuel : Nat) (x : Decimals) : Decimals :=
  match fuel with
  | 0 => x
  | fuel + 1 =>
    if x.digits % 10 == 0 && x.digits != 0 then
      dropZeros fuel { digits := x.digits / 10, exponent := x.exponent + 1 }
    else x

/-- A ratio and the two ends of the interval of numbers that read back as it, all over one
divisor. -/
structure Interval where
  low : Nat
  mid : Nat
  high : Nat
  unit : Nat
  closed : Bool

/-- Whether the interval holds `p * 10 ^ exponent`. -/
def Interval.holds (i : Interval) (p : Nat) (exponent : Int) : Bool :=
  let (low, unit) := overTen i.low i.unit exponent
  let (high, _) := overTen i.high i.unit exponent
  if i.closed then low ≤ p * unit && p * unit ≤ high else low < p * unit && p * unit < high

/-- A point of the grid `10 ^ exponent` in the interval, the one nearest to its middle; an exact
tie goes to the even one. -/
def Interval.onGrid? (i : Interval) (exponent : Int) : Option Decimals :=
  let (n, d) := overTen i.mid i.unit exponent
  let below := n / d
  let near :=
    if 2 * (n % d) < d then below
    else if 2 * (n % d) > d then below + 1
    else if below % 2 == 0 then below else below + 1
  let far := if near == below then below + 1 else below
  if i.holds near exponent then some { digits := near, exponent }
  else if i.holds far exponent then some { digits := far, exponent }
  else none

/-- The first grid, from coarse to fine, that has a point in the interval. -/
def Interval.coarsest (i : Interval) (fuel : Nat) (exponent : Int) : Decimals :=
  match fuel with
  | 0 => (i.onGrid? exponent).getD { digits := i.mid / i.unit, exponent := 0 }
  | fuel + 1 =>
    match i.onGrid? exponent with
    | some x => x
    | none => i.coarsest fuel (exponent - 1)

/-- The numbers that read back as `m * 2 ^ e`. The gap below a power of two is half the gap above,
and the ends of the interval read back iff the significand is even. -/
def readingInterval (m : Nat) (e : Int) : Interval :=
  let below := if m == twoTo 52 && -1074 < e then 1 else 2
  let scale := if 2 ≤ e then twoTo (e - 2).toNat else 1
  { low := (4 * m - below) * scale
    mid := 4 * m * scale
    high := (4 * m + 2) * scale
    unit := if 2 ≤ e then 1 else twoTo (2 - e).toNat
    closed := m % 2 == 0 }

/-- The fewest digits that read back as the positive double `m * 2 ^ e`. -/
def shortest (m : Nat) (e : Int) : Decimals :=
  let i := readingInterval m e
  dropZeros 17 (i.coarsest 17 (leadingExponent i.mid i.unit))

end TableFilter.Number
