import TableFilter.Number.DoubleText
import TableFilter.Value

/-!
# Numbers in JSON documents

A number without fraction and exponent is an integer as long as it is one of 64 bits. Any other
number is a double, made from as many leading digits as 64 bits hold by one multiplication or
division with a power of ten. Where this rounds twice the last digit may be off.

## Main definitions

* `Json.Numeral`: a number as it is written
* `Json.Number`: a number by the type that holds it
* `Json.Numeral.value?`: from the one to the other
* `Json.Number.text`: the written form of a number
-/

namespace TableFilter.Json

open TableFilter.Number TableFilter.Text

/-- A number as it is written: the digits of its parts, and the sign of its exponent. -/
structure Numeral where
  negative : Bool
  whole : List Char
  fraction : List Char
  exponent : Option (Bool × List Char)
deriving DecidableEq, Repr

/-- A number by the type that holds it: a natural of 64 bits, a negative integer of 64 bits, or a
double. -/
inductive Number where
  | natural (n : UInt64)
  | negative (i : Int64)
  | double (x : Float)

/-! ### Reading -/

/-- Whether a natural is one of 64 bits. -/
def fitsUInt64 (n : Nat) : Bool := n < word64

/-- A number with digits appended as long as it is one of 64 bits, and how many digits are left. -/
def appendDigits (n : Nat) : List Char → Nat × Nat
  | [] => (n, 0)
  | c :: cs =>
    let m := n * 10 + digitValue c
    if fitsUInt64 m then appendDigits m cs else (n, cs.length + 1)

/-- The largest power of ten that is a double. -/
def greatestTen : Nat := 308

/-- A power of ten as a double. -/
def doubleTen (exponent : Nat) : Float := Binary64.ofRatio false (tenTo exponent) 1

/-- A double divided by a power of ten, in steps of the largest power that is a double. -/
def divideByTen (x : Float) (exponent : Nat) : Float :=
  if exponent ≤ greatestTen then x / doubleTen exponent
  else if x == 0 then x
  else divideByTen (x / doubleTen greatestTen) (exponent - greatestTen)
termination_by exponent
decreasing_by
  simp only [greatestTen] at *
  omega

/-- A double multiplied by a power of ten, if the result is no infinity. -/
def multiplyByTen? (x : Float) (exponent : Nat) : Option Float :=
  if exponent ≤ greatestTen then
    let y := x * doubleTen exponent
    if Binary64.isFinite y then some y else none
  else if x == 0 then some x
  else none

/-- A double multiplied or divided by a power of ten. -/
def scaleByTen? (x : Float) (exponent : Int) : Option Float :=
  if 0 ≤ exponent then multiplyByTen? x exponent.toNat
  else some (divideByTen x (-exponent).toNat)

namespace Numeral

/-- The exponent, zero if there is none. -/
def exponentValue (n : Numeral) : Int :=
  match n.exponent with
  | none => 0
  | some (negative, digits) =>
    if negative then -(natOfDigits digits : Int) else natOfDigits digits

/-- An integer of 64 bits, or else a double. There is no negative zero among the integers. -/
def integer (negative : Bool) (n : Nat) : Number :=
  if !negative then .natural (UInt64.ofNat n)
  else if n == 0 || !fitsInt64 (-(n : Int)) then .double (Binary64.ofRatio true n 1)
  else .negative (Int64.ofInt (-(n : Int)))

/-- The double that a number stands for, if it is not too large. -/
def double? (n : Numeral) : Option Float :=
  let (whole, left) := appendDigits 0 n.whole
  let (digits, leftAfter) := appendDigits whole n.fraction
  let places : Int := (n.fraction.length - leftAfter : Nat)
  let magnitude :=
    scaleByTen? (Binary64.ofRatio false digits 1) (left - places + n.exponentValue)
  magnitude.map fun x => if n.negative then -x else x

/-- What a number stands for, if it is not too large. -/
def value? (n : Numeral) : Option Number :=
  let whole := natOfDigits n.whole
  if n.fraction.isEmpty && n.exponent.isNone && fitsUInt64 whole then
    some (integer n.negative whole)
  else n.double?.map .double

end Numeral

/-! ### Writing -/

/-- How doubles are written: digits before the point up to this count. -/
def mostWholeDigits : Int := 16

/-- How doubles are written: zeros after the point up to this count. -/
def mostLeadingZeros : Int := 4

/-- The digits of a positive double with a point in the right place, or with an exponent if it is
very large or very small. -/
def decimalsText (s : Decimals) : List Char :=
  let digits := natText s.digits
  let point : Int := digits.length + s.exponent
  if 0 ≤ s.exponent && point ≤ mostWholeDigits then
    digits ++ List.replicate s.exponent.toNat '0' ++ ".0".toList
  else if 0 < point && point ≤ mostWholeDigits then
    digits.take point.toNat ++ '.' :: digits.drop point.toNat
  else if -mostLeadingZeros ≤ point && point ≤ 0 then
    "0.".toList ++ List.replicate (-point).toNat '0' ++ digits
  else pointAfterFirst digits ++ 'e' :: intText (point - 1)

/-- A finite double by the fewest digits that read back. -/
def doubleText (x : Float) : List Char :=
  match Binary64.parts x with
  | .finite negative m e =>
    signed negative (if m == 0 then "0.0".toList else decimalsText (shortest m e))
  | _ => "null".toList

/-- The written form of a number. -/
def Number.text : Number → List Char
  | .natural n => natText n.toNat
  | .negative i => intText i.toInt
  | .double x => doubleText x

end TableFilter.Json
