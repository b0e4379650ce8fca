import TableFilter.Number.Power

/-!
# Rounding quotients and writing naturals

## Main definitions

* `roundHalfEven`, `roundHalfUp`: the natural nearest to a quotient, ties to even or upward
* `natText`, `padded`: digits of a natural, and digits padded with zeros on the left
* `pointAt`: digits with a decimal point before the last few of them
-/

namespace TableFilter.Number

/-- The natural nearest to `n / d`; of two equally near, the even one. -/
def roundHalfEven (n d : Nat) : Nat :=
  let q := n / d
  let r := n % d
  if 2 * r < d then q
  else if 2 * r > d then q + 1
  else if q % 2 == 0 then q else q + 1

/-- The natural nearest to `n / d`; of two equally near, the larger one. -/
def roundHalfUp (n d : Nat) : Nat := if 2 * (n % d) < d then n / d else n / d + 1

/-- The digits of a natural in base ten. -/
def natText (n : Nat) : List Char := Nat.toDigits 10 n

/-- The digits of an integer in base ten, after a minus sign if it is negative. -/
def intText (i : Int) : List Char :=
  if i < 0 then '-' :: natText i.natAbs else natText i.natAbs

/-- The digits of a natural, with zeros before them up to a width. -/
def padded (width n : Nat) : List Char :=
  let digits := natText n
  List.replicate (width - digits.length) '0' ++ digits

/-- `n` with a decimal point before its last `places` digits, and at least one digit before the
point. With no places there is no point. -/
def pointAt (places n : Nat) : List Char :=
  if places == 0 then natText n
  else
    let digits := padded (places + 1) n
    let whole := digits.length - places
    digits.take whole ++ '.' :: digits.drop whole

end TableFilter.Number
