import TableFilter.Number.Shortest
import TableFilter.Text.CharClass
import TableFilter.Text.Case

/-!
# Doubles as text

## Main definitions

* `exponentText`: fewest digits, one of them before the point, with an exponent (`1.5e0`)
* `fixedText`: a fixed number of places, ties to even
* `doubleOfText?`: the double nearest to a written number
-/

namespace TableFilter.Number

open TableFilter.Binary64 TableFilter.Text

/-- Words for the doubles that have no digits. -/
def infinityText (negative : Bool) : List Char :=
  if negative then "-inf".toList else "inf".toList

/-- The word for a double that is no number. -/
def nanText : List Char := "NaN".toList

/-- A text after a minus sign if it is negative. -/
def signed (negative : Bool) (cs : List Char) : List Char :=
  if negative then '-' :: cs else cs

/-! ### Writing -/

/-- Digits with a point after the first of several. -/
def pointAfterFirst : List Char → List Char
  | d :: e :: rest => d :: '.' :: e :: rest
  | ds => ds

/-- A double by the fewest digits that read back, with an exponent of ten. -/
def exponentText (x : Float) : List Char :=
  match parts x with
  | .nan => nanText
  | .infinite negative => infinityText negative
  | .finite negative m e =>
    if m == 0 then signed negative "0e0".toList
    else
      let s := shortest m e
      let digits := natText s.digits
      signed negative
        (pointAfterFirst digits ++ 'e' :: intText (s.exponent + (digits.length - 1)))

/-- A double with a fixed number of places after the point. -/
def fixedText (places : Nat) (x : Float) : List Char :=
  match parts x with
  | .nan => nanText
  | .infinite negative => infinityText negative
  | .finite negative m e =>
    let scaled := m * tenTo places
    let n :=
      if 0 ≤ e then scaled * twoTo e.toNat else roundHalfEven scaled (twoTo (-e).toNat)
    signed negative (pointAt places n)

/-! ### Reading -/

/-- A sign, if the text starts with one, and the rest. -/
def takeSign : List Char → Bool × List Char
  | '-' :: rest => (true, rest)
  | '+' :: rest => (false, rest)
  | cs => (false, cs)

/-- The double nearest to `n * 10 ^ exponent`. Numbers with far too many or too few digits before
the point are settled without computing the power. -/
def doubleOfDecimals (negative : Bool) (n : Nat) (exponent : Int) : Float :=
  if n == 0 then ofRatio negative 0 1
  else
    let leading := ((natText n).length : Int) + exponent
    if 400 < leading then infinity negative
    else if leading < -400 then ofRatio negative 0 1
    else if 0 ≤ exponent then ofRatio negative (n * tenTo exponent.toNat) 1
    else ofRatio negative n (tenTo (-exponent).toNat)

/-- An exponent: nothing, or `e` and digits with an optional sign. -/
def exponentOfText? : List Char → Option Int
  | [] => some 0
  | c :: rest =>
    if c == 'e' || c == 'E' then
      let (negative, digits) := takeSign rest
      if digits.isEmpty || !digits.all isDigit then none
      else some (if negative then -(natOfDigits digits : Int) else natOfDigits digits)
    else none

/-- Digits with an optional point and an optional exponent; at least one digit is needed. -/
def decimalsOfText? (negative : Bool) (cs : List Char) : Option Float :=
  let whole := cs.takeWhile isDigit
  let afterWhole := cs.dropWhile isDigit
  let (fraction, rest) :=
    match afterWhole with
    | '.' :: more => (more.takeWhile isDigit, more.dropWhile isDigit)
    | more => ([], more)
  if whole.isEmpty && fraction.isEmpty then none
  else
    (exponentOfText? rest).map fun exponent =>
      doubleOfDecimals negative (natOfDigits (whole ++ fraction)) (exponent - fraction.length)

/-- The double nearest to a written number. Besides digits, the words for infinity and for no number
are read in any case. -/
def doubleOfText? (cs : List Char) : Option Float :=
  let (negative, rest) := takeSign cs
  let word := String.ofList (asciiLower rest)
  if word == "inf" || word == "infinity" then some (infinity negative)
  else if word == "nan" then some nan
  else decimalsOfText? negative rest

end TableFilter.Number
