import TableFilter.Decimal.Arithmetic
import TableFilter.Text.CharClass

/-!
# Decimals as text

## Main definitions

* `Decimal.text`: all places, sign kept
* `Decimal.textWithPlaces`: a fixed number of places, further ones cut off
* `Decimal.ofText?`: the decimal a text stands for, with or without an exponent
-/

namespace TableFilter.Decimal

open TableFilter.Number TableFilter.Text

/-! ### Writing -/

/-- Text after a minus sign if a decimal carries one. -/
def withSign (d : Decimal) (cs : List Char) : List Char := if d.negative then '-' :: cs else cs

/-- A decimal with all its places. -/
def text (d : Decimal) : List Char := d.withSign (pointAt d.scale d.coefficient)

/-- A decimal with a fixed number of places. Further places are cut off, not rounded. -/
def textWithPlaces (places : Nat) (d : Decimal) : List Char :=
  let n :=
    if places ≤ d.scale then d.coefficient / tenTo (d.scale - places)
    else d.coefficient * tenTo (places - d.scale)
  d.withSign (pointAt places n)

/-! ### Reading -/

/-- What has been read of the digits of a decimal: whether a digit and whether the point has been
met, and the coefficient and scale so far. -/
structure Reading where
  negative : Bool
  started : Bool
  pointed : Bool
  coefficient : Nat
  scale : Nat

/-- The decimal read so far. -/
def Reading.done? (r : Reading) : Option Decimal :=
  if r.started then ofParts? r.negative r.coefficient r.scale else none

/-- The decimal with the last place one up. A coefficient that is full loses that place. -/
def Reading.roundedUp? (r : Reading) : Option Decimal :=
  if r.coefficient + 1 < coefficientBound then ofParts? r.negative (r.coefficient + 1) r.scale
  else if r.scale == 0 then none
  else ofParts? r.negative ((r.coefficient + 5) / 10) (r.scale - 1)

/-- The end of reading when no further place can be kept. What follows may hold digits and low lines
only, and its first digit decides how the last place rounds, a half away from zero. -/
def Reading.rounded? (r : Reading) (rest : List Char) : Option Decimal :=
  let further := rest.filter fun c => c != '_'
  if !further.all isDigit then none
  else if further.head?.any fun c => 5 ≤ digitValue c then r.roundedUp?
  else r.done?

/-- Reads digits, at most one point, and low lines after the first digit. Places end at 28 or where
the coefficient is full; a whole part that is too long is refused. -/
def readDigits (r : Reading) : List Char → Option Decimal
  | [] => r.done?
  | c :: rest =>
    if isDigit c then
      let coefficient := r.coefficient * 10 + digitValue c
      if coefficientBound ≤ coefficient then if r.pointed then r.rounded? (c :: rest) else none
      else
        let scale := if r.pointed then r.scale + 1 else 0
        let r := { r with started := true, coefficient, scale }
        if r.pointed && 28 ≤ scale then r.rounded? rest else readDigits r rest
    else if c == '.' && !r.pointed then readDigits { r with pointed := true } rest
    else if c == '_' && r.started then readDigits r rest
    else none

/-- The decimal that a text without an exponent stands for. -/
def ofPlainText? (cs : List Char) : Option Decimal :=
  let start (negative : Bool) : Reading := ⟨negative, false, false, 0, 0⟩
  match cs with
  | '-' :: rest => if rest.isEmpty then none else readDigits (start true) rest
  | '+' :: rest => if rest.isEmpty then none else readDigits (start false) rest
  | _ => readDigits (start false) cs

/-- The magnitude of an exponent: digits after an optional plus sign. -/
def exponentMagnitude? (cs : List Char) : Option Nat :=
  let digits := match cs with
    | '+' :: rest => rest
    | _ => cs
  if digits.isEmpty || !digits.all isDigit then none
  else
    let n := natOfDigits digits
    if n < word32 then some n else none

/-- A decimal times a power of ten, in steps of at most nineteen places. -/
def timesPowerOfTen? (d : Decimal) (exponent : Nat) : Option Decimal := do
  let step (d : Decimal) (k : Nat) : Option Decimal := do
    if k == 0 then some d else d.mul? (← ofParts? false (tenTo k) 0)
  step (← step d (min exponent 19)) (exponent - 19)

/-- A decimal divided by a power of ten of at most 28. Places beyond the twenty-eighth are dropped,
a half away from zero, and what vanishes with them is a zero with its sign. -/
def overPowerOfTen? (d : Decimal) (exponent : Nat) : Option Decimal :=
  let scale := d.scale + exponent
  let dropped := scale - 28
  if 28 < exponent then none
  else ofSignedParts? d.negative (roundHalfUp d.coefficient (tenTo dropped)) (scale - dropped)

/-- A decimal times ten to a written exponent of at most 28. Places are used up first; an exponent
beyond them leaves no zeros at the end of the places. -/
def withExponent? (d : Decimal) (cs : List Char) : Option Decimal := do
  match cs with
  | '-' :: digits => d.overPowerOfTen? (← exponentMagnitude? digits)
  | _ =>
    let n ← exponentMagnitude? cs
    if n ≤ d.scale then
      some { d with scale := d.scale - n, scale_le := Nat.le_trans (Nat.sub_le _ _) d.scale_le }
    else if 28 < n then none
    else (← d.timesPowerOfTen? n) |>.stripped |> some

/-- Whether a character starts an exponent. -/
def isExponentMark (c : Char) : Bool := c == 'e' || c == 'E'

/-- The decimal that a text stands for. -/
def ofText? (cs : List Char) : Option Decimal :=
  match cs.dropWhile fun c => !isExponentMark c with
  | [] => ofPlainText? cs
  | _ :: exponent => do
    let d ← ofPlainText? (cs.takeWhile fun c => !isExponentMark c)
    d.withExponent? exponent

end TableFilter.Decimal
