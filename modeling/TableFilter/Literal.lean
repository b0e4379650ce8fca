import TableFilter.Conversion

/-!
# Literals

The value that the text of a literal token stands for. A number goes into the first type that holds
it.

## Main definitions

* `integerLiteral`: an integer of 32 bits, of 64 bits, a decimal, or a double
* `hexLiteral`: an integer of 32 or 64 bits
* `realLiteral`: a double if there is an exponent, else a decimal, else a double
* `dateTimeLiteral`, `guidLiteral`: instants and identifiers
-/

namespace TableFilter

open TableFilter.Number TableFilter.Text

/-- Text after a minus sign if it is negative. -/
def signedText (negative : Bool) (text : String) : String :=
  if negative then "-" ++ text else text

/-- The value of an integer literal. -/
def integerLiteral (digits : String) (negative : Bool) : Result Value :=
  let text := signedText negative digits
  match intOfText? text.toList with
  | some i => .ok (Value.ofInt i)
  | none =>
    match Decimal.ofText? text.toList with
    | some d => .ok (.decimal d)
    | none =>
      match doubleOfText? text.toList with
      | some x => .ok (.double x)
      | none => .error (.malformed (.unreadableInteger text))

/-- The natural of 64 bits that digits of base sixteen stand for, after an optional plus sign. -/
def natOfHexText? (cs : List Char) : Option Nat :=
  let digits := match cs with
    | '+' :: rest => rest
    | _ => cs
  if digits.isEmpty || !digits.all isHexDigit then none
  else
    let n := natOfHex digits
    if n < word64 then some n else none

/-- The value of a literal of base sixteen. -/
def hexLiteral (digits : String) (negative : Bool) : Result Value :=
  match natOfHexText? digits.toList with
  | none => .error (.malformed (.unreadableHex digits))
  | some n =>
    if fitsInt64 n then .ok (Value.ofInt (if negative then -(n : Int) else n))
    else .error (.malformed (.hexOutOfRange digits))

/-- Whether a character marks an exponent. -/
def marksExponent (c : Char) : Bool := c == 'e' || c == 'E'

/-- The value of a literal with a fraction or an exponent. -/
def realLiteral (text : String) (negative : Bool) : Value :=
  let text := signedText negative text
  let exact := (Decimal.ofText? text.toList).map Value.decimal
  let rounded := (doubleOfText? text.toList).map Value.double
  let found := if text.toList.any marksExponent then rounded <|> exact else exact <|> rounded
  found.getD (.string text)

/-- The value of a literal for an instant. -/
def dateTimeLiteral (text : String) : Result Value :=
  match Instant.ofText? text.toList with
  | some t => .ok (.dateTime t)
  | none => .error (.malformed (.unreadableDateTime text))

/-- The identifier of a literal for one. -/
def guidLiteral (text : String) : Result Guid :=
  match Guid.ofText? text.toList with
  | some g => .ok g
  | none => .error (.malformed (.unreadableGuid text))

end TableFilter
