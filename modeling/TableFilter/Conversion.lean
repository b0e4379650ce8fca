import TableFilter.Decimal.Double
import TableFilter.Error

/-!
# Conversion between types

## Main definitions

* `Value.convert`: a value as a value of another type
* `intOfText?`, `booleanOfText?`, `Decimal.ofText?`, `Guid.ofText?`, `Instant.ofText?`: what a text
  stands for in each type
* `Value.parseAs`: a text as a value, null if it cannot be read
* `Value.payload`: a value that has to be of a type
-/

namespace TableFilter

open TableFilter.Number TableFilter.Text

/-! ### Reading text -/

/-- The integer of 64 bits that a text stands for: digits after an optional sign. -/
def intOfText? (cs : List Char) : Option Int :=
  let (negative, digits) := takeSign cs
  if digits.isEmpty || !digits.all isDigit then none
  else
    let n := natOfDigits digits
    let i : Int := if negative then -n else n
    if fitsInt64 i then some i else none

/-- The truth value that a text stands for: a word in any case, or a digit. -/
def booleanOfText? (cs : List Char) : Option Bool :=
  if asciiLower cs == "true".toList || cs == ['1'] then some true
  else if asciiLower cs == "false".toList || cs == ['0'] then some false
  else none

namespace Value

/-- A value has no counterpart in a type. -/
def outOfRange (v : Value) (target : DataType) : Result Value :=
  .error (.conversion (.outOfRange v target))

/-- Values of one type are never converted to another. -/
def inconvertible (v : Value) (target : DataType) : Result Value :=
  .error (.typing (.conversion v.dataType target))

/-- The value that was read, or an error that shows the text. -/
def orUnreadable (text : String) (target : DataType) (v : Option Value) : Result Value :=
  match v with
  | some v => .ok v
  | none => .error (.conversion (.unreadable text target))

/-! ### From numbers -/

/-- An integer as a value of an integer type of some width. -/
def narrow (source : Value) (i : Int) (target : DataType) : Result Value :=
  match target with
  | .int32 => if fitsInt32 i then .ok (.int32 (Int32.ofInt i)) else source.outOfRange target
  | .int64 => if fitsInt64 i then .ok (.int64 (Int64.ofInt i)) else source.outOfRange target
  | _ => source.inconvertible target

/-- An integer of 64 bits as a value of a numeric type. -/
def convertInt (source : Value) (i : Int) (target : DataType) : Result Value :=
  match target with
  | .boolean => .ok (.boolean (i != 0))
  | .int32 | .int64 => source.narrow i target
  | .decimal =>
    match Decimal.ofInt? i with
    | some d => .ok (.decimal d)
    | none => source.outOfRange target
  | .double => .ok (.double (Binary64.ofInt i))
  | _ => source.inconvertible target

/-- A decimal as a value of a numeric type. Places are cut off for an integer. -/
def convertDecimal (source : Value) (d : Decimal) (target : DataType) : Result Value :=
  match target with
  | .boolean => .ok (.boolean !d.isZero)
  | .int32 | .int64 => source.narrow d.toInt target
  | .decimal => .ok (.decimal d)
  | .double => .ok (.double d.toDouble)
  | _ => source.inconvertible target

/-- Whether a double differs from zero. What is no number does. -/
def isNonzero (x : Float) : Bool := !(x == 0)

/-- A double as a value of a numeric type. Its fraction is cut off for an integer. -/
def convertDouble (source : Value) (x : Float) (target : DataType) : Result Value :=
  match target with
  | .boolean => .ok (.boolean (isNonzero x))
  | .int32 | .int64 =>
    match Binary64.truncated? x with
    | some i => source.narrow i target
    | none => source.outOfRange target
  | .decimal =>
    match Decimal.ofDouble? x with
    | some d => .ok (.decimal d)
    | none => source.outOfRange target
  | .double => .ok (.double x)
  | _ => source.inconvertible target

/-! ### From text -/

/-- A text as a value of an integer type. A text that is no integer is read as a decimal, whose
places are cut off. -/
def parseInteger (text : String) (cs : List Char) (target : DataType) : Result Value :=
  match intOfText? cs with
  | some i => convertInt (.string text) i target
  | none =>
    match Decimal.ofText? cs with
    | some d => convertDecimal (.string text) d target
    | none => orUnreadable text target none

/-- A text as a value of another type. Blanks at its ends are left out. -/
def parse (text : String) (target : DataType) : Result Value :=
  let cs := trim text.toList
  match target with
  | .boolean => orUnreadable text target ((booleanOfText? cs).map .boolean)
  | .int32 | .int64 => parseInteger text cs target
  | .decimal => orUnreadable text target ((Decimal.ofText? cs).map .decimal)
  | .double => orUnreadable text target ((doubleOfText? cs).map .double)
  | .guid => orUnreadable text target ((Guid.ofText? cs).map .guid)
  | .dateTime => orUnreadable text target ((Instant.ofText? cs).map .dateTime)
  | .string => .ok (.string text)
  | .undefined => inconvertible (.string text) target

/-! ### All conversions -/

/-- A value that is no null as a value of another type. -/
def convertPresent (v : Value) (target : DataType) : Result Value :=
  match v, target with
  | _, .undefined => v.inconvertible target
  | _, .string => .ok (.string v.text)
  | .string text, _ => parse text target
  | .boolean b, _ => v.convertInt (if b then 1 else 0) target
  | .int32 i, _ => v.convertInt i.toInt target
  | .int64 i, _ => v.convertInt i.toInt target
  | .decimal d, _ => v.convertDecimal d target
  | .double x, _ => v.convertDouble x target
  | .guid _, _ | .dateTime _, _ => v.inconvertible target
  | .null _, _ => .ok (.null target)

/-- A value as a value of another type. A null becomes a null of that type. -/
def convert (v : Value) (target : DataType) : Result Value :=
  if v.isNull then .ok (.null target)
  else if v.dataType == target then .ok v
  else v.convertPresent target

/-- A text as a value of a type, null if it cannot be read as one. -/
def parseAs (text : String) (type : DataType) : Value :=
  match (Value.string text).convert type with
  | .ok v => v
  | .error _ => .null type

/-- A value that has to be of a type, a null of which counts as absent. -/
def payload (type : DataType) (v : Value) : Result (Option Value) :=
  if v.dataType == type then .ok (if v.isNull then none else some v)
  else .error (.typing (.reading v.dataType type))

end Value

end TableFilter
