import TableFilter.DataType
import TableFilter.Decimal.Basic
import TableFilter.Guid
import TableFilter.Time.Instant

/-!
# Values

## Main definitions

* `Value`: a null of some type, or a value of one of the eight types
* `Value.dataType`, `Value.isNull`: type of a value, and whether it is a null
* `Value.sameAs`: equality by the number or text stood for
-/

namespace TableFilter

/-- Whether an integer is one of 32 bits. -/
def fitsInt32 (i : Int) : Bool := -2147483648 ≤ i && i ≤ 2147483647

/-- Whether an integer is one of 64 bits. -/
def fitsInt64 (i : Int) : Bool := -9223372036854775808 ≤ i && i ≤ 9223372036854775807

/-- A value: literal, content of a column, or result. A null carries the type it belongs to. -/
inductive Value where
  | null (type : DataType)
  | boolean (b : Bool)
  | int32 (i : Int32)
  | int64 (i : Int64)
  | decimal (d : Decimal)
  | double (x : Float)
  | string (s : String)
  | guid (g : Guid)
  | dateTime (t : Instant)
deriving DecidableEq

namespace Value

instance : Inhabited Value := ⟨.null .undefined⟩

/-- The type of a value. -/
def dataType : Value → DataType
  | .null type => type
  | .boolean _ => .boolean
  | .int32 _ => .int32
  | .int64 _ => .int64
  | .decimal _ => .decimal
  | .double _ => .double
  | .string _ => .string
  | .guid _ => .guid
  | .dateTime _ => .dateTime

/-- Whether a value is a null. -/
def isNull : Value → Bool
  | .null _ => true
  | _ => false

/-- Whether a value is the truth value for true. -/
def isTrue : Value → Bool
  | .boolean b => b
  | _ => false

/-- Whether two values have one type and stand for the same. Decimals count by their number and
doubles by the numeric comparison, by which a double that is no number differs from itself. -/
def sameAs : Value → Value → Bool
  | .decimal a, .decimal b => a.sameValue b
  | .double a, .double b => a == b
  | a, b => a == b

/-- An integer in the smaller of the two integer types that holds it. -/
def ofInt (i : Int) : Value :=
  if fitsInt32 i then .int32 (Int32.ofInt i) else .int64 (Int64.ofInt i)

end Value

end TableFilter
