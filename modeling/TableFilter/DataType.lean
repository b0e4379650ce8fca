import TableFilter.Text.Case
import TableFilter.Text.CharClass

/-!
# Types of values

## Main definitions

* `DataType`: the eight types of values, and the type of a null that no context has given a type
* `DataType.numericRank?`: place in the order of numeric promotion
* `DataType.wider?`: the wider of two numeric types
* `DataType.ofTypeName?`: types by the names that conversions accept
-/

namespace TableFilter

open TableFilter.Text

/-- The type of a value. -/
inductive DataType where
  | boolean
  | int32
  | int64
  | decimal
  | double
  | string
  | guid
  | dateTime
  /-- The type of a null that no context has given a type. -/
  | undefined
deriving DecidableEq, Repr

namespace DataType

/-- All types. -/
def all : List DataType :=
  [.boolean, .int32, .int64, .decimal, .double, .string, .guid, .dateTime, .undefined]

/-- The name of a type. -/
def name : DataType → String
  | .boolean => "Boolean"
  | .int32 => "Int32"
  | .int64 => "Int64"
  | .decimal => "Decimal"
  | .double => "Double"
  | .string => "String"
  | .guid => "Guid"
  | .dateTime => "DateTime"
  | .undefined => "Undefined"

/-- The type with exactly this name. -/
def ofName? (name : String) : Option DataType := all.find? fun t => t.name == name

/-- Place in the order of numeric promotion, for the numeric types. -/
def numericRank? : DataType → Option Nat
  | .boolean => some 0
  | .int32 => some 1
  | .int64 => some 2
  | .decimal => some 3
  | .double => some 4
  | .string | .guid | .dateTime | .undefined => none

/-- Whether a type takes part in numeric promotion. -/
def isNumeric (t : DataType) : Bool := t.numericRank?.isSome

/-- Whether values of a type are integers. -/
def isInteger : DataType → Bool
  | .boolean | .int32 | .int64 => true
  | _ => false

/-- The wider of two numeric types. -/
def wider? (a b : DataType) : Option DataType := do
  let m ← a.numericRank?
  let n ← b.numericRank?
  some (if n ≤ m then a else b)

/-- Names that conversions accept, in lower case. Narrower and unsigned integers share the type that
holds them. -/
def typeNames : List (String × DataType) :=
  [("boolean", .boolean), ("bool", .boolean), ("byte", .int32), ("sbyte", .int32),
   ("int16", .int32), ("uint16", .int32), ("int32", .int32), ("uint32", .int64),
   ("int64", .int64), ("uint64", .int64), ("decimal", .decimal), ("single", .double),
   ("double", .double), ("string", .string), ("guid", .guid), ("datetime", .dateTime)]

/-- A name without the part that says where it is defined. -/
def localName (name : List Char) : List Char :=
  let qualifier := "system.".toList
  if qualifier.isPrefixOf name then name.drop qualifier.length else name

/-- The type with a name that conversions accept, in any case, with blanks around it, and with or
without a qualifier. -/
def ofTypeName? (name : String) : Option DataType :=
  typeNames.lookup (String.ofList (localName (asciiLower (trim name.toList))))

end DataType

end TableFilter
