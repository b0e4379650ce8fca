import TableFilter.Conversion
import TableFilter.Typing

/-!
# Order of values

Two values are compared after both are converted to the type that the comparison is carried out in.

## Main definitions

* `compareText`: order of texts by code points, of their upper forms unless the order is exact
* `Value.comparePresent`: order of two values of one type
* `Value.compare`: order of any two values; none if a null or what is no number takes part
-/

namespace TableFilter

open TableFilter.Text

/-- The order of two texts by code points. Unless it is exact, their upper forms are compared. -/
def compareText (exact : Bool) (a b : String) : Ordering :=
  if exact then List.compareLex compare a.toList b.toList
  else List.compareLex compare (upper a.toList) (upper b.toList)

/-- The order of two doubles, none if one is no number. -/
def compareDouble (a b : Float) : Option Ordering :=
  if a < b then some .lt else if a == b then some .eq else if b < a then some .gt else none

/-- The order of truth values, false before true. -/
def compareBoolean : Bool → Bool → Ordering
  | false, true => .lt
  | true, false => .gt
  | _, _ => .eq

namespace Value

/-- The order of two values of one type that are no nulls. -/
def comparePresent (exact : Bool) : Value → Value → Option Ordering
  | .boolean a, .boolean b => some (compareBoolean a b)
  | .int32 a, .int32 b => some (Ord.compare a.toInt b.toInt)
  | .int64 a, .int64 b => some (Ord.compare a.toInt b.toInt)
  | .decimal a, .decimal b => some (a.compareValues b)
  | .double a, .double b => compareDouble a b
  | .string a, .string b => some (compareText exact a b)
  | .guid a, .guid b => some (a.order b)
  | .dateTime a, .dateTime b => some (a.order b)
  | _, _ => none

/-- The order of two values, carried out in the type of their comparison. There is none if one of
them is a null or no number. -/
def compare (exact : Bool) (a b : Value) : Result (Option Ordering) := do
  let type ← (BinaryOperator.comparison (.equal exact)).comparisonType a.dataType b.dataType
  if type == .undefined || a.isNull || b.isNull then .ok none
  else
    let a ← a.convert type
    let b ← b.convert type
    .ok (comparePresent exact a b)

end Value

end TableFilter
