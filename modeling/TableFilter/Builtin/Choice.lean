import TableFilter.Builtin.Argument
import TableFilter.Value.Order

/-!
# Functions that inspect values or choose between them

## Main definitions

* `isDateLike`, `isIntegerLike`, `isGuidLike`, `isNumberLike`: what a value can be read as
* `iifTest`: the branch that a test takes
* `firstPresent`: the first value that is no null
* `extreme`: the largest or the least of some values
* `callIsNull`, `callCoalesce`, `callIIf`, `callConvert`, `callMaxOf`, `callMinOf`: calls
-/

namespace TableFilter.Builtin

open TableFilter.Number TableFilter.Text

/-! ### Inspecting -/

/-- Whether a value is an instant or a text that stands for one. -/
def isDateLike : Value → Bool
  | .dateTime _ => true
  | .string s => (Instant.ofText? s.toList).isSome
  | _ => false

/-- Whether a value is an integer or a text that stands for one. -/
def isIntegerLike : Value → Bool
  | .int32 _ | .int64 _ => true
  | .string s => (intOfText? (Text.trim s.toList)).isSome
  | _ => false

/-- Whether a value is an identifier or a text that stands for one. -/
def isGuidLike : Value → Bool
  | .guid _ => true
  | .string s => (Guid.ofText? s.toList).isSome
  | _ => false

/-- Whether a value is a number or a text that stands for a decimal or a finite double. -/
def isNumberLike : Value → Bool
  | .int32 _ | .int64 _ | .decimal _ | .double _ => true
  | .string s =>
    let cs := Text.trim s.toList
    (Decimal.ofText? cs).isSome || (doubleOfText? cs).any Binary64.isFinite
  | _ => false

/-- Calls a function that inspects its argument. -/
def callInspection (test : Value → Bool) (args : List Value) : Result Value :=
  .ok (.boolean (test (argument args 0)))

/-! ### Choosing -/

/-- Calls the function for a value or a substitute for a null. -/
def callIsNull (args : List Value) : Result Value :=
  let v := argument args 0
  .ok (if v.isNull then argument args 1 else v)

/-- The first value that is no null, or else the last of all. -/
def firstPresent (args : List Value) : Value :=
  match args.find? fun v => !v.isNull with
  | some v => v
  | none => (args.getLast?).getD (.null .undefined)

/-- Calls the function for the first value that is no null. -/
def callCoalesce (args : List Value) : Result Value := .ok (firstPresent args)

/-- Whether a test takes the first branch. An unknown truth value takes the second. -/
def iifTest : Value → Result Bool
  | .boolean b => .ok b
  | .null .boolean | .null .undefined => .ok false
  | v => .error (.typing (.testNotBoolean v.dataType))

/-- Calls the function for one of two values. -/
def callIIf (args : List Value) : Result Value := do
  let first ← iifTest (argument args 0)
  .ok (argument args (if first then 1 else 2))

/-- Calls the function for conversion to a type given by name. -/
def callConvert (args : List Value) : Result Value := do
  let v := argument args 0
  match ← textArgument .convert args 1 with
  | none => .error (.typing (.nullTypeName v.dataType))
  | some name =>
    match DataType.ofTypeName? name with
    | none => .error (.typing (.unknownTypeName v.dataType name))
    | some type => v.convert type

/-! ### Largest and least -/

/-- The better of two values: the second unless the first stands before it in the wanted order. -/
def better (f : Builtin) (wanted : Ordering) (v best : Value) : Result Value := do
  match ← v.compare false best with
  | some order => .ok (if order == wanted then v else best)
  | none => .error (.evaluation (.unordered f v.dataType best.dataType))

/-- The best of some values, starting from one of them. -/
def bestOf (f : Builtin) (wanted : Ordering) (best : Value) : List Value → Result Value
  | [] => .ok best
  | v :: vs => do bestOf f wanted (← better f wanted v best) vs

/-- The best of some values, nulls apart. Of nulls alone it is the first. -/
def extreme (f : Builtin) (wanted : Ordering) (args : List Value) : Result Value :=
  match args.filter fun v => !v.isNull with
  | [] => .ok ((args.head?).getD (.null .undefined))
  | v :: vs => bestOf f wanted v vs

/-- Calls the function for the largest value. -/
def callMaxOf : List Value → Result Value := extreme .maxOf .gt

/-- Calls the function for the least value. -/
def callMinOf : List Value → Result Value := extreme .minOf .lt

end TableFilter.Builtin
