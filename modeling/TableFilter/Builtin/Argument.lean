import TableFilter.Conversion

/-!
# Arguments of functions

An argument is converted to the type that its function wants. A missing argument counts as a null.

## Main definitions

* `argument`: the value passed at a place
* `textArgument`, `intArgument`, `booleanArgument`, `instantArgument`: arguments by type, `none` for
  a null
* `numericArgument`: an argument of any numeric type
-/

namespace TableFilter.Builtin

/-- The argument at a place, a null if there is none. -/
def argument (args : List Value) (index : Nat) : Value := (args[index]?).getD (.null .undefined)

/-- The argument at a place as a value of a type. -/
def typedArgument (f : Builtin) (args : List Value) (index : Nat) (type : DataType) :
    Result Value :=
  ((argument args index).convert type).mapError (·.inArgument f index)

/-- The text passed at a place. -/
def textArgument (f : Builtin) (args : List Value) (index : Nat) : Result (Option String) := do
  match ← typedArgument f args index .string with
  | .string s => .ok (some s)
  | _ => .ok none

/-- The integer passed at a place. -/
def intArgument (f : Builtin) (args : List Value) (index : Nat) : Result (Option Int) := do
  match ← typedArgument f args index .int32 with
  | .int32 i => .ok (some i.toInt)
  | _ => .ok none

/-- The truth value passed at a place. -/
def booleanArgument (f : Builtin) (args : List Value) (index : Nat) : Result (Option Bool) := do
  match ← typedArgument f args index .boolean with
  | .boolean b => .ok (some b)
  | _ => .ok none

/-- The instant passed at a place. -/
def instantArgument (f : Builtin) (args : List Value) (index : Nat) :
    Result (Option Instant) := do
  match ← typedArgument f args index .dateTime with
  | .dateTime t => .ok (some t)
  | _ => .ok none

/-- Whether a function was told to ignore case. -/
def ignoreCaseArgument (f : Builtin) (args : List Value) (index : Nat) : Result Bool := do
  .ok ((← booleanArgument f args index).getD false)

/-- The number passed at a place, of whatever numeric type it is. -/
def numericArgument (f : Builtin) (args : List Value) (index : Nat) : Result Value :=
  let v := argument args index
  if v.dataType.isNumeric || v.dataType == .undefined then .ok v
  else .error (.typing (.notNumeric f index v.dataType))

end TableFilter.Builtin
