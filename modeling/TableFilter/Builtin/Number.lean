import TableFilter.Builtin.Argument

/-!
# Functions of numbers

Each keeps the type of its argument. Roots and powers are computed with doubles and converted back.

## Main definitions

* `Value.absolute`, `Value.ceiling`, `Value.floor`, `Value.rounded`: functions that keep the type
* `callAbs`, `callCeiling`, `callFloor`, `callRound`, `callSqrt`, `callPower`: calls
-/

namespace TableFilter

namespace Value

/-- A number without its sign. The least integer of a type has no counterpart and stays. -/
def absolute : Value → Value
  | .int32 i => .int32 (if i < 0 then -i else i)
  | .int64 i => .int64 (if i < 0 then -i else i)
  | .decimal d => .decimal d.abs
  | .double x => .double (Binary64.abs x)
  | v => v

/-- The least integral number not below a number. -/
def ceiling : Value → Value
  | .decimal d => .decimal d.ceiling
  | .double x => .double (Binary64.ceiling x)
  | v => v

/-- The largest integral number not above a number. -/
def floor : Value → Value
  | .decimal d => .decimal d.floor
  | .double x => .double (Binary64.floor x)
  | v => v

/-- The nearest integral number, ties away from zero. -/
def rounded : Value → Value
  | .decimal d => .decimal d.round
  | .double x => .double (Binary64.round x)
  | v => v

end Value

namespace Builtin

/-- Applies a function that keeps the type to the first argument. -/
def callKeepingType (f : Builtin) (function : Value → Value) (args : List Value) :
    Result Value := do
  .ok (function (← numericArgument f args 0))

/-- Calls the function for absolute values. -/
def callAbs (args : List Value) : Result Value := callKeepingType .abs Value.absolute args

/-- Calls the function that rounds up. -/
def callCeiling (args : List Value) : Result Value :=
  callKeepingType .ceiling Value.ceiling args

/-- Calls the function that rounds down. -/
def callFloor (args : List Value) : Result Value := callKeepingType .floor Value.floor args

/-- Calls the function that rounds to the nearest integral number. -/
def callRound (args : List Value) : Result Value := callKeepingType .round Value.rounded args

/-- Calls the function for square roots. -/
def callSqrt (args : List Value) : Result Value := do
  let v ← numericArgument .sqrt args 0
  match ← v.convert .double with
  | .double x => (Value.double x.sqrt).convert v.dataType
  | _ => .ok (.null v.dataType)

/-- Calls the function for powers, in the wider type of both arguments. -/
def callPower (args : List Value) : Result Value := do
  let base ← numericArgument .power args 0
  let exponent ← numericArgument .power args 1
  if base.dataType == .undefined || exponent.dataType == .undefined then .ok (.null .undefined)
  else
    match base.dataType.wider? exponent.dataType with
    | none => .error (.typing (.powerOperands base.dataType exponent.dataType))
    | some type =>
      let x ← base.convert .double
      let y ← exponent.convert .double
      match x, y with
      | .double x, .double y => (Value.double (x.pow y)).convert type
      | _, _ => .ok (.null type)

end Builtin

end TableFilter
