import TableFilter.Builtin.Argument
import TableFilter.Time.Interval

/-!
# Functions of instants

## Main definitions

* `Clock`: what the functions for the present time give
* `callDateAdd`, `callDateDiff`, `callDatePart`: calls
-/

namespace TableFilter

/-- The present time. -/
structure Clock where
  /-- What a clock at the place shows. -/
  here : Instant
  utc : Instant

namespace Builtin

/-- The interval named at a place. -/
def intervalArgument (f : Builtin) (args : List Value) (index : Nat) :
    Result (Option Interval) := do
  match ← textArgument f args index with
  | none => .ok none
  | some name =>
    match Interval.ofName? name with
    | some i => .ok (some i)
    | none => .error (.evaluation (.unknownInterval f name))

/-- Calls the function for an instant some intervals later. -/
def callDateAdd (args : List Value) : Result Value := do
  let t ← instantArgument .dateAdd args 0
  let amount ← intArgument .dateAdd args 1
  let interval ← intervalArgument .dateAdd args 2
  match t, amount, interval with
  | some t, some amount, some interval =>
    match interval.add? t amount with
    | some later => .ok (.dateTime later)
    | none => .error (.evaluation (.resultOutOfRange .dateAdd))
  | _, _, _ => .ok (.null .dateTime)

/-- Calls the function for the intervals between two instants. -/
def callDateDiff (args : List Value) : Result Value := do
  let start ← instantArgument .dateDiff args 0
  let stop ← instantArgument .dateDiff args 1
  let interval ← intervalArgument .dateDiff args 2
  match start, stop, interval with
  | some start, some stop, some interval =>
    let n := interval.count start stop
    if fitsInt32 n then .ok (.int32 (Int32.ofInt n))
    else .error (.evaluation (.resultOutOfRange .dateDiff))
  | _, _, _ => .ok (.null .int32)

/-- Calls the function for a part of an instant. -/
def callDatePart (args : List Value) : Result Value := do
  let t ← instantArgument .datePart args 0
  let interval ← intervalArgument .datePart args 1
  match t, interval with
  | some t, some interval => .ok (.int32 (Int32.ofInt (interval.part t)))
  | _, _ => .ok (.null .int32)

end Builtin

end TableFilter
