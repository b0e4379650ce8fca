import TableFilter.Builtin.Call
import TableFilter.Proofs.Value.Faults

/-!
# What can go wrong in functions

A function whose count of arguments was checked fails because of the values of its arguments only.

## Main results

* `Builtin.typedArgument_failsByValues`, `Builtin.numericArgument_failsByValues`: taking arguments
* `Builtin.call_failsByValues`: all functions
-/

namespace TableFilter.Builtin

open FailsByValues

variable (engine : Pattern.Engine) (f : Builtin) (args : List Value) (index : Nat)

/-! ### Arguments -/

theorem typedArgument_failsByValues (type : DataType) :
    FailsByValues (typedArgument f args index type) :=
  ((argument args index).convert_failsByValues type).inArgument f index

theorem textArgument_failsByValues : FailsByValues (textArgument f args index) := by
  refine bind (typedArgument_failsByValues f args index .string) fun v => ?_
  cases v <;> exact .ok _

theorem intArgument_failsByValues : FailsByValues (intArgument f args index) := by
  refine bind (typedArgument_failsByValues f args index .int32) fun v => ?_
  cases v <;> exact .ok _

theorem booleanArgument_failsByValues : FailsByValues (booleanArgument f args index) := by
  refine bind (typedArgument_failsByValues f args index .boolean) fun v => ?_
  cases v <;> exact .ok _

theorem instantArgument_failsByValues : FailsByValues (instantArgument f args index) := by
  refine bind (typedArgument_failsByValues f args index .dateTime) fun v => ?_
  cases v <;> exact .ok _

theorem ignoreCaseArgument_failsByValues : FailsByValues (ignoreCaseArgument f args index) :=
  bind (booleanArgument_failsByValues f args index) fun _ => .ok _

theorem numericArgument_failsByValues : FailsByValues (numericArgument f args index) := by
  unfold numericArgument
  dsimp only
  split
  · exact .ok _
  · exact .error trivial

theorem intervalArgument_failsByValues : FailsByValues (intervalArgument f args index) := by
  refine bind (textArgument_failsByValues f args index) fun name => ?_
  cases name with
  | none => exact .ok none
  | some name =>
    dsimp only
    split
    · exact .ok _
    · exact .error trivial

/-! ### Numbers -/

theorem callKeepingType_failsByValues (function : Value → Value) :
    FailsByValues (callKeepingType f function args) :=
  bind (numericArgument_failsByValues f args 0) fun _ => .ok _

theorem callSqrt_failsByValues : FailsByValues (callSqrt args) := by
  refine bind (numericArgument_failsByValues _ args 0) fun v => ?_
  refine bind (v.convert_failsByValues .double) fun x => ?_
  cases x with
  | double x => exact Value.convert_failsByValues _ _
  | _ => exact .ok _

theorem callPower_failsByValues : FailsByValues (callPower args) := by
  refine bind (numericArgument_failsByValues _ args 0) fun base => ?_
  refine bind (numericArgument_failsByValues _ args 1) fun exponent => ?_
  split
  · exact .ok _
  · split
    · exact .error trivial
    · refine bind (base.convert_failsByValues .double) fun x => ?_
      refine bind (exponent.convert_failsByValues .double) fun y => ?_
      split
      · exact Value.convert_failsByValues _ _
      · exact .ok _

/-! ### Single texts -/

theorem callOnText_failsByValues (function : List Char → List Char) :
    FailsByValues (callOnText f function args) := by
  refine bind (textArgument_failsByValues f args 0) fun s => ?_
  cases s <;> exact .ok _

theorem callLen_failsByValues : FailsByValues (callLen args) := by
  refine bind (textArgument_failsByValues _ args 0) fun s => ?_
  cases s <;> exact .ok _

theorem callSubStr_failsByValues : FailsByValues (callSubStr args) := by
  refine bind (textArgument_failsByValues _ args 0) fun s => ?_
  refine bind (intArgument_failsByValues _ args 1) fun start => ?_
  split
  · exact bind (intArgument_failsByValues _ args 2) fun _ => .ok _
  · exact .ok _

/-! ### Texts in other texts -/

theorem compile_failsByValues (ignoreCase : Bool) (wanted : String) :
    FailsByValues (compile engine ignoreCase wanted) := by
  unfold compile
  split
  · exact .error trivial
  · exact .ok _

theorem callReplace_failsByValues : FailsByValues (callReplace engine args) := by
  refine bind (textArgument_failsByValues _ args 0) fun s => ?_
  refine bind (textArgument_failsByValues _ args 1) fun wanted => ?_
  refine bind (textArgument_failsByValues _ args 2) fun replacement => ?_
  split
  · split
    · exact .ok _
    · refine bind (ignoreCaseArgument_failsByValues _ args 3) fun ignoreCase => ?_
      exact bind (compile_failsByValues engine ignoreCase _) fun _ => .ok _
  · exact .ok _

theorem callSplit_failsByValues : FailsByValues (callSplit engine args) := by
  refine bind (textArgument_failsByValues _ args 0) fun s => ?_
  refine bind (textArgument_failsByValues _ args 1) fun wanted => ?_
  refine bind (intArgument_failsByValues _ args 2) fun part => ?_
  split
  · split
    · exact .ok _
    · split
      · exact .ok _
      · refine bind (ignoreCaseArgument_failsByValues _ args 3) fun ignoreCase => ?_
        exact bind (compile_failsByValues engine ignoreCase _) fun _ => .ok _
  · exact .ok _

theorem callTest_failsByValues (test : List Char → List Char → Bool) :
    FailsByValues (callTest f test args) := by
  refine bind (textArgument_failsByValues f args 0) fun s => ?_
  refine bind (textArgument_failsByValues f args 1) fun wanted => ?_
  split
  · exact bind (ignoreCaseArgument_failsByValues f args 2) fun _ => .ok _
  · exact .ok _

theorem callStrCount_failsByValues : FailsByValues (callStrCount args) := by
  refine bind (textArgument_failsByValues _ args 0) fun s => ?_
  refine bind (textArgument_failsByValues _ args 1) fun wanted => ?_
  split
  · split
    · exact .ok _
    · exact bind (ignoreCaseArgument_failsByValues _ args 2) fun _ => .ok _
  · exact .ok _

theorem callStrCmp_failsByValues : FailsByValues (callStrCmp args) := by
  refine bind (textArgument_failsByValues _ args 0) fun a => ?_
  refine bind (textArgument_failsByValues _ args 1) fun b => ?_
  split
  · exact bind (ignoreCaseArgument_failsByValues _ args 2) fun _ => .ok _
  · exact .ok _

theorem lookFor_failsByValues {α : Type} (look : Bool → List Char → List Char → α)
    (ignoreCase : Bool) (s wanted : String) :
    FailsByValues (lookFor engine look ignoreCase s wanted) :=
  bind (compile_failsByValues engine ignoreCase wanted) fun _ => .ok _

theorem nthPlaceOf_failsByValues (n : Int) (ignoreCase : Bool) (s wanted : String) :
    FailsByValues (nthPlaceOf engine n ignoreCase s wanted) := by
  unfold nthPlaceOf
  split
  · exact .ok _
  · exact lookFor_failsByValues engine _ _ _ _

theorem callPosition_failsByValues (flagIndex : Nat)
    {position : Bool → String → String → Result (Option Nat)}
    (h : ∀ ignoreCase s wanted, FailsByValues (position ignoreCase s wanted)) :
    FailsByValues (callPosition f flagIndex position args) := by
  refine bind (textArgument_failsByValues f args 0) fun s => ?_
  refine bind (textArgument_failsByValues f args 1) fun wanted => ?_
  split
  · refine bind (ignoreCaseArgument_failsByValues f args flagIndex) fun ignoreCase => ?_
    refine bind (h ignoreCase _ _) fun place => ?_
    cases place <;> exact .ok _
  · exact .ok _

theorem callNthIndexOf_failsByValues : FailsByValues (callNthIndexOf engine args) := by
  refine bind (intArgument_failsByValues _ args 2) fun n => ?_
  cases n with
  | some n => exact callPosition_failsByValues _ args _ (nthPlaceOf_failsByValues engine n)
  | none => exact .ok _

theorem callOnPattern_failsByValues (absent : Value)
    (answer : Pattern.Regex → List Char → Value) :
    FailsByValues (callOnPattern f absent answer args) := by
  refine bind (textArgument_failsByValues f args 0) fun pattern => ?_
  refine bind (textArgument_failsByValues f args 1) fun s => ?_
  split
  · split
    · exact .ok _
    · exact .error trivial
  · exact .ok _

theorem callRegExMatch_failsByValues : FailsByValues (callRegExMatch args) :=
  callOnPattern_failsByValues _ args _ _

theorem callRegExVal_failsByValues : FailsByValues (callRegExVal args) :=
  callOnPattern_failsByValues _ args _ _

/-! ### Choices -/

theorem iifTest_failsByValues (v : Value) : FailsByValues (iifTest v) := by
  unfold iifTest
  split
  · exact .ok _
  · exact .ok _
  · exact .ok _
  · exact .error trivial

theorem callIIf_failsByValues : FailsByValues (callIIf args) :=
  bind (iifTest_failsByValues _) fun _ => .ok _

theorem callConvert_failsByValues : FailsByValues (callConvert args) := by
  refine bind (textArgument_failsByValues _ args 1) fun name => ?_
  cases name with
  | none => exact .error trivial
  | some name =>
    dsimp only
    split
    · exact .error trivial
    · exact Value.convert_failsByValues _ _

theorem better_failsByValues (wanted : Ordering) (v best : Value) :
    FailsByValues (better f wanted v best) := by
  refine bind (Value.compare_failsByValues false v best) fun order => ?_
  cases order with
  | some order => exact .ok _
  | none => exact .error trivial

theorem bestOf_failsByValues (wanted : Ordering) (best : Value) :
    FailsByValues (bestOf f wanted best args) := by
  induction args generalizing best with
  | nil => exact .ok best
  | cons v vs ih => exact bind (better_failsByValues f wanted v best) ih

theorem extreme_failsByValues (wanted : Ordering) : FailsByValues (extreme f wanted args) := by
  unfold extreme
  split
  · exact .ok _
  · exact bestOf_failsByValues f _ wanted _

/-! ### Instants -/

theorem callDateAdd_failsByValues : FailsByValues (callDateAdd args) := by
  refine bind (instantArgument_failsByValues _ args 0) fun t => ?_
  refine bind (intArgument_failsByValues _ args 1) fun amount => ?_
  refine bind (intervalArgument_failsByValues _ args 2) fun interval => ?_
  split
  · split
    · exact .ok _
    · exact .error trivial
  · exact .ok _

theorem callDateDiff_failsByValues : FailsByValues (callDateDiff args) := by
  refine bind (instantArgument_failsByValues _ args 0) fun start => ?_
  refine bind (instantArgument_failsByValues _ args 1) fun stop => ?_
  refine bind (intervalArgument_failsByValues _ args 2) fun interval => ?_
  split
  · dsimp only
    split
    · exact .ok _
    · exact .error trivial
  · exact .ok _

theorem callDatePart_failsByValues : FailsByValues (callDatePart args) := by
  refine bind (instantArgument_failsByValues _ args 0) fun t => ?_
  refine bind (intervalArgument_failsByValues _ args 1) fun interval => ?_
  split
  · exact .ok _
  · exact .ok _

/-! ### All functions -/

/-- A function fails because of the values of its arguments only. -/
theorem apply_failsByValues (clock : Clock) : FailsByValues (f.apply engine clock args) := by
  cases f with
  | abs | ceiling | floor | round => exact callKeepingType_failsByValues _ args _
  | power => exact callPower_failsByValues args
  | sqrt => exact callSqrt_failsByValues args
  | len => exact callLen_failsByValues args
  | lower | upper | trim | trimLeft | trimRight | reverse =>
    exact callOnText_failsByValues _ args _
  | subStr => exact callSubStr_failsByValues args
  | replace => exact callReplace_failsByValues engine args
  | split => exact callSplit_failsByValues engine args
  | startsWith | endsWith | contains => exact callTest_failsByValues _ args _
  | indexOf | lastIndexOf =>
    exact callPosition_failsByValues _ args _ (lookFor_failsByValues engine _)
  | nthIndexOf => exact callNthIndexOf_failsByValues engine args
  | strCount => exact callStrCount_failsByValues args
  | strCmp => exact callStrCmp_failsByValues args
  | regExMatch => exact callRegExMatch_failsByValues args
  | regExVal => exact callRegExVal_failsByValues args
  | isNull | isDate | isInteger | isGuid | isNumeric | coalesce | now | utcNow => exact .ok _
  | iif => exact callIIf_failsByValues args
  | convert => exact callConvert_failsByValues args
  | maxOf | minOf => exact extreme_failsByValues _ args _
  | dateAdd => exact callDateAdd_failsByValues args
  | dateDiff => exact callDateDiff_failsByValues args
  | datePart => exact callDatePart_failsByValues args

/-- A call with an accepted count of arguments is what the function gives. -/
theorem callWith_eq_apply (clock : Clock) {f : Builtin} {args : List Value}
    (hcount : f.checkCount args.length = .ok ()) :
    callWith engine clock f args = f.apply engine clock args := by
  rw [callWith, hcount]
  rfl

/-- A call with an accepted count of arguments fails because of their values only. -/
theorem call_failsByValues (clock : Clock) (hcount : f.checkCount args.length = .ok ()) :
    FailsByValues (f.call clock args) := by
  rw [call, callWith_eq_apply _ clock hcount]
  exact apply_failsByValues _ f args clock

end TableFilter.Builtin
