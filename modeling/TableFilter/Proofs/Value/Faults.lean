import TableFilter.Operation
import TableFilter.Proofs.Value.Types

/-!
# What can go wrong with values

Errors come of the values that are computed with, or of something that can be told without them: a
malformed text, a name that does not exist, a count of arguments, a row of another shape. Converting
values, comparing them and computing with them fails because of the values only.

## Main definitions

* `Error.OfValues`: an error that comes of values
* `FailsByValues`: a result that is no other error

## Main results

* `Value.convert_failsByValues`, `Value.compare_failsByValues`: conversions and comparisons
* `UnaryOperator.apply_failsByValues`, `BinaryOperator.apply_failsByValues`: operators
-/

namespace TableFilter

/-- An error that comes of values: their types, a value without a counterpart in a type, a division
by zero, or values that an operation or a function is not defined for. -/
def Error.OfValues : Error → Prop
  | .typing _ | .conversion _ | .divisionByZero => True
  | .evaluation cause =>
    match cause with
    | .decimalOverflow _ | .unknownInterval _ _ | .resultOutOfRange _ | .unordered _ _ _
    | .unreadablePattern _ | .patternTooLarge => True
    | .columnWithoutRow _ | .missingOperand _ | .rowWidth _ _ _ => False
  | .malformed _ | .resolution _ | .argumentCount _ _ => False

/-- A result that is an error only if the error comes of values. -/
def FailsByValues {α : Type} (r : Result α) : Prop := ∀ e, r = .error e → e.OfValues

namespace FailsByValues

variable {α β : Type} {r : Result α}

theorem ok (a : α) : FailsByValues (.ok a) := fun _ h => nomatch h

theorem error {e : Error} (h : e.OfValues) : FailsByValues (.error e : Result α) :=
  fun _ he => Except.error.inj he ▸ h

/-- Going on with a result that is known. -/
theorem bind_of_eq {f : α → Result β} (hr : FailsByValues r)
    (hf : ∀ a, r = .ok a → FailsByValues (f a)) : FailsByValues (r >>= f) := by
  cases r with
  | ok a => exact hf a rfl
  | error e => exact .error (hr e rfl)

theorem bind {f : α → Result β} (hr : FailsByValues r) (hf : ∀ a, FailsByValues (f a)) :
    FailsByValues (r >>= f) :=
  hr.bind_of_eq fun a _ => hf a

theorem map {f : α → β} (hr : FailsByValues r) : FailsByValues (r.map f) := by
  rw [Result.map_eq_bind]
  exact hr.bind fun a => .ok (f a)

/-- An error of an argument comes of values, if the error of the value does. -/
theorem inArgument (hr : FailsByValues r) (f : Builtin) (index : Nat) :
    FailsByValues (r.mapError (·.inArgument f index)) := by
  cases r with
  | ok a => exact .ok a
  | error e =>
    refine .error ?_
    have he : e.OfValues := hr e rfl
    cases e with
    | typing | conversion => trivial
    | _ => exact he

end FailsByValues

open FailsByValues

/-! ### Conversions and comparisons -/

theorem Value.Converted.failsByValues {v : Value} {type : DataType} {r : Result Value}
    (h : v.Converted type r) : FailsByValues r := by
  cases h with
  | value => exact .ok _
  | unmatched => exact .error trivial
  | refused => exact .error trivial

/-- A conversion fails because of the value only. -/
theorem Value.convert_failsByValues (v : Value) (type : DataType) :
    FailsByValues (v.convert type) := by
  cases hv : v.isNull with
  | true => exact convert_of_isNull hv type ▸ .ok _
  | false => exact (convert_converted hv type).failsByValues

/-! ### Types of operations -/

namespace BinaryOperator

variable (op : BinaryOperator) (left right : DataType)

theorem numericType_failsByValues : FailsByValues (op.numericType left right) := by
  unfold numericType
  split
  · exact .ok _
  · exact .error trivial

theorem comparisonType_failsByValues : FailsByValues (op.comparisonType left right) := by
  unfold comparisonType
  split
  case h_7 => exact op.numericType_failsByValues left right
  all_goals exact .ok _

theorem definedType_failsByValues : FailsByValues (op.definedType left right) := by
  cases op with
  | arithmetic kind =>
    dsimp only [definedType]
    split
    · exact .ok _
    · exact numericType_failsByValues _ left right
  | integer =>
    dsimp only [definedType]
    split
    · exact numericType_failsByValues _ left right
    · exact .error trivial
  | shift | like | logical =>
    dsimp only [definedType]
    split
    · exact .ok _
    · exact .error trivial
  | comparison => exact comparisonType_failsByValues _ left right

theorem operationType_failsByValues : FailsByValues (op.operationType left right) := by
  unfold operationType
  split
  · exact .ok _
  · exact op.definedType_failsByValues left right

end BinaryOperator

/-- A comparison fails because of the values only. -/
theorem Value.compare_failsByValues (exact : Bool) (v w : Value) :
    FailsByValues (v.compare exact w) := by
  refine bind (BinaryOperator.comparisonType_failsByValues _ _ _) fun type => ?_
  split
  · exact .ok none
  · exact bind (v.convert_failsByValues type) fun a =>
      bind (w.convert_failsByValues type) fun b => .ok _

/-! ### Operators -/

section Integers

variable {w : Nat} (x y : BitVec w)

theorem unlessZero_failsByValues (divide : BitVec w → BitVec w → BitVec w) :
    FailsByValues (unlessZero divide x y) := by
  unfold unlessZero
  split
  · exact .error trivial
  · exact .ok _

theorem ArithmeticOperator.onBits_failsByValues (op : ArithmeticOperator) :
    FailsByValues (op.onBits x y) := by
  cases op with
  | divide => exact unlessZero_failsByValues x y _
  | _ => exact .ok _

theorem IntegerOperator.onBits_failsByValues (op : IntegerOperator) :
    FailsByValues (op.onBits x y) := by
  cases op with
  | remainder => exact unlessZero_failsByValues x y _
  | _ => exact .ok _

end Integers

/-- An operation on words fails on values as it does on words, and otherwise as told. -/
theorem onIntegers_failsByValues {operation : {w : Nat} → BitVec w → BitVec w → Result (BitVec w)}
    (h : ∀ {w : Nat} (x y : BitVec w), FailsByValues (operation x y)) (a b : Value)
    {otherwise : Result Value} (hother : FailsByValues otherwise) :
    FailsByValues ((onIntegers operation a b).getD otherwise) := by
  unfold onIntegers
  split
  · exact bind (h _ _) fun r => .ok _
  · exact bind (h _ _) fun r => .ok _
  · exact bind (h _ _) fun r => .ok _
  · exact hother

theorem ArithmeticOperator.onDecimals_failsByValues (op : ArithmeticOperator) (a b : Decimal) :
    FailsByValues (op.onDecimals a b) := by
  unfold onDecimals
  dsimp only
  split
  · exact .error trivial
  · split
    · exact .ok _
    · exact .error trivial

theorem ArithmeticOperator.onValues_failsByValues (op : ArithmeticOperator) (a b : Value) :
    FailsByValues (op.onValues a b) := by
  unfold onValues
  split
  · exact map (op.onDecimals_failsByValues _ _)
  · exact .ok _
  · split
    · exact .ok _
    · exact .error trivial
  · exact onIntegers_failsByValues (fun x y => op.onBits_failsByValues x y) a b (.error trivial)

theorem IntegerOperator.onValues_failsByValues (op : IntegerOperator) (a b : Value) :
    FailsByValues (op.onValues a b) :=
  onIntegers_failsByValues (fun x y => op.onBits_failsByValues x y) a b (.error trivial)

theorem ShiftOperator.onValues_failsByValues (op : ShiftOperator) (a : Value) (amount : Int64) :
    FailsByValues (op.onValues a amount) := by
  cases a with
  | boolean | int32 | int64 => exact .ok _
  | _ => exact .error trivial

theorem LogicalOperator.onValues_failsByValues (op : LogicalOperator) (a b : Value) :
    FailsByValues (op.onValues a b) := by
  unfold onValues
  split
  · split
    · exact .ok _
    · exact .ok _
  · exact .error trivial

theorem BinaryOperator.applyPresent_failsByValues (op : BinaryOperator) (type : DataType)
    (a b : Value) : FailsByValues (op.applyPresent type a b) := by
  refine bind (a.convert_failsByValues type) fun a => ?_
  cases op with
  | arithmetic op =>
    exact bind (b.convert_failsByValues type) fun b => op.onValues_failsByValues a b
  | integer op => exact bind (b.convert_failsByValues type) fun b => op.onValues_failsByValues a b
  | shift op =>
    refine bind (b.convert_failsByValues .int64) fun amount => ?_
    cases amount <;> exact op.onValues_failsByValues a _
  | comparison op => exact bind (b.convert_failsByValues type) fun b => .ok _
  | like =>
    dsimp only
    split
    · exact .ok _
    · exact .ok _
  | logical op => exact op.onValues_failsByValues a b

/-- A binary operator fails because of its operands only. -/
theorem BinaryOperator.apply_failsByValues (op : BinaryOperator) (a b : Value) :
    FailsByValues (op.apply a b) := by
  have defined : FailsByValues (do
      let type ← op.operationType a.dataType b.dataType
      if type == .undefined || a.isNull || b.isNull then .ok (.null (op.resultType type))
      else op.applyPresent type a b) := by
    refine bind (op.operationType_failsByValues _ _) fun type => ?_
    split
    · exact .ok _
    · exact op.applyPresent_failsByValues type a b
  cases op with
  | logical op => exact op.onValues_failsByValues a b
  | _ => exact defined

/-- A unary operator fails because of its operand only. -/
theorem UnaryOperator.apply_failsByValues (op : UnaryOperator) (v : Value) :
    FailsByValues (op.apply v) := by
  unfold apply
  dsimp only
  split
  case h_1 =>
    split
    · exact .ok _
    · exact .error trivial
  case h_2 =>
    split
    · exact .ok _
    · exact .error trivial
  case h_11 => exact .error trivial
  all_goals exact .ok _

end TableFilter
