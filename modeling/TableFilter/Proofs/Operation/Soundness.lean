import TableFilter.Proofs.Operation.Results

/-!
# What operators give

Tests give truth values: comparisons, matches, conjunctions, disjunctions and tests for null. All
other operators give values of the type of the operation. What a strict operator gives is a null for
a null operand, and for no other.

Two values are compared by a case for each type, with a last case that is not meant to be reached:
that of two values that neither share a type nor include a null. Comparing values and applying
operators are given here once more so that they stop there without a result. They always have one,
the result that they have anyway.

## Main definitions

* `Operator.isTest`: operators that give truth values
* `Value.orderOrStop`, `Value.compareOrStop`, `Operator.applyOrStop`: comparing values and applying
  operators, without a result where two values do not share a type

## Main results

* `Value.compareOrStop_eq`, `Operator.applyOrStop_eq`: no comparison stops without a result
* `operators_sound`: types and nulls of results and conversions
-/

namespace TableFilter

open Result

/-- Whether an operator gives truth values. -/
def Operator.isTest : Operator → Bool
  | .binary (.arithmetic _) | .binary (.integer _) | .binary (.shift _) => false
  | .binary (.comparison _) | .binary (.like _ _) | .binary (.logical _) | .nullTest _ => true

/-! ### Comparing values that share a type -/

/-- Results of what may also stop without one. -/
abbrev Stopping := ExceptT Error Option

/-- Stops without a result. -/
def Stopping.stop {α : Type} : Stopping α := ExceptT.mk none

namespace Value

/-- The order of two values that share a type, none if one of them is a null. It stops at two values
of different types. -/
def orderOrStop (exact : Bool) : Value → Value → Stopping (Option Ordering)
  | .boolean a, .boolean b => return some (compareBoolean a b)
  | .int32 a, .int32 b => return some (Ord.compare a.toInt b.toInt)
  | .int64 a, .int64 b => return some (Ord.compare a.toInt b.toInt)
  | .decimal a, .decimal b => return some (a.compareValues b)
  | .double a, .double b => return compareDouble a b
  | .string a, .string b => return some (compareText exact a b)
  | .guid a, .guid b => return some (a.order b)
  | .dateTime a, .dateTime b => return some (a.order b)
  | .null _, _ | _, .null _ => return none
  | _, _ => .stop

/-- The order of two values in the type of their comparison, or a stop. -/
def compareOrStop (exact : Bool) (a b : Value) : Stopping (Option Ordering) := do
  let type ← (BinaryOperator.comparison (.equal exact)).comparisonType a.dataType b.dataType
  if type == .undefined || a.isNull || b.isNull then return none
  else
    let a ← a.convert type
    let b ← b.convert type
    orderOrStop exact a b

end Value

/-- An operator on two values, or a stop. Only comparisons order values. -/
def Operator.applyOrStop (op : Operator) (a b : Value) : Stopping Value :=
  match op with
  | .binary (.comparison op) => do
    let type ← (BinaryOperator.comparison op).operationType a.dataType b.dataType
    if type == .undefined || a.isNull || b.isNull then return .null .boolean
    else
      let a ← a.convert type
      let b ← b.convert type
      return .boolean (op.holds (← a.orderOrStop op.isExact b))
  | _ => liftM (op.apply a b)

namespace Stopping

variable {α β : Type}

/-- A step that has a result, before a step that does not stop at this result. -/
theorem lift_bind_eq {r : Result α} {f : α → Stopping β} {g : α → Result β}
    (h : ∀ a, r = .ok a → f a = liftM (g a)) : (liftM r >>= f) = liftM (r >>= g) := by
  cases r with
  | ok a => exact h a rfl
  | error e => rfl

end Stopping

section Reached

variable {exact : Bool} {a b : Value}

/-- Values that share a type are ordered without a stop. -/
theorem Value.orderOrStop_eq {type : DataType} (ha : a.IsOf type) (hb : b.IsOf type) :
    a.orderOrStop exact b = pure (a.comparePresent exact b) := by
  cases ha <;> cases hb <;> rfl

/-- Values are compared without a stop: two values that have been converted share a type. -/
theorem Value.compareOrStop_eq (exact : Bool) (a b : Value) :
    (a.compareOrStop exact b).run = some (a.compare exact b) := by
  have lifted : a.compareOrStop exact b = liftM (a.compare exact b) := by
    refine Stopping.lift_bind_eq fun type _ => ?_
    split
    case isTrue => rfl
    case isFalse present =>
      simp only [Bool.or_eq_true, not_or, Bool.not_eq_true] at present
      refine Stopping.lift_bind_eq fun a' ha => Stopping.lift_bind_eq fun b' hb => ?_
      exact orderOrStop_eq (isOf_of_convert present.1.2 ha) (isOf_of_convert present.2 hb)
  rw [lifted]
  rfl

/-- Operators are applied without a stop. -/
theorem Operator.applyOrStop_eq (op : Operator) (a b : Value) :
    (op.applyOrStop a b).run = some (op.apply a b) := by
  have lifted : op.applyOrStop a b = liftM (op.apply a b) := by
    unfold applyOrStop
    split
    case h_1 kind =>
      refine Stopping.lift_bind_eq fun type _ => ?_
      split
      case isTrue => rfl
      case isFalse present =>
        simp only [Bool.or_eq_true, not_or, Bool.not_eq_true] at present
        refine Stopping.lift_bind_eq fun a' ha => Stopping.lift_bind_eq fun b' hb => ?_
        rw [Value.orderOrStop_eq (Value.isOf_of_convert present.1.2 ha)
          (Value.isOf_of_convert present.2 hb)]
        rfl
    case h_2 => rfl
  rw [lifted]
  rfl

end Reached

/-! ### Results of operators -/

section Results

variable {a b v : Value}

/-- What a logical operator gives is a truth value, which may be unknown. -/
theorem LogicalOperator.dataType_of_onValues {op : LogicalOperator}
    (h : op.onValues a b = .ok v) : v.dataType = .boolean := by
  unfold onValues at h
  split at h
  · split at h
    · exact Except.ok.inj h ▸ rfl
    · exact Except.ok.inj h ▸ rfl
  · exact nomatch h

/-- What a strict operator gives: a null for a null, and otherwise a value. -/
theorem BinaryOperator.apply_eq_ok {op : BinaryOperator}
    (hop : (Operator.binary op).isStrict = true) (h : (Operator.binary op).apply a b = .ok v) :
    ∃ type, op.operationType a.dataType b.dataType = .ok type ∧
      v.dataType = op.resultType type ∧ v.isNull = (a.isNull || b.isNull) := by
  cases htype : op.operationType a.dataType b.dataType with
  | error e =>
    rw [Operator.apply, apply_of_refusal hop htype] at h
    exact nomatch h
  | ok type =>
    refine ⟨type, rfl, ?_⟩
    rw [Operator.apply, apply_of_type hop htype] at h
    split at h
    case isTrue nulls =>
      obtain rfl := Except.ok.inj h
      exact ⟨rfl, nulls.symm⟩
    case isFalse present =>
      have nulls := Bool.eq_false_iff.2 present
      obtain ⟨ha, hb⟩ := Bool.or_eq_false_iff.1 nulls
      have hv := (h ▸ applyPresent_computed hop ha hb htype).isOf
      exact ⟨hv.dataType, hv.isNull.trans nulls.symm⟩

/-- What a test gives is a truth value, which may be unknown. -/
theorem Operator.dataType_of_isTest {op : Operator} (hop : op.isTest = true)
    (h : op.apply a b = .ok v) : v.dataType = .boolean := by
  cases op with
  | nullTest negated => exact Except.ok.inj h ▸ rfl
  | binary op =>
    cases op with
    | comparison | like =>
      obtain ⟨type, -, hv, -⟩ := BinaryOperator.apply_eq_ok (by rfl) h
      exact hv
    | logical kind => exact kind.dataType_of_onValues h
    | _ => exact nomatch hop

/-- What an operator gives that is no test is of the type of the operation. -/
theorem Operator.operationType_of_not_isTest {op : Operator} (hop : op.isTest = false)
    (h : op.apply a b = .ok v) : op.operationType a.dataType b.dataType = .ok v.dataType := by
  cases op with
  | nullTest negated => exact nomatch hop
  | binary op =>
    cases op with
    | arithmetic | integer | shift =>
      obtain ⟨type, htype, hv, -⟩ := BinaryOperator.apply_eq_ok (by rfl) h
      exact htype.trans (congrArg Except.ok hv.symm)
    | _ => exact nomatch hop

/-- A strict operator gives a null if one of its operands is a null. -/
theorem Operator.isNull_of_isStrict {op : Operator} (hop : op.isStrict = true)
    (h : op.apply a b = .ok v) : v.isNull = (a.isNull || b.isNull) := by
  cases op with
  | nullTest negated => exact nomatch hop
  | binary op =>
    obtain ⟨-, -, -, hnull⟩ := BinaryOperator.apply_eq_ok hop h
    exact hnull

end Results

/-- Operators are sound. What an operator gives is a truth value for a test, and of the type of the
operation for all other operators; for a strict operator it is a null if an operand is one. What a
value is converted to is of the type that was asked for, and a null if the value is one. Applying
operators and comparing values never stop at two values of different types. -/
theorem operators_sound :
    (∀ (op : Operator) (a b v : Value), op.apply a b = .ok v →
      (op.isTest = true → v.dataType = .boolean) ∧
      (op.isTest = false → op.operationType a.dataType b.dataType = .ok v.dataType) ∧
      (op.isStrict = true → (v.isNull = true ↔ a.isNull = true ∨ b.isNull = true))) ∧
    (∀ (v w : Value) (type : DataType), v.convert type = .ok w →
      w.dataType = type ∧ (w.isNull = true ↔ v.isNull = true)) ∧
    (∀ (op : Operator) (a b : Value), (op.applyOrStop a b).run = some (op.apply a b)) ∧
    ∀ (exact : Bool) (a b : Value),
      (a.compareOrStop exact b).run = some (a.compare exact b) := by
  refine ⟨fun op a b v h => ⟨fun hop => ?_, fun hop => ?_, fun hop => ?_⟩, fun v w type h => ?_,
    Operator.applyOrStop_eq, Value.compareOrStop_eq⟩
  · exact Operator.dataType_of_isTest hop h
  · exact Operator.operationType_of_not_isTest hop h
  · rw [Operator.isNull_of_isStrict hop h, Bool.or_eq_true]
  · rw [Value.isNull_of_convert h]
    exact ⟨Value.dataType_of_convert h, Iff.rfl⟩

/-- A sum of integers of two widths, the conversion of its first operand, and their comparison. -/
theorem sum_of_widths_sound :
    (Operator.binary (.arithmetic .add)).apply (.int32 1) (.int64 2) = .ok (.int64 3) ∧
      (Operator.binary (.arithmetic .add)).operationType .int32 .int64 =
        .ok (Value.int64 3).dataType ∧
      (Value.int32 1).convert .int64 = .ok (.int64 1) ∧ (Value.int64 1).dataType = .int64 ∧
      ((Operator.binary (.comparison .less)).applyOrStop (.int32 1) (.int64 2)).run =
        some ((Operator.binary (.comparison .less)).apply (.int32 1) (.int64 2)) ∧
      ((Value.int32 1).compareOrStop true (.int64 2)).run =
        some ((Value.int32 1).compare true (.int64 2)) := by
  have sum : (Operator.binary (.arithmetic .add)).apply (.int32 1) (.int64 2) =
      .ok (.int64 3) := by rfl
  have converted : (Value.int32 1).convert .int64 = .ok (.int64 1) := by rfl
  obtain ⟨typed, conversions, applied, compared⟩ := operators_sound
  exact ⟨sum, (typed _ _ _ _ sum).2.1 rfl, converted, (conversions _ _ _ converted).1,
    applied _ _ _, compared _ _ _⟩

end TableFilter
