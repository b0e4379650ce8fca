import TableFilter.Operation
import TableFilter.Proofs.Value.Types

/-!
# Types of operations

An operation is carried out in the type of one of its operands, to which both can be converted as
far as their types go. The strict operators give a null if an operand is a null, and otherwise
compute in the type of the operation.

## Main definitions

* `Operator.isStrict`: all operators but the logical ones and the tests for null

## Main results

* `BinaryOperator.operationType_eq_ok`: the types that operations are carried out in
* `BinaryOperator.converts_of_definedType`: operands can be converted to the type of the operation
* `BinaryOperator.apply_of_type`, `BinaryOperator.apply_of_refusal`: operators by the type of the
  operation
-/

namespace TableFilter

open Result

/-! ### Types of operations -/

namespace DataType

variable {left right type : DataType}

/-- The wider of two types is one of them. -/
theorem wider?_eq_some (h : left.wider? right = some type) : type = left ∨ type = right := by
  obtain ⟨m, -, h⟩ := Option.bind_eq_some_iff.1 h
  obtain ⟨n, -, h⟩ := Option.bind_eq_some_iff.1 h
  obtain rfl := Option.some.inj h
  split
  · exact .inl rfl
  · exact .inr rfl

/-- Types of which one is the wider are numeric, and so is the wider one. -/
theorem isNumeric_of_wider? (h : left.wider? right = some type) :
    left.isNumeric = true ∧ right.isNumeric = true ∧ type.isNumeric = true := by
  have wider := wider?_eq_some h
  obtain ⟨m, hm, h⟩ := Option.bind_eq_some_iff.1 h
  obtain ⟨n, hn, -⟩ := Option.bind_eq_some_iff.1 h
  have hleft : left.isNumeric = true := Option.isSome_of_eq_some hm
  have hright : right.isNumeric = true := Option.isSome_of_eq_some hn
  refine ⟨hleft, hright, ?_⟩
  rcases wider with rfl | rfl
  · exact hleft
  · exact hright

theorem isNumeric_of_isInteger (h : type.isInteger = true) : type.isNumeric = true := by
  cases type with
  | boolean | int32 | int64 => rfl
  | _ => exact nomatch h

/-- Numbers are converted to the wider of their types. -/
theorem converts_of_wider? (h : left.wider? right = some type) :
    left.ConvertsTo type ∧ right.ConvertsTo type := by
  obtain ⟨hleft, hright, htype⟩ := isNumeric_of_wider? h
  exact ⟨.numeric hleft htype, .numeric hright htype⟩

end DataType

namespace BinaryOperator

variable {op : BinaryOperator} {left right type : DataType}

theorem numericType_eq_ok (h : op.numericType left right = .ok type) :
    left.wider? right = some type := by
  rw [numericType] at h
  split at h
  case h_1 wider => exact Except.ok.inj h ▸ wider
  case h_2 => exact nomatch h

theorem comparisonType_eq_ok (h : op.comparisonType left right = .ok type) :
    type = left ∨ type = right := by
  unfold comparisonType at h
  split at h
  · exact .inl (Except.ok.inj h).symm
  · exact .inr (Except.ok.inj h).symm
  · exact .inr (Except.ok.inj h).symm
  · exact .inl (Except.ok.inj h).symm
  · exact .inl (Except.ok.inj h).symm
  · exact .inl (Except.ok.inj h).symm
  · exact DataType.wider?_eq_some (numericType_eq_ok h)

/-- Arithmetic is on numbers, or joins texts. -/
theorem arithmeticType_eq_ok {kind : ArithmeticOperator}
    (h : (arithmetic kind).definedType left right = .ok type) :
    kind = .add ∧ (left = .string ∨ right = .string) ∧ type = .string ∨
      left.wider? right = some type := by
  dsimp only [definedType] at h
  split at h
  case isTrue text =>
    rw [Bool.and_eq_true, Bool.or_eq_true, beq_iff_eq, beq_iff_eq, beq_iff_eq] at text
    exact .inl ⟨text.1, text.2, (Except.ok.inj h).symm⟩
  case isFalse => exact .inr (numericType_eq_ok h)

/-- What accepts types under a condition and refuses them otherwise. -/
theorem ite_refuse_eq_ok {accepts : Bool} {r : Result DataType}
    (h : (if accepts = true then r else op.refuse left right) = .ok type) :
    accepts = true ∧ r = .ok type := by
  split at h
  case isTrue accepted => exact ⟨accepted, h⟩
  case isFalse => exact nomatch h

theorem integerType_eq_ok {kind : IntegerOperator}
    (h : (integer kind).definedType left right = .ok type) :
    left.isInteger = true ∧ right.isInteger = true ∧ left.wider? right = some type := by
  obtain ⟨integers, h⟩ := ite_refuse_eq_ok h
  rw [Bool.and_eq_true] at integers
  exact ⟨integers.1, integers.2, numericType_eq_ok h⟩

theorem shiftType_eq_ok {kind : ShiftOperator}
    (h : (shift kind).definedType left right = .ok type) :
    left.isInteger = true ∧ right.isInteger = true ∧ type = left := by
  obtain ⟨integers, h⟩ := ite_refuse_eq_ok h
  rw [Bool.and_eq_true] at integers
  exact ⟨integers.1, integers.2, (Except.ok.inj h).symm⟩

theorem likeType_eq_ok {negated exact : Bool}
    (h : (like negated exact).definedType left right = .ok type) :
    left = .string ∧ right = .string ∧ type = left := by
  obtain ⟨texts, h⟩ := ite_refuse_eq_ok h
  rw [Bool.and_eq_true, beq_iff_eq, beq_iff_eq] at texts
  exact ⟨texts.1, texts.2, (Except.ok.inj h).symm⟩

theorem logicalType_eq_ok {kind : LogicalOperator}
    (h : (logical kind).definedType left right = .ok type) :
    left = .boolean ∧ right = .boolean ∧ type = .boolean := by
  obtain ⟨booleans, h⟩ := ite_refuse_eq_ok h
  rw [Bool.and_eq_true, beq_iff_eq, beq_iff_eq] at booleans
  exact ⟨booleans.1, booleans.2, (Except.ok.inj h).symm⟩

theorem definedType_eq_ok (h : op.definedType left right = .ok type) :
    type = left ∨ type = right := by
  cases op with
  | arithmetic kind =>
    obtain ⟨-, text, rfl⟩ | wider := arithmeticType_eq_ok h
    · exact text.imp Eq.symm Eq.symm
    · exact DataType.wider?_eq_some wider
  | integer kind => exact DataType.wider?_eq_some (integerType_eq_ok h).2.2
  | shift kind => exact .inl (shiftType_eq_ok h).2.2
  | comparison kind => exact comparisonType_eq_ok h
  | like negated exact => exact .inl (likeType_eq_ok h).2.2
  | logical kind =>
    obtain ⟨rfl, -, htype⟩ := logicalType_eq_ok h
    exact .inl htype

theorem operationType_of_defined (hleft : left ≠ .undefined) (hright : right ≠ .undefined) :
    op.operationType left right = op.definedType left right := by
  rw [operationType, if_neg]
  simp [hleft, hright]

theorem operationType_of_undefined (h : left = .undefined ∨ right = .undefined) :
    op.operationType left right = .ok .undefined := by
  rw [operationType, if_pos]
  simpa using h

/-- An operation in a type has operands that have types. -/
theorem definedType_of_operationType (htype : type ≠ .undefined)
    (h : op.operationType left right = .ok type) : op.definedType left right = .ok type := by
  by_cases undefined : left = .undefined ∨ right = .undefined
  · rw [operationType_of_undefined undefined] at h
    exact absurd (Except.ok.inj h).symm htype
  · rwa [operationType_of_defined (not_or.1 undefined).1 (not_or.1 undefined).2] at h

/-- An operation is carried out in the type of one of its operands. -/
theorem operationType_eq_ok (h : op.operationType left right = .ok type) :
    type = left ∨ type = right := by
  by_cases undefined : left = .undefined ∨ right = .undefined
  · rw [operationType_of_undefined undefined] at h
    exact Except.ok.inj h ▸ undefined.imp Eq.symm Eq.symm
  · obtain ⟨hleft, hright⟩ := not_or.1 undefined
    rw [operationType_of_defined hleft hright] at h
    exact definedType_eq_ok h

theorem converts_of_comparisonType (hleft : left ≠ .undefined) (hright : right ≠ .undefined)
    (h : op.comparisonType left right = .ok type) :
    left.ConvertsTo type ∧ right.ConvertsTo type := by
  unfold comparisonType at h
  split at h
  · exact absurd rfl hleft
  · exact absurd rfl hright
  · obtain rfl := Except.ok.inj h
    exact ⟨.ofText hright, .refl _⟩
  · obtain rfl := Except.ok.inj h
    exact ⟨.refl _, .ofText hleft⟩
  · obtain rfl := Except.ok.inj h
    exact ⟨.refl _, .refl _⟩
  · obtain rfl := Except.ok.inj h
    exact ⟨.refl _, .refl _⟩
  · exact DataType.converts_of_wider? (numericType_eq_ok h)

/-- The operands of an operation can be converted to its type, as far as types go. -/
theorem converts_of_definedType (hleft : left ≠ .undefined) (hright : right ≠ .undefined)
    (h : op.definedType left right = .ok type) :
    left.ConvertsTo type ∧ right.ConvertsTo type := by
  cases op with
  | arithmetic kind =>
    obtain ⟨-, -, rfl⟩ | wider := arithmeticType_eq_ok h
    · exact ⟨.toText left, .toText right⟩
    · exact DataType.converts_of_wider? wider
  | integer kind => exact DataType.converts_of_wider? (integerType_eq_ok h).2.2
  | shift kind =>
    obtain ⟨hinteger, amount, rfl⟩ := shiftType_eq_ok h
    exact ⟨.refl _, .numeric (DataType.isNumeric_of_isInteger amount)
      (DataType.isNumeric_of_isInteger hinteger)⟩
  | comparison kind => exact converts_of_comparisonType hleft hright h
  | like negated exact =>
    obtain ⟨rfl, rfl, rfl⟩ := likeType_eq_ok h
    exact ⟨.refl _, .refl _⟩
  | logical kind =>
    obtain ⟨rfl, rfl, rfl⟩ := logicalType_eq_ok h
    exact ⟨.refl _, .refl _⟩

end BinaryOperator

/-! ### Operators by the type of the operation -/

/-- Whether an operator gives a null for a null, whatever the other operand is. -/
def Operator.isStrict : Operator → Bool
  | .binary (.logical _) | .nullTest _ => false
  | .binary _ => true

namespace BinaryOperator

variable {op : BinaryOperator} {a b : Value} {type : DataType}

/-- A strict operator that refuses the types of its operands fails. -/
theorem apply_of_refusal (hop : (Operator.binary op).isStrict = true) {e : Error}
    (h : op.operationType a.dataType b.dataType = .error e) : op.apply a b = .error e := by
  cases op with
  | logical kind => exact nomatch hop
  | _ =>
    dsimp only [apply]
    rw [h, error_bind]

/-- A type that is undefined is that of a null operand. -/
theorem undefined_or_isNull (h : op.operationType a.dataType b.dataType = .ok type) :
    (type == .undefined || a.isNull || b.isNull) = (a.isNull || b.isNull) := by
  rw [Bool.or_assoc]
  cases hnull : a.isNull || b.isNull with
  | true => exact Bool.or_true _
  | false =>
    obtain ⟨ha, hb⟩ := Bool.or_eq_false_iff.1 hnull
    have defined : type ≠ .undefined := by
      rintro rfl
      rcases operationType_eq_ok h with htype | htype
      · exact Bool.false_ne_true (ha.symm.trans (Value.isNull_of_undefined htype.symm))
      · exact Bool.false_ne_true (hb.symm.trans (Value.isNull_of_undefined htype.symm))
    rw [beq_false_of_ne defined, Bool.false_or]

/-- A strict operator that accepts the types of its operands gives a null if one of them is a null,
and otherwise computes in the type of the operation. -/
theorem apply_of_type (hop : (Operator.binary op).isStrict = true)
    (h : op.operationType a.dataType b.dataType = .ok type) :
    op.apply a b =
      if (a.isNull || b.isNull) = true then .ok (.null (op.resultType type))
      else op.applyPresent type a b := by
  cases op with
  | logical kind => exact nomatch hop
  | _ =>
    dsimp only [apply]
    rw [h, ok_bind, undefined_or_isNull h]

/-- A strict operator on two values that are no nulls. -/
theorem apply_of_present (hop : (Operator.binary op).isStrict = true) (ha : a.isNull = false)
    (hb : b.isNull = false) (h : op.definedType a.dataType b.dataType = .ok type) :
    op.apply a b = op.applyPresent type a b := by
  have typed : op.operationType a.dataType b.dataType = .ok type :=
    (operationType_of_defined (Value.isOf_of_present ha).type_ne
      (Value.isOf_of_present hb).type_ne).trans h
  rw [apply_of_type hop typed, ha, hb, Bool.or_false, if_neg Bool.false_ne_true]

/-- A strict operator gives a null for a null. -/
theorem apply_null_or_present (hop : (Operator.binary op).isStrict = true)
    (h : op.operationType a.dataType b.dataType = .ok type) :
    (a.isNull = true ∨ b.isNull = true) ∧ op.apply a b = .ok (.null (op.resultType type)) ∨
      a.isNull = false ∧ b.isNull = false := by
  cases hnull : a.isNull || b.isNull with
  | true => exact .inl ⟨Bool.or_eq_true_iff.1 hnull, by rw [apply_of_type hop h, if_pos hnull]⟩
  | false => exact .inr (Bool.or_eq_false_iff.1 hnull)

end BinaryOperator

end TableFilter
