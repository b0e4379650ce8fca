import TableFilter.Proofs.Operation.Types

/-!
# Results of operations

What a strict operator computes from two values, whose types it accepts, is a value of the type of
its results: that of the operation, or that of truth values. There is none if an operand has no
counterpart in the type of the operation, for a division by zero, and for a decimal out of range. In
particular, types that have been accepted never make an operation fail.

## Main definitions

* `Computed`: what an operation gives for two values whose types it accepts

## Main results

* `BinaryOperator.applyPresent_computed`: strict operators on two values
-/

namespace TableFilter

/-- What an operation gives for two values whose types it accepts. -/
inductive Computed (type : DataType) : Result Value → Prop
  | value {v : Value} : v.IsOf type → Computed type (.ok v)
  | unmatched (cause : ConversionFault) : Computed type (.error (.conversion cause))
  | divisionByZero : Computed type (.error .divisionByZero)
  | overflow (op : ArithmeticOperator) : Computed type (.error (.evaluation (.decimalOverflow op)))

variable {a b v : Value} {type result : DataType} {r : Result Value}

namespace Computed

theorem isOf (h : Computed type (.ok v)) : v.IsOf type := by
  cases h with
  | value hv => exact hv

theorem ne_typing (h : Computed type r) (f : TypeFault) : r ≠ .error (.typing f) := by
  cases h <;> exact nofun

/-- Going on with a value that can be converted, as far as its type goes. -/
theorem convert_bind {f : Value → Result Value} (hv : v.isNull = false)
    (htype : v.dataType.ConvertsTo type) (hf : ∀ w, w.IsOf type → Computed result (f w)) :
    Computed result (v.convert type >>= f) := by
  have converted := Value.convert_converted hv type
  generalize v.convert type = r at converted
  cases converted with
  | value hw => exact hf _ hw
  | unmatched cause => exact .unmatched cause
  | refused other => exact absurd htype other

end Computed

/-! ### Words and decimals -/

section Words

variable {w : Nat} {x y : BitVec w} {e : Error}

theorem unlessZero_eq_error {divide : BitVec w → BitVec w → BitVec w}
    (h : unlessZero divide x y = .error e) : e = .divisionByZero := by
  unfold unlessZero at h
  split at h
  · exact (Except.error.inj h).symm
  · exact nomatch h

theorem ArithmeticOperator.onBits_eq_error {op : ArithmeticOperator}
    (h : op.onBits x y = .error e) : e = .divisionByZero := by
  cases op with
  | divide => exact unlessZero_eq_error h
  | _ => exact nomatch h

theorem IntegerOperator.onBits_eq_error {op : IntegerOperator} (h : op.onBits x y = .error e) :
    e = .divisionByZero := by
  cases op with
  | remainder => exact unlessZero_eq_error h
  | _ => exact nomatch h

end Words

/-- An operation on words gives a value of the type of its operands. -/
theorem onIntegers_computed {operation : {w : Nat} → BitVec w → BitVec w → Result (BitVec w)}
    (herror : ∀ {w : Nat} {x y : BitVec w} {e : Error}, operation x y = .error e →
      e = .divisionByZero)
    {otherwise : Result Value} (htype : type.isInteger = true) (ha : a.IsOf type)
    (hb : b.IsOf type) : Computed type ((onIntegers operation a b).getD otherwise) := by
  have word {w : Nat} {x y : BitVec w} {make : BitVec w → Value}
      (hmake : ∀ r, (make r).IsOf type) :
      Computed type (operation x y >>= fun r => .ok (make r)) := by
    cases h : operation x y with
    | ok r => exact .value (hmake r)
    | error e => exact herror h ▸ .divisionByZero
  cases ha <;> cases hb
  case boolean => exact word fun _ => .boolean _
  case int32 => exact word fun _ => .int32 _
  case int64 => exact word fun _ => .int64 _
  all_goals exact nomatch htype

theorem ArithmeticOperator.onDecimals_computed (op : ArithmeticOperator) (x y : Decimal) :
    Computed .decimal ((op.onDecimals x y).map .decimal) := by
  unfold onDecimals
  dsimp only
  split
  · exact .divisionByZero
  · split
    · exact .value (.decimal _)
    · exact .overflow op

/-! ### Operations on values of one type -/

/-- Arithmetic is on two numbers of one type, or joins two texts. -/
theorem ArithmeticOperator.onValues_computed {op : ArithmeticOperator}
    (htype : op = .add ∧ type = .string ∨ type.isNumeric = true) (ha : a.IsOf type)
    (hb : b.IsOf type) : Computed type (op.onValues a b) := by
  have integers (hinteger : type.isInteger = true) :
      Computed type ((onIntegers op.onBits a b).getD
        ((BinaryOperator.arithmetic op).refuseValues a b)) :=
    onIntegers_computed op.onBits_eq_error hinteger ha hb
  cases ha <;> cases hb
  case boolean => exact integers rfl
  case int32 => exact integers rfl
  case int64 => exact integers rfl
  case decimal => exact op.onDecimals_computed _ _
  case double => exact .value (.double _)
  case string =>
    obtain ⟨rfl, -⟩ | numeric := htype
    · exact .value (.string _)
    · exact nomatch numeric
  all_goals exact htype.elim (fun h => nomatch h.2) nofun

theorem ShiftOperator.onValues_computed {op : ShiftOperator} {amount : Int64}
    (htype : type.isInteger = true) (ha : a.IsOf type) :
    Computed type (op.onValues a amount) := by
  cases ha with
  | boolean => exact .value (.boolean _)
  | int32 => exact .value (.int32 _)
  | int64 => exact .value (.int64 _)
  | _ => exact nomatch htype

/-- What a strict operator computes from two values whose types it accepts. -/
theorem BinaryOperator.applyPresent_computed {op : BinaryOperator}
    (hop : (Operator.binary op).isStrict = true) (ha : a.isNull = false) (hb : b.isNull = false)
    (htype : op.operationType a.dataType b.dataType = .ok type) :
    Computed (op.resultType type) (op.applyPresent type a b) := by
  have hleft := (Value.isOf_of_present ha).type_ne
  have hright := (Value.isOf_of_present hb).type_ne
  rw [operationType_of_defined hleft hright] at htype
  obtain ⟨left, right⟩ := converts_of_definedType hleft hright htype
  refine .convert_bind ha left fun a' ha' => ?_
  cases op with
  | arithmetic kind =>
    refine .convert_bind hb right fun b' hb' => kind.onValues_computed ?_ ha' hb'
    obtain ⟨add, -, text⟩ | wider := arithmeticType_eq_ok htype
    · exact .inl ⟨add, text⟩
    · exact .inr (DataType.isNumeric_of_wider? wider).2.2
  | integer kind =>
    obtain ⟨hinteger, hinteger', wider⟩ := integerType_eq_ok htype
    refine .convert_bind hb right fun b' hb' => onIntegers_computed kind.onBits_eq_error ?_ ha' hb'
    obtain rfl | rfl := DataType.wider?_eq_some wider
    · exact hinteger
    · exact hinteger'
  | shift kind =>
    obtain ⟨hinteger, amount, rfl⟩ := shiftType_eq_ok htype
    refine .convert_bind hb (.numeric (DataType.isNumeric_of_isInteger amount) rfl)
      fun b' hb' => ?_
    cases hb'
    exact kind.onValues_computed hinteger ha'
  | comparison kind => exact .convert_bind hb right fun b' hb' => .value (.boolean _)
  | like negated exact =>
    -- both operands are texts already, so that a match has an outcome
    obtain ⟨htext, htext', rfl⟩ := likeType_eq_ok htype
    have hb' := Value.isOf_of_present hb
    rw [htext] at ha'
    rw [htext'] at hb'
    cases ha'
    cases hb'
    exact .value (.boolean _)
  | logical kind => exact nomatch hop

end TableFilter
