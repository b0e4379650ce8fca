import TableFilter.Proofs.Operation.Results

/-!
# Operators refuse what their types refuse

Whether an operator has a meaning for its operands is told by their types, which give the type of
the operation or refuse. A strict operator fails with a type error exactly where its types refuse,
and with that error: where they accept, both operands can be converted to the type of the operation,
and an operation on two values of this type never fails because of types. Logical operators do not
ask for the type of the operation. They refuse in one more case: a null without a type beside an
operand that is no truth value, which the types accept.

## Main definitions

* `Operator.RefusesUntyped`: what logical operators refuse beyond the types

## Main results

* `BinaryOperator.apply_eq_typing_iff`: the type errors of strict operators
* `Operator.refuses_iff`: the type errors of operators
-/

namespace TableFilter

/-! ### Operators -/

section Operators

variable {a b : Value} {f : TypeFault}

/-- A strict operator fails with a type error exactly if the types of its operands are refused. -/
theorem BinaryOperator.apply_eq_typing_iff {op : BinaryOperator}
    (hop : (Operator.binary op).isStrict = true) :
    (Operator.binary op).apply a b = .error (.typing f) ↔
      op.operationType a.dataType b.dataType = .error (.typing f) := by
  rw [Operator.apply]
  cases htype : op.operationType a.dataType b.dataType with
  | error e => rw [apply_of_refusal hop htype, Except.error.injEq, Except.error.injEq]
  | ok type =>
    rw [apply_of_type hop htype]
    refine iff_of_false ?_ nofun
    split
    case isTrue => exact nofun
    case isFalse present =>
      obtain ⟨ha, hb⟩ := Bool.or_eq_false_iff.1 (Bool.eq_false_iff.2 present)
      exact (applyPresent_computed hop ha hb htype).ne_typing f

/-- Truth values, known or not, are those of their type and the nulls without a type. -/
theorem truthOf?_eq_none_iff {v : Value} :
    truthOf? v = none ↔ v.dataType ≠ .boolean ∧ v.dataType ≠ .undefined := by
  cases v with
  | null type => cases type <;> simp [truthOf?, Value.dataType]
  | _ => simp [truthOf?, Value.dataType]

/-- A logical operator refuses operands of which one is no truth value. -/
theorem LogicalOperator.onValues_eq_typing_iff {op : LogicalOperator} :
    op.onValues a b = .error (.typing f) ↔
      (truthOf? a = none ∨ truthOf? b = none) ∧
        f = .operation (.logical op) a.dataType b.dataType := by
  unfold onValues
  split
  case h_1 p q hp hq =>
    refine iff_of_false ?_ fun h => ?_
    · split <;> exact nofun
    · rw [hp, hq] at h
      exact h.1.elim nofun nofun
  case h_2 unknown =>
    have refused : truthOf? a = none ∨ truthOf? b = none := by
      cases hp : truthOf? a with
      | none => exact .inl rfl
      | some p => exact .inr (Option.eq_none_iff_forall_ne_some.2 (unknown p · hp))
    rw [BinaryOperator.refuseValues, Except.error.injEq, Error.typing.injEq, eq_comm,
      and_iff_right refused]

/-- The types of a logical operator are refused if both are defined and one of them is not that of
truth values. -/
theorem BinaryOperator.logicalType_eq_typing_iff {kind : LogicalOperator} {left right : DataType} :
    (logical kind).operationType left right = .error (.typing f) ↔
      (left ≠ .undefined ∧ right ≠ .undefined) ∧ (left ≠ .boolean ∨ right ≠ .boolean) ∧
        f = .operation (.logical kind) left right := by
  by_cases undefined : left = .undefined ∨ right = .undefined
  · rw [operationType_of_undefined undefined]
    exact iff_of_false nofun fun h => undefined.elim h.1.1 h.1.2
  · have defined := not_or.1 undefined
    rw [operationType_of_defined defined.1 defined.2, and_iff_right defined]
    dsimp only [definedType]
    split
    case isTrue booleans =>
      rw [Bool.and_eq_true, beq_iff_eq, beq_iff_eq] at booleans
      exact iff_of_false nofun fun h => h.1.elim (· booleans.1) (· booleans.2)
    case isFalse other =>
      rw [Bool.and_eq_true, beq_iff_eq, beq_iff_eq, Decidable.not_and_iff_not_or_not] at other
      rw [refuse, Except.error.injEq, Error.typing.injEq, eq_comm, and_iff_right other]

/-- Types are never refused where one of them is undefined. -/
theorem Operator.ne_undefined_of_refusal {op : Operator} {left right : DataType} {e : Error}
    (h : op.operationType left right = .error e) : left ≠ .undefined ∧ right ≠ .undefined := by
  cases op with
  | nullTest negated => exact nomatch h
  | binary op =>
    refine not_or.1 fun undefined => ?_
    rw [operationType, BinaryOperator.operationType_of_undefined undefined] at h
    exact nomatch h

end Operators

/-! ### What is refused beyond the types -/

/-- The types of a null without a type, and of what has a type and is no truth value. -/
def DataType.UntypedBeside (untyped other : DataType) : Prop :=
  untyped = .undefined ∧ other ≠ .undefined ∧ other ≠ .boolean

/-- The type error of a logical operator on a null without a type beside what has a type and is no
truth value. -/
def Operator.RefusesUntyped (op : Operator) (left right : DataType) (f : TypeFault) : Prop :=
  ∃ kind, op = .binary (.logical kind) ∧ f = .operation (.logical kind) left right ∧
    (left.UntypedBeside right ∨ right.UntypedBeside left)

theorem DataType.not_both_truth_iff (left right : DataType) :
    (left ≠ .boolean ∧ left ≠ .undefined ∨ right ≠ .boolean ∧ right ≠ .undefined) ↔
      (left ≠ .undefined ∧ right ≠ .undefined) ∧ (left ≠ .boolean ∨ right ≠ .boolean) ∨
        (left.UntypedBeside right ∨ right.UntypedBeside left) := by
  unfold UntypedBeside
  by_cases hleft : left = .undefined <;> by_cases hright : right = .undefined <;>
    simp [hleft, hright]

/-- An operator fails with a type error exactly if the types of its operands are refused, and with
the same error, but for one case: a logical operator also refuses a null without a type beside what
has a type and is no truth value. Types are never refused where one of them is undefined. -/
theorem Operator.refuses_iff (op : Operator) (a b : Value) (f : TypeFault) :
    (op.apply a b = .error (.typing f) ↔
      op.operationType a.dataType b.dataType = .error (.typing f) ∨
        op.RefusesUntyped a.dataType b.dataType f) ∧
      (op.operationType a.dataType b.dataType = .error (.typing f) →
        a.dataType ≠ .undefined ∧ b.dataType ≠ .undefined) := by
  refine ⟨?_, ne_undefined_of_refusal⟩
  cases op with
  | nullTest negated =>
    refine iff_of_false nofun ?_
    rintro (h | ⟨kind, h, -⟩)
    · exact nomatch h
    · exact nomatch h
  | binary op =>
    cases op with
    | logical kind =>
      refine LogicalOperator.onValues_eq_typing_iff.trans ?_
      rw [truthOf?_eq_none_iff, truthOf?_eq_none_iff, DataType.not_both_truth_iff, operationType,
        BinaryOperator.logicalType_eq_typing_iff, or_and_right, and_assoc]
      refine or_congr Iff.rfl ⟨fun ⟨untyped, hf⟩ => ⟨kind, rfl, hf, untyped⟩, ?_⟩
      rintro ⟨_, hkind, hf, untyped⟩
      cases hkind
      exact ⟨untyped, hf⟩
    | _ =>
      refine Iff.trans (BinaryOperator.apply_eq_typing_iff ?strict) (or_iff_left ?_).symm
      case strict => rfl
      rintro ⟨kind, hkind, -⟩
      exact nomatch hkind

/-- The conjunction of a null without a type and an integer is refused. -/
theorem null_and_five_refused :
    (Operator.binary (.logical .and)).apply (.null .undefined) (.int32 5) =
      .error (.typing (.operation (.logical .and) .undefined .int32)) :=
  (Operator.refuses_iff _ _ _ _).1.2 (.inr ⟨.and, rfl, rfl, .inl ⟨rfl, nofun, nofun⟩⟩)

/-- Operators do not refuse the same as types: a null without a type and an integer have no
conjunction, although their types give the conjunction an undefined type. -/
theorem not_refuses_iff :
    ¬∀ (op : Operator) (a b : Value) (f : TypeFault), op.apply a b = .error (.typing f) ↔
      op.operationType a.dataType b.dataType = .error (.typing f) := by
  intro h
  have alike := h (.binary (.logical .and)) (.null .undefined) (.int32 5)
    (.operation (.logical .and) .undefined .int32)
  exact nomatch alike.1 rfl

end TableFilter
