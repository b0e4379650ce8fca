import TableFilter.Proofs.Operation.Types
import TableFilter.Proofs.Value.Order

/-!
# Comparing and comparison operators

Values are compared in two ways: to find them in a list, to tell the greatest and to sort by them,
and by the comparison operators. Both convert two values to the type of their comparison and order
what comes out, so that one succeeds exactly if the other does. The operators then read a truth
value off the order.

Which value comes first decides which of them is converted first, and so which error is met. It does
not decide the type of the comparison, so that a comparison the other way round succeeds just as
well and gives the opposite.

## Main definitions

* `Value.Aligns`: two values in the type of their comparison
* `Comparison.Gives`: what an operator gives
* `ReadsOff`, `Trichotomous`: what the operators read off an order, and how they agree

## Main results

* `Value.compare_eq_ok_iff`, `Comparison.apply_eq_ok_iff`: comparing and comparison operators by
  what the values are converted to
* `Comparison.gives_iff`, `Comparison.Gives.compares`: the truth value that is read off an order
* `gives_equal_iff`: equality by the operator and by comparing
* `comparisons_coherent`: comparing and operators agree with each other and the other way round
-/

namespace TableFilter

open Result

/-! ### The type of a comparison -/

namespace BinaryOperator

variable {op : BinaryOperator} {left right type : DataType}

/-- Only the error of a comparison depends on the operator and on which type comes first. -/
theorem comparisonType_comm (h : op.comparisonType left right = .ok type) (op' : BinaryOperator) :
    op'.comparisonType right left = .ok type := by
  have comm : (op'.comparisonType right left).toOption =
      (op.comparisonType left right).toOption := by
    cases left <;> cases right <;> rfl
  rw [h] at comm
  cases hother : op'.comparisonType right left with
  | ok other =>
    rw [hother] at comm
    exact congrArg Except.ok (Option.some.inj comm)
  | error e =>
    rw [hother] at comm
    exact nomatch comm

theorem operationType_comparison (kind : Comparison) (left right : DataType) :
    (comparison kind).operationType left right = (comparison kind).comparisonType left right := by
  by_cases undefined : left = .undefined ∨ right = .undefined
  · rw [operationType_of_undefined undefined]
    rcases undefined with rfl | rfl
    · rfl
    · cases left <;> rfl
  · obtain ⟨hleft, hright⟩ := not_or.1 undefined
    exact operationType_of_defined hleft hright

end BinaryOperator

/-! ### Values in the type of their comparison -/

section Aligned

/-- What is ordered where two values are compared: both in the type of their comparison, or nothing
if one of them is a null. -/
inductive Value.Aligns (a b : Value) : Option (Value × Value) → Prop
  | null {type : DataType} :
      (∀ kind : Comparison, (BinaryOperator.comparison kind).operationType a.dataType b.dataType =
        .ok type) →
      (a.isNull || b.isNull) = true → Aligns a b none
  | values {type : DataType} {v w : Value} :
      (∀ kind : Comparison, (BinaryOperator.comparison kind).operationType a.dataType b.dataType =
        .ok type) →
      (a.isNull || b.isNull) = false → a.convert type = .ok v → b.convert type = .ok w →
      Aligns a b (some (v, w))

variable {a b : Value} {p : Option (Value × Value)} {op : Comparison}

/-- All comparison operators compare in one type, whichever operand comes first. -/
theorem Comparison.operationType_comm {type : DataType}
    (h : (BinaryOperator.comparison op).operationType a.dataType b.dataType = .ok type)
    (op' : Comparison) :
    (BinaryOperator.comparison op').operationType b.dataType a.dataType = .ok type := by
  rw [BinaryOperator.operationType_comparison] at h ⊢
  exact BinaryOperator.comparisonType_comm h _

theorem Comparison.operationType_congr {type : DataType}
    (h : (BinaryOperator.comparison op).operationType a.dataType b.dataType = .ok type)
    (op' : Comparison) :
    (BinaryOperator.comparison op').operationType a.dataType b.dataType = .ok type :=
  operationType_comm (operationType_comm h op) op'

theorem Value.Aligns.swap (h : a.Aligns b p) : b.Aligns a (p.map Prod.swap) := by
  cases h with
  | null htype hnull =>
    exact .null (fun op => Comparison.operationType_comm (htype op) op)
      (Bool.or_comm _ _ ▸ hnull)
  | values htype hnull hv hw =>
    exact .values (fun op => Comparison.operationType_comm (htype op) op)
      (Bool.or_comm _ _ ▸ hnull) hw hv

/-- Comparing succeeds with the order of the values in the type of their comparison. -/
theorem Value.compare_eq_ok_iff {exact : Bool} {o : Option Ordering} :
    a.compare exact b = .ok o ↔
      ∃ p, a.Aligns b p ∧ (p.bind fun q => comparePresent exact q.1 q.2) = o := by
  constructor
  · intro h
    obtain ⟨type, htype, h⟩ := bind_eq_ok.1 h
    rw [← BinaryOperator.operationType_comparison] at htype
    rw [BinaryOperator.undefined_or_isNull htype] at h
    have types := Comparison.operationType_congr htype
    split at h
    case isTrue hnull => exact ⟨none, .null types hnull, Except.ok.inj h⟩
    case isFalse hnull =>
      obtain ⟨v, hv, h⟩ := bind_eq_ok.1 h
      obtain ⟨w, hw, h⟩ := bind_eq_ok.1 h
      exact ⟨some (v, w), .values types (Bool.eq_false_iff.2 hnull) hv hw, Except.ok.inj h⟩
  · rintro ⟨p, halign, rfl⟩
    rw [compare, ← BinaryOperator.operationType_comparison]
    cases halign with
    | null types hnull =>
      rw [types, ok_bind, BinaryOperator.undefined_or_isNull (types .less), if_pos hnull]
      rfl
    | values types hnull hv hw =>
      rw [types, ok_bind, BinaryOperator.undefined_or_isNull (types .less), hnull, hv, hw]
      rfl

/-- A comparison operator succeeds with a null, or with what it says about the order of the values
in the type of their comparison. -/
theorem Comparison.apply_eq_ok_iff {v : Value} :
    (Operator.binary (.comparison op)).apply a b = .ok v ↔
      ∃ p, a.Aligns b p ∧ (p.elim (.null .boolean) fun q =>
        .boolean (op.holds (Value.comparePresent op.isExact q.1 q.2))) = v := by
  constructor
  · intro h
    cases htype : (BinaryOperator.comparison op).operationType a.dataType b.dataType with
    | error e =>
      rw [Operator.apply, BinaryOperator.apply_of_refusal rfl htype] at h
      exact nomatch h
    | ok type =>
      rw [Operator.apply, BinaryOperator.apply_of_type rfl htype] at h
      have types := operationType_congr htype
      split at h
      case isTrue hnull => exact ⟨none, .null types hnull, Except.ok.inj h⟩
      case isFalse hnull =>
        obtain ⟨v, hv, h⟩ := bind_eq_ok.1 h
        obtain ⟨w, hw, h⟩ := bind_eq_ok.1 h
        exact ⟨some (v, w), .values types (Bool.eq_false_iff.2 hnull) hv hw, Except.ok.inj h⟩
  · rintro ⟨p, halign, rfl⟩
    cases halign with
    | null types hnull =>
      rw [Operator.apply, BinaryOperator.apply_of_type rfl (types op), if_pos hnull]
      rfl
    | values types hnull hv hw =>
      rw [Operator.apply, BinaryOperator.apply_of_type rfl (types op), hnull,
        if_neg Bool.false_ne_true, BinaryOperator.applyPresent, hv, ok_bind]
      dsimp only
      rw [hw]
      rfl

end Aligned

/-! ### Comparing the other way round, and by operators -/

section Agreement

variable {a b : Value} {o : Option Ordering} {exact : Bool}

theorem Value.compare_swap (h : a.compare exact b = .ok o) :
    b.compare exact a = .ok (o.map Ordering.swap) := by
  obtain ⟨p, halign, rfl⟩ := compare_eq_ok_iff.1 h
  refine compare_eq_ok_iff.2 ⟨_, halign.swap, ?_⟩
  cases p with
  | none => rfl
  | some q => exact comparePresent_swap exact q.1 q.2

theorem Value.compare_eq_ok_comm (exact : Bool) (o : Option Ordering) :
    a.compare exact b = .ok o ↔ b.compare exact a = .ok (o.map Ordering.swap) := by
  refine ⟨compare_swap, fun h => ?_⟩
  have back := compare_swap h
  rw [Option.map_map, show Ordering.swap ∘ Ordering.swap = id from
    funext fun _ => Ordering.swap_swap, Option.map_id] at back
  exact back

/-- An operator succeeds exactly if comparing does, exactly or not. -/
theorem Comparison.exists_apply_iff (op : Comparison) (exact : Bool) :
    (∃ v, (Operator.binary (.comparison op)).apply a b = .ok v) ↔
      ∃ o, a.compare exact b = .ok o := by
  constructor
  · rintro ⟨v, h⟩
    obtain ⟨p, halign, -⟩ := apply_eq_ok_iff.1 h
    exact ⟨_, Value.compare_eq_ok_iff.2 ⟨p, halign, rfl⟩⟩
  · rintro ⟨o, h⟩
    obtain ⟨p, halign, -⟩ := Value.compare_eq_ok_iff.1 h
    exact ⟨_, apply_eq_ok_iff.2 ⟨p, halign, rfl⟩⟩

/-- An operator gives a null for a null. -/
theorem Comparison.apply_of_null {op : Comparison} {v : Value}
    (hnull : (a.isNull || b.isNull) = true)
    (h : (Operator.binary (.comparison op)).apply a b = .ok v) : v = .null .boolean := by
  obtain ⟨p, halign, rfl⟩ := apply_eq_ok_iff.1 h
  cases halign with
  | null => rfl
  | values types present => exact absurd hnull (Bool.eq_false_iff.1 present)

/-- A comparison operator gives a truth value. -/
def Comparison.Gives (op : Comparison) (a b : Value) (t : Bool) : Prop :=
  (Operator.binary (.comparison op)).apply a b = .ok (.boolean t)

/-- An operator gives what it says about the order of two values that are no nulls. -/
theorem Comparison.gives_iff (op : Comparison) (hop : op.isExact = exact)
    (hnull : (a.isNull || b.isNull) = false) (h : a.compare exact b = .ok o) (t : Bool) :
    op.Gives a b t ↔ op.holds o = t := by
  subst hop
  obtain ⟨p, halign, rfl⟩ := Value.compare_eq_ok_iff.1 h
  have present : ∃ q, p = some q := by
    cases halign with
    | null types null => exact absurd null (Bool.eq_false_iff.1 hnull)
    | values => exact ⟨_, rfl⟩
  obtain ⟨q, rfl⟩ := present
  have applied : op.Gives a b (op.holds (Value.comparePresent op.isExact q.1 q.2)) :=
    apply_eq_ok_iff.2 ⟨some q, halign, rfl⟩
  rw [Gives, applied, Except.ok.injEq, Value.boolean.injEq]
  rfl

/-- An operator that gives a truth value reads it off the order of two values that are no nulls. -/
theorem Comparison.Gives.compares {op : Comparison} {t : Bool} (h : op.Gives a b t) :
    (a.isNull || b.isNull) = false ∧ ∃ o, a.compare op.isExact b = .ok o ∧ op.holds o = t := by
  obtain ⟨o, ho⟩ := (exists_apply_iff op op.isExact).1 ⟨_, h⟩
  have present : (a.isNull || b.isNull) = false := by
    by_contra hnull
    exact nomatch apply_of_null (Bool.eq_true_of_not_eq_false hnull) h
  exact ⟨present, o, ho, (op.gives_iff rfl present ho t).1 h⟩

/-- Values that have an order are no nulls. -/
theorem Value.present_of_compare {order : Ordering} (h : a.compare exact b = .ok (some order)) :
    (a.isNull || b.isNull) = false := by
  obtain ⟨p, halign, hp⟩ := compare_eq_ok_iff.1 h
  cases halign with
  | null => exact nomatch hp
  | values _ present => exact present

/-- A value is equal to another by the operator exactly if comparing them says so. -/
theorem gives_equal_iff :
    (Comparison.equal exact).Gives a b true ↔ a.compare exact b = .ok (some .eq) := by
  constructor
  · intro h
    obtain ⟨-, o, ho, holds⟩ := h.compares
    rw [eq_of_beq holds] at ho
    exact ho
  · intro h
    exact (Comparison.gives_iff (.equal exact) rfl (Value.present_of_compare h) h true).2 rfl

end Agreement

/-! ### Truth values of all operators -/

section AllOperators

variable {a b : Value}

/-- What the operators read off the order of two values, with letters of different case alike or
different. -/
structure ReadsOff (a b : Value) (alike different : Option Ordering) : Prop where
  less : Comparison.less.Gives a b (alike == some .lt)
  lessOrEqual : Comparison.lessOrEqual.Gives a b (alike == some .lt || alike == some .eq)
  greater : Comparison.greater.Gives a b (alike == some .gt)
  greaterOrEqual : Comparison.greaterOrEqual.Gives a b (alike == some .gt || alike == some .eq)
  equal : (Comparison.equal false).Gives a b (alike == some .eq)
  equalExact : (Comparison.equal true).Gives a b (different == some .eq)
  notEqual : (Comparison.notEqual false).Gives a b (alike != some .eq)
  notEqualExact : (Comparison.notEqual true).Gives a b (different != some .eq)

/-- How the operators agree on two values that have an order. -/
structure Trichotomous (a b : Value) : Prop where
  unique : ∃! op, op ∈ [Comparison.less, .equal false, .greater] ∧ op.Gives a b true
  lessOrEqual : Comparison.lessOrEqual.Gives a b true ↔
    Comparison.less.Gives a b true ∨ (Comparison.equal false).Gives a b true
  greaterOrEqual : Comparison.greaterOrEqual.Gives a b true ↔
    Comparison.greater.Gives a b true ∨ (Comparison.equal false).Gives a b true
  notEqual : ∀ exact t,
    (Comparison.notEqual exact).Gives a b t ↔ (Comparison.equal exact).Gives a b (!t)
  swap : ∀ t, Comparison.less.Gives a b t ↔ Comparison.greater.Gives b a t

variable {alike different : Option Ordering}

theorem readsOff_of_compare (hnull : (a.isNull || b.isNull) = false)
    (halike : a.compare false b = .ok alike) (hdifferent : a.compare true b = .ok different) :
    ReadsOff a b alike different where
  less := (Comparison.gives_iff .less rfl hnull halike _).2 rfl
  lessOrEqual := (Comparison.gives_iff .lessOrEqual rfl hnull halike _).2 rfl
  greater := (Comparison.gives_iff .greater rfl hnull halike _).2 rfl
  greaterOrEqual := (Comparison.gives_iff .greaterOrEqual rfl hnull halike _).2 rfl
  equal := (Comparison.gives_iff (.equal false) rfl hnull halike _).2 rfl
  equalExact := (Comparison.gives_iff (.equal true) rfl hnull hdifferent _).2 rfl
  notEqual := (Comparison.gives_iff (.notEqual false) rfl hnull halike _).2 rfl
  notEqualExact := (Comparison.gives_iff (.notEqual true) rfl hnull hdifferent _).2 rfl

/-- The one of less, equal and greater that is an order. -/
def Comparison.ofOrder : Ordering → Comparison
  | .lt => .less
  | .eq => .equal false
  | .gt => .greater

theorem Comparison.holds_iff_eq_ofOrder {op : Comparison}
    (hop : op ∈ [Comparison.less, .equal false, .greater]) (order : Ordering) :
    op.holds (some order) = true ↔ op = ofOrder order := by
  simp only [List.mem_cons, List.not_mem_nil, or_false] at hop
  rcases hop with rfl | rfl | rfl <;> cases order <;> decide

theorem Comparison.ofOrder_mem (order : Ordering) :
    ofOrder order ∈ [Comparison.less, .equal false, .greater] := by
  cases order <;> decide

theorem trichotomous_of_compare {order : Ordering} (hnull : (a.isNull || b.isNull) = false)
    (h : a.compare false b = .ok (some order)) : Trichotomous a b where
  unique := by
    have holds : ∀ op ∈ [Comparison.less, .equal false, .greater],
        (op.Gives a b true ↔ op = .ofOrder order) := fun op hop => by
      have hexact : op.isExact = false := by
        simp only [List.mem_cons, List.not_mem_nil, or_false] at hop
        rcases hop with rfl | rfl | rfl <;> rfl
      rw [op.gives_iff hexact hnull h, Comparison.holds_iff_eq_ofOrder hop]
    have hmem := Comparison.ofOrder_mem order
    exact ⟨_, ⟨hmem, (holds _ hmem).2 rfl⟩, fun op hop => (holds op hop.1).1 hop.2⟩
  lessOrEqual := by
    rw [Comparison.gives_iff .lessOrEqual rfl hnull h, Comparison.gives_iff .less rfl hnull h,
      Comparison.gives_iff (.equal false) rfl hnull h]
    cases order <;> decide
  greaterOrEqual := by
    rw [Comparison.gives_iff .greaterOrEqual rfl hnull h, Comparison.gives_iff .greater rfl hnull h,
      Comparison.gives_iff (.equal false) rfl hnull h]
    cases order <;> decide
  notEqual exact t := by
    obtain ⟨o, ho⟩ := (Comparison.exists_apply_iff .less exact).1
      ((Comparison.exists_apply_iff .less false).2 ⟨_, h⟩)
    rw [Comparison.gives_iff (.notEqual exact) rfl hnull ho,
      Comparison.gives_iff (.equal exact) rfl hnull ho, Comparison.holds, Comparison.holds, bne]
    cases o == some .eq <;> cases t <;> decide
  swap t := by
    rw [Comparison.gives_iff .less rfl hnull h,
      Comparison.gives_iff .greater rfl (Bool.or_comm _ _ ▸ hnull) (Value.compare_swap h)]
    cases order <;> exact Iff.rfl

/-- Comparisons are coherent. Comparing two values the other way round gives the opposite order, and
succeeds as well. An operator succeeds exactly if comparing does. It gives a null for a null, and
otherwise what it reads off the order, by which the operators agree with each other. -/
theorem comparisons_coherent (a b : Value) :
    (∀ (exact : Bool) (o : Option Ordering),
      a.compare exact b = .ok o ↔ b.compare exact a = .ok (o.map Ordering.swap)) ∧
    (∀ (op : Comparison) (exact : Bool),
      (∃ v, (Operator.binary (.comparison op)).apply a b = .ok v) ↔
        ∃ o, a.compare exact b = .ok o) ∧
    ((a.isNull || b.isNull) = true → ∀ (op : Comparison) (v : Value),
      (Operator.binary (.comparison op)).apply a b = .ok v → v = .null .boolean) ∧
    ((a.isNull || b.isNull) = false →
      (∀ alike different, a.compare false b = .ok alike → a.compare true b = .ok different →
        ReadsOff a b alike different) ∧
      ∀ order, a.compare false b = .ok (some order) → Trichotomous a b) := by
  refine ⟨Value.compare_eq_ok_comm, fun op exact => op.exists_apply_iff exact,
    fun hnull op v h => ?_, fun hnull => ⟨fun alike different halike hdifferent => ?_,
      fun order h => ?_⟩⟩
  · exact Comparison.apply_of_null hnull h
  · exact readsOff_of_compare hnull halike hdifferent
  · exact trichotomous_of_compare hnull h

/-- Two texts that differ in the case of a letter only. -/
theorem letter_cases_coherent :
    (Value.string "A").compare true (.string "a") = .ok (some .lt) ∧
      ReadsOff (.string "a") (.string "A") (some .eq) (some .gt) ∧
      Trichotomous (.string "a") (.string "A") := by
  have alike : (Value.string "a").compare false (.string "A") = .ok (some .eq) := by rfl
  have different : (Value.string "a").compare true (.string "A") = .ok (some .gt) := by rfl
  obtain ⟨opposite, -, -, present⟩ := comparisons_coherent (.string "a") (.string "A")
  obtain ⟨reads, trichotomous⟩ := present rfl
  exact ⟨(opposite _ _).1 different, reads _ _ alike different, trichotomous _ alike⟩

end AllOperators

end TableFilter
