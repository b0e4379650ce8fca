import TableFilter.Proofs.Operation.Comparisons

/-!
# Comparing exact numbers of different types

Truth values, integers and decimals stand for exact numbers, and a comparison of two of them is
carried out in the wider of their types. No number is lost or changed on the way there, so that the
comparison is the order of the numbers, in whatever type it is carried out. This makes it total and
transitive over values of different types.

Doubles have no part in this: not every integer of 64 bits and not every decimal is a double.

## Main definitions

* `Value.IsExact`: truth values, integers and decimals
* `Value.number`: the number that such a value stands for

## Main results

* `Value.IsExact.exists_convert`: a conversion to a wider type keeps the number
* `exact_numbers_compare`: comparing two such values is comparing their numbers
-/

namespace TableFilter

open Result TableFilter.Number

/-! ### Integers as decimals -/

theorem Decimal.number_ofSignedParts {negative : Bool} {n : ℕ} {d : Decimal}
    (h : ofSignedParts? negative n 0 = some d) :
    d.number = ((if negative then -n else n : ℤ) : ℚ) := by
  unfold ofSignedParts? at h
  split at h
  · obtain rfl := Option.some.inj h
    rw [number, pow_zero, div_one, signedCoefficient]
  · cases h

/-- An integer of 64 bits is a decimal with no places. -/
theorem Decimal.exists_ofInt? {i : ℤ} (hi : fitsInt64 i = true) :
    ∃ d, ofInt? i = some d ∧ d.number = i := by
  have hbound : i.natAbs < coefficientBound := by
    simp only [fitsInt64, Bool.and_eq_true, decide_eq_true_eq] at hi
    unfold coefficientBound
    omega
  have made : ∃ d, ofInt? i = some d := by
    rw [ofInt?, ofParts?, ofSignedParts?, dif_pos ⟨hbound, Nat.zero_le _⟩]
    exact ⟨_, rfl⟩
  obtain ⟨d, hd⟩ := made
  refine ⟨d, hd, ?_⟩
  rw [number_ofSignedParts hd]
  congr 1
  by_cases hneg : i < 0
  · have hne : i.natAbs ≠ 0 := by omega
    simp only [hneg, hne, decide_true, bne_iff_ne, ne_eq, not_false_eq_true, Bool.true_and, if_true]
    omega
  · simp only [hneg, decide_false, Bool.false_and, Bool.false_eq_true, if_false]
    omega

theorem fitsInt64_toInt32 (i : Int32) : fitsInt64 i.toInt = true := by
  have least := i.le_toInt
  have greatest := i.toInt_lt
  simp only [fitsInt64, Bool.and_eq_true, decide_eq_true_eq]
  omega

theorem fitsInt64_toInt64 (i : Int64) : fitsInt64 i.toInt = true := by
  have least := i.le_toInt
  have greatest := i.toInt_lt
  simp only [fitsInt64, Bool.and_eq_true, decide_eq_true_eq]
  omega

/-- Going up from one number to the next: the outer two are equal if both steps are. -/
theorem cmp_then_cmp {x y z : ℚ} (hxy : cmp x y ≠ .gt) (hyz : cmp y z ≠ .gt) :
    (cmp x y).then (cmp y z) = cmp x z := by
  rw [Ne, cmp_eq_gt_iff, not_lt] at hxy hyz
  rcases hxy.eq_or_lt with rfl | hxy
  · rw [cmp_self_eq_eq, Ordering.eq_then]
  · rw [(cmp_eq_lt_iff _ _).2 hxy, (cmp_eq_lt_iff _ _).2 (hxy.trans_le hyz), Ordering.lt_then]

namespace Value

/-! ### Exact numbers -/

/-- A value that stands for an exact number: a truth value, an integer or a decimal. -/
inductive IsExact : Value → Prop
  | boolean (b : Bool) : IsExact (.boolean b)
  | int32 (i : Int32) : IsExact (.int32 i)
  | int64 (i : Int64) : IsExact (.int64 i)
  | decimal (d : Decimal) : IsExact (.decimal d)

/-- The number that an exact value stands for, false being zero and true being one. -/
def number : Value → ℚ
  | .boolean b => if b then 1 else 0
  | .int32 i => i.toInt
  | .int64 i => i.toInt
  | .decimal d => d.number
  | _ => 0

variable {a b c v w source : Value} {type : DataType} {i : ℤ} {exact : Bool}

theorem IsExact.isNull (h : v.IsExact) : v.isNull = false := by
  cases h <;> rfl

/-! ### Conversion to a wider type -/

/-- An integer is converted to a value that stands for it. -/
theorem exists_convertInt (hi : fitsInt64 i = true)
    (htype : type = .int32 ∧ fitsInt32 i = true ∨ type = .int64 ∨ type = .decimal) :
    ∃ w, convertInt source i type = .ok w ∧ w.IsExact ∧ w.dataType = type ∧ w.number = i := by
  rcases htype with ⟨rfl, hi'⟩ | rfl | rfl
  · refine ⟨.int32 (Int32.ofInt i), if_pos hi', .int32 _, rfl, ?_⟩
    simp only [fitsInt32, Bool.and_eq_true, decide_eq_true_eq] at hi'
    rw [number, Int32.toInt_ofInt_of_le hi'.1 (by omega)]
  · refine ⟨.int64 (Int64.ofInt i), if_pos hi, .int64 _, rfl, ?_⟩
    simp only [fitsInt64, Bool.and_eq_true, decide_eq_true_eq] at hi
    rw [number, Int64.toInt_ofInt_of_le hi.1 (by omega)]
  · obtain ⟨d, hd, hnumber⟩ := Decimal.exists_ofInt? hi
    refine ⟨.decimal d, ?_, .decimal d, rfl, hnumber⟩
    dsimp only [convertInt]
    rw [hd]

/-- A conversion to a wider type keeps the number, unless it is to doubles. -/
theorem IsExact.exists_convert (hv : v.IsExact) (hwider : v.dataType.wider? type = some type)
    (hdouble : type ≠ .double) :
    ∃ w, v.convert type = .ok w ∧ w.IsExact ∧ w.dataType = type ∧ w.number = v.number := by
  by_cases same : v.dataType = type
  · refine ⟨v, ?_, hv, same, rfl⟩
    rw [convert, hv.isNull, if_neg Bool.false_ne_true, if_pos (beq_of_eq same)]
  · cases hv with
    | boolean b =>
      have small : fitsInt64 (if b then 1 else 0) = true := by cases b <;> rfl
      have smaller : fitsInt32 (if b then 1 else 0) = true := by cases b <;> rfl
      have number_eq : number (.boolean b) = ((if b then 1 else 0 : ℤ) : ℚ) := by cases b <;> rfl
      rw [number_eq]
      cases type with
      | boolean => exact absurd rfl same
      | int32 => exact exists_convertInt small (.inl ⟨rfl, smaller⟩)
      | int64 => exact exists_convertInt small (.inr (.inl rfl))
      | decimal => exact exists_convertInt small (.inr (.inr rfl))
      | double => exact absurd rfl hdouble
      | _ => cases hwider
    | int32 i =>
      cases type with
      | int32 => exact absurd rfl same
      | int64 => exact exists_convertInt (fitsInt64_toInt32 i) (.inr (.inl rfl))
      | decimal => exact exists_convertInt (fitsInt64_toInt32 i) (.inr (.inr rfl))
      | double => exact absurd rfl hdouble
      | _ => cases hwider
    | int64 i =>
      cases type with
      | int64 => exact absurd rfl same
      | decimal => exact exists_convertInt (fitsInt64_toInt64 i) (.inr (.inr rfl))
      | double => exact absurd rfl hdouble
      | _ => cases hwider
    | decimal d =>
      cases type with
      | decimal => exact absurd rfl same
      | double => exact absurd rfl hdouble
      | _ => cases hwider

/-! ### Comparison -/

/-- Decimals are compared as the numbers that they stand for. -/
theorem compareValues_eq_cmp (d e : Decimal) : d.compareValues e = cmp d.number e.number := by
  rw [Decimal.compareValues, ← cmp_eq_compare]
  simp only [cmp, cmpUsing, Decimal.number_lt_iff]

/-- Exact values of one type are compared as the numbers that they stand for. -/
theorem comparePresent_eq_cmp (ha : a.IsExact) (hb : b.IsExact) (htype : a.dataType = b.dataType) :
    comparePresent exact a b = some (cmp a.number b.number) := by
  have truths : ∀ b c : Bool,
      compareBoolean b c = cmp (number (.boolean b)) (number (.boolean c)) := by decide
  have integers (i j : ℤ) : Ord.compare i j = cmp (i : ℚ) (j : ℚ) := by
    rw [Int.cast_strictMono.cmp_map_eq, cmp_eq_compare]
  cases ha <;> cases hb
  case boolean.boolean => exact congrArg some (truths _ _)
  case int32.int32 => exact congrArg some (integers _ _)
  case int64.int64 => exact congrArg some (integers _ _)
  case decimal.decimal => exact congrArg some (compareValues_eq_cmp _ _)
  all_goals exact nomatch htype

/-- Exact values are compared in a type that both are converted to with their numbers kept. -/
theorem exists_comparisonType (ha : a.IsExact) (hb : b.IsExact) (op : BinaryOperator) :
    ∃ type, op.comparisonType a.dataType b.dataType = .ok type ∧ type ≠ .undefined ∧
      a.dataType.wider? type = some type ∧ b.dataType.wider? type = some type ∧
      type ≠ .double := by
  cases ha <;> cases hb <;> exact ⟨_, rfl, nofun, rfl, rfl, nofun⟩

theorem compare_eq_cmp (ha : a.IsExact) (hb : b.IsExact) (exact : Bool) :
    a.compare exact b = .ok (some (cmp a.number b.number)) := by
  obtain ⟨type, htype, defined, left, right, hdouble⟩ := exists_comparisonType ha hb
    (.comparison (.equal exact))
  obtain ⟨v, hv, vexact, vtype, vnumber⟩ := ha.exists_convert left hdouble
  obtain ⟨w, hw, wexact, wtype, wnumber⟩ := hb.exists_convert right hdouble
  rw [compare, htype, ok_bind, ha.isNull, hb.isNull, beq_false_of_ne defined, hv, hw]
  change Except.ok (comparePresent exact v w) = _
  rw [comparePresent_eq_cmp vexact wexact (vtype.trans wtype.symm), vnumber, wnumber]

end Value

/-- **Mixed comparison of exact numbers is the order of the numbers.** Two truth values, integers or
decimals always have an order, that of the numbers that they stand for, whatever their types are and
whichever of the two letter cases is asked for. So the comparison is total, the opposite the other
way round, and transitive over three values of any types: what is not above what is not above a
third is not above that, and is equal to it only if all three are equal. -/
theorem exact_numbers_compare (exact : Bool) :
    (∀ a b : Value, a.IsExact → b.IsExact →
      a.compare exact b = .ok (some (cmp a.number b.number))) ∧
    (∀ a b : Value, a.IsExact → b.IsExact → ∃ o : Ordering,
      a.compare exact b = .ok (some o) ∧ b.compare exact a = .ok (some o.swap)) ∧
    ∀ (a b c : Value) (o p : Ordering), a.IsExact → b.IsExact → c.IsExact →
      a.compare exact b = .ok (some o) → b.compare exact c = .ok (some p) →
      o ≠ .gt → p ≠ .gt → a.compare exact c = .ok (some (o.then p)) := by
  refine ⟨fun a b ha hb => Value.compare_eq_cmp ha hb exact, fun a b ha hb => ?_,
    fun a b c o p ha hb hc hab hbc ho hp => ?_⟩
  · refine ⟨cmp a.number b.number, Value.compare_eq_cmp ha hb exact, ?_⟩
    rw [cmp_swap]
    exact Value.compare_eq_cmp hb ha exact
  · rw [Value.compare_eq_cmp ha hb] at hab
    rw [Value.compare_eq_cmp hb hc] at hbc
    obtain rfl := Option.some.inj (Except.ok.inj hab)
    obtain rfl := Option.some.inj (Except.ok.inj hbc)
    rw [Value.compare_eq_cmp ha hc, cmp_then_cmp ho hp]

/-- The number one, written with a place: `1.0`. -/
def Decimal.oneWithPlace : Decimal := ⟨false, 10, 1, by decide, by decide⟩

/-- True, `1.0` and the greatest integer of 64 bits, each compared with the next in another type. -/
theorem true_and_one_compare :
    (Value.boolean true).IsExact ∧ (Value.decimal .oneWithPlace).IsExact ∧
      (Value.int64 9223372036854775807).IsExact ∧
      (Value.boolean true).compare false (.decimal .oneWithPlace) = .ok (some .eq) ∧
      (Value.decimal .oneWithPlace).compare false (.int64 9223372036854775807) =
        .ok (some .lt) ∧
      (Value.boolean true).compare false (.int64 9223372036854775807) = .ok (some .lt) := by
  have equal : (Value.boolean true).compare false (.decimal .oneWithPlace) =
      .ok (some .eq) := by rfl
  have less : (Value.decimal .oneWithPlace).compare false (.int64 9223372036854775807) =
      .ok (some .lt) := by rfl
  exact ⟨.boolean _, .decimal _, .int64 _, equal, less,
    (exact_numbers_compare false).2.2 _ _ _ _ _ (.boolean _) (.decimal _) (.int64 _) equal less
      nofun nofun⟩

end TableFilter
