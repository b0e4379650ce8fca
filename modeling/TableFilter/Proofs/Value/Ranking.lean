import TableFilter.Proofs.Number.Monotone
import TableFilter.Proofs.Value.ExactNumbers
import TableFilter.Proofs.Value.Narrowing

/-!
# Where comparing is transitive

Each comparison is carried out in a type of its own, so that of three values the first may be less
than the second and the second less than the third without the first being less than the third: as
texts `10` is less than `9`, but as numbers it is not.

Among values of one type this cannot happen, nor among truth values, integers and decimals, which
are compared as the numbers that they stand for. Nor can it among truth values, integers and
doubles: an integer is compared with a double by the double nearest to it, and this keeps the order
of integers although it may make different ones equal.

## Main definitions

* `Value.Precedes`: a value comes before another in an order
* `ComparesTransitively`: comparing the values of a list is transitive
* `Value.IsBinary`: truth values, integers and doubles
* `Ranked`: the lists of values of one type, or of numbers that are compared transitively

## Main results

* `Value.IsBinary.precedes_trans`, `Value.IsExact.precedes_trans`: numbers of different types
* `Ranked.comparesTransitively`: values of one type and numbers
-/

namespace TableFilter

open Result

namespace Value

variable {a b c v : Value} {wanted : Ordering}

/-! ### Coming before another value -/

/-- A value comes before another in an order: comparing them in any case gives this order. -/
def Precedes (wanted : Ordering) (a b : Value) : Prop := a.compare false b = .ok (some wanted)

theorem Precedes.left (h : a.Precedes wanted b) : a.isNull = false :=
  (Bool.or_eq_false_iff.1 (present_of_compare h)).1

theorem Precedes.right (h : a.Precedes wanted b) : b.isNull = false :=
  (Bool.or_eq_false_iff.1 (present_of_compare h)).2

theorem precedes_swap : a.Precedes wanted b ↔ b.Precedes wanted.swap a :=
  compare_eq_ok_comm false (some wanted)

theorem not_precedes_self (hwanted : wanted ≠ .eq) (v : Value) : ¬v.Precedes wanted v := by
  intro h
  have hswap := (precedes_swap.1 h).symm.trans h
  cases wanted with
  | eq => exact hwanted rfl
  | lt => cases hswap
  | gt => cases hswap

/-! ### Values of one type -/

theorem precedes_lt_iff_below (ha : a.isNull = false) (hb : b.isNull = false)
    (htype : a.dataType = b.dataType) : a.Precedes .lt b ↔ Below false a b := by
  rw [Precedes, compare_of_type_eq ha hb htype, Except.ok.injEq, comparePresent_eq_lt]

theorem precedes_trans_of_type_eq (htype : a.dataType = b.dataType)
    (htype' : b.dataType = c.dataType) (hab : a.Precedes .lt b) (hbc : b.Precedes .lt c) :
    a.Precedes .lt c := by
  have below := (precedes_lt_iff_below hab.left hab.right htype).1 hab
  have below' := (precedes_lt_iff_below hbc.left hbc.right htype').1 hbc
  exact (precedes_lt_iff_below hab.left hbc.right (htype.trans htype')).2 (below.trans below')

/-! ### Numbers -/

theorem IsExact.precedes_lt_iff (ha : a.IsExact) (hb : b.IsExact) :
    a.Precedes .lt b ↔ a.number < b.number := by
  rw [Precedes, compare_eq_cmp ha hb, Except.ok.injEq, Option.some_inj, cmp_eq_lt_iff]

theorem IsExact.precedes_trans (ha : a.IsExact) (hb : b.IsExact) (hc : c.IsExact)
    (hab : a.Precedes .lt b) (hbc : b.Precedes .lt c) : a.Precedes .lt c := by
  rw [ha.precedes_lt_iff hb] at hab
  rw [hb.precedes_lt_iff hc] at hbc
  exact (ha.precedes_lt_iff hc).2 (hab.trans hbc)

/-- A truth value, an integer or a double, with the double that it is compared by. -/
inductive IsBinary : Value → Float → Prop
  | whole {type : DataType} {v : Value} {i : ℤ} :
      v.IsInt type i → IsBinary v (Binary64.ofInt i)
  | double (x : Float) : IsBinary (.double x) x

theorem IsInt.isExact {type : DataType} {i : ℤ} (h : v.IsInt type i) : v.IsExact := by
  cases h with
  | boolean b => exact .boolean b
  | int32 i => exact .int32 i
  | int64 i => exact .int64 i

theorem IsInt.dataType_ne {type : DataType} {i : ℤ} (h : v.IsInt type i) :
    v.dataType ≠ .double := by
  cases h <;> exact nofun

theorem IsInt.number_eq {type : DataType} {i : ℤ} (h : v.IsInt type i) : v.number = i := by
  cases h with
  | boolean b => cases b <;> rfl
  | int32 i => rfl
  | int64 i => rfl

/-- Truth values and integers are compared as the integers that they stand for. -/
theorem IsInt.precedes_lt_iff {type type' : DataType} {i j : ℤ} (ha : a.IsInt type i)
    (hb : b.IsInt type' j) : a.Precedes .lt b ↔ i < j := by
  rw [ha.isExact.precedes_lt_iff hb.isExact, ha.number_eq, hb.number_eq, Int.cast_lt]

/-- With a double among them, numbers are compared as doubles. -/
theorem IsBinary.compare_eq {x y : Float} (ha : a.IsBinary x) (hb : b.IsBinary y)
    (hdouble : a.dataType = .double ∨ b.dataType = .double) :
    a.compare false b = .ok (compareDouble x y) := by
  cases ha with
  | double x =>
    cases hb with
    | double y => rfl
    | whole hb => cases hb <;> rfl
  | whole ha =>
    cases hb with
    | double y => cases ha <;> rfl
    | whole hb => exact (hdouble.elim ha.dataType_ne hb.dataType_ne).elim

theorem IsBinary.precedes_lt_iff {x y : Float} (ha : a.IsBinary x) (hb : b.IsBinary y)
    (hdouble : a.dataType = .double ∨ b.dataType = .double) : a.Precedes .lt b ↔ x < y := by
  rw [Precedes, ha.compare_eq hb hdouble, Except.ok.injEq, compareDouble_eq_lt]

theorem IsBinary.isExact {x : Float} (h : v.IsBinary x) (htype : v.dataType ≠ .double) :
    v.IsExact := by
  cases h with
  | whole h => exact h.isExact
  | double x => exact absurd rfl htype

/-- Numbers whose doubles are different are in the order of the doubles. -/
theorem IsBinary.precedes_of_lt {x y : Float} (ha : a.IsBinary x) (hb : b.IsBinary y)
    (h : x < y) : a.Precedes .lt b := by
  by_cases hdouble : a.dataType = .double ∨ b.dataType = .double
  · exact (ha.precedes_lt_iff hb hdouble).2 h
  · cases ha with
    | double x => exact absurd (.inl rfl) hdouble
    | whole ha =>
      cases hb with
      | double y => exact absurd (.inr rfl) hdouble
      | whole hb => exact (ha.precedes_lt_iff hb).2 (Binary64.lt_of_ofInt_lt h)

/-- The doubles of two numbers may be equal, but they are not the other way round. -/
theorem IsBinary.not_lt_of_precedes {x y : Float} (ha : a.IsBinary x) (hb : b.IsBinary y)
    (h : a.Precedes .lt b) : ¬y < x := by
  intro hlt
  have hswap := (precedes_swap.1 h).symm.trans (hb.precedes_of_lt ha hlt)
  cases hswap

theorem IsBinary.ne_notANumber_of_precedes {x y : Float} (ha : a.IsBinary x) (hb : b.IsBinary y)
    (h : a.Precedes .lt b) :
    x.toModel.unpack ≠ .notANumber ∧ y.toModel.unpack ≠ .notANumber := by
  by_cases hdouble : a.dataType = .double ∨ b.dataType = .double
  · exact Binary64.ne_notANumber_of_lt ((ha.precedes_lt_iff hb hdouble).1 h)
  · cases ha with
    | double x => exact absurd (.inl rfl) hdouble
    | whole ha =>
      cases hb with
      | double y => exact absurd (.inr rfl) hdouble
      | whole hb =>
        exact ⟨Binary64.ne_notANumber (Binary64.isNaN_ofInt _),
          Binary64.ne_notANumber (Binary64.isNaN_ofInt _)⟩

/-- Numbers other than decimals are compared transitively. If one of the two comparisons is carried
out on doubles, it is strict there, and the other one does not lead back. -/
theorem IsBinary.precedes_trans {x y z : Float} (ha : a.IsBinary x) (hb : b.IsBinary y)
    (hc : c.IsBinary z) (hab : a.Precedes .lt b) (hbc : b.Precedes .lt c) : a.Precedes .lt c := by
  by_cases hdouble : a.dataType = .double ∨ b.dataType = .double
  · have hxy := (ha.precedes_lt_iff hb hdouble).1 hab
    have hz := (hb.ne_notANumber_of_precedes hc hbc).2
    exact ha.precedes_of_lt hc
      ((Binary64.lt_or_lt_of_lt hxy hz).resolve_right (hb.not_lt_of_precedes hc hbc))
  · by_cases hdouble' : b.dataType = .double ∨ c.dataType = .double
    · have hyz := (hb.precedes_lt_iff hc hdouble').1 hbc
      have hx := (ha.ne_notANumber_of_precedes hb hab).1
      exact ha.precedes_of_lt hc
        ((Binary64.lt_or_lt_of_lt hyz hx).resolve_left (ha.not_lt_of_precedes hb hab))
    · rw [not_or] at hdouble hdouble'
      exact (ha.isExact hdouble.1).precedes_trans (hb.isExact hdouble.2) (hc.isExact hdouble'.2)
        hab hbc

end Value

/-! ### Lists of values -/

/-- Comparing the values of a list in any case is transitive: what is less than a value that is less
than a third is less than the third. -/
def ComparesTransitively (vs : List Value) : Prop :=
  ∀ a ∈ vs, ∀ b ∈ vs, ∀ c ∈ vs, a.Precedes .lt b → b.Precedes .lt c → a.Precedes .lt c

/-- The values of a list, nulls apart, are of one type, or they are truth values, integers and
decimals, or truth values, integers and doubles. -/
inductive Ranked (vs : List Value) : Prop
  | ofType (type : DataType) : (∀ v ∈ vs, v.isNull = false → v.dataType = type) → Ranked vs
  | exact : (∀ v ∈ vs, v.isNull = false → v.IsExact) → Ranked vs
  | binary : (∀ v ∈ vs, v.isNull = false → ∃ x, v.IsBinary x) → Ranked vs

open Value

theorem Ranked.comparesTransitively {vs : List Value} (h : Ranked vs) :
    ComparesTransitively vs := by
  intro a ha b hb c hc hab hbc
  cases h with
  | ofType type h =>
    have htype := h b hb hab.right
    exact precedes_trans_of_type_eq ((h a ha hab.left).trans htype.symm)
      (htype.trans (h c hc hbc.right).symm) hab hbc
  | exact h =>
    exact (h a ha hab.left).precedes_trans (h b hb hab.right) (h c hc hbc.right) hab hbc
  | binary h =>
    obtain ⟨x, hx⟩ := h a ha hab.left
    obtain ⟨y, hy⟩ := h b hb hab.right
    obtain ⟨z, hz⟩ := h c hc hbc.right
    exact hx.precedes_trans hy hz hab hbc

/-- Both orders are transitive where one of them is. -/
theorem ComparesTransitively.precedes_trans {vs : List Value} (h : ComparesTransitively vs)
    {wanted : Ordering} (hwanted : wanted ≠ .eq) {a b c : Value} (ha : a ∈ vs) (hb : b ∈ vs)
    (hc : c ∈ vs) (hab : a.Precedes wanted b) (hbc : b.Precedes wanted c) :
    a.Precedes wanted c := by
  cases wanted with
  | eq => exact absurd rfl hwanted
  | lt => exact h a ha b hb c hc hab hbc
  | gt =>
    rw [precedes_swap] at hab hbc ⊢
    exact h c hc b hb a ha hbc hab

end TableFilter
