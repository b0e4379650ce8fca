import Mathlib.Algebra.Order.Field.Rat
import Mathlib.Algebra.Order.Field.Basic
import Mathlib.Tactic.Positivity
import Mathlib.Data.Char
import Mathlib.Data.List.Lex
import Mathlib.Order.BooleanAlgebra.Basic
import TableFilter.Proofs.Result
import TableFilter.Proofs.Value.Doubles

/-!
# The order of values, as a relation

Within each type, values are ordered by what they stand for: numbers by size, texts by their
characters or those of their upper form, points in time by when they are. Among values of one type
other than nulls and doubles that are no number this is a strict weak order: equal values are those
of which none is below the other.

## Main definitions

* `Decimal.number`: the number that a decimal stands for
* `Value.Below`: a value is below another of its type
* `Value.IsKeyOf`: a value that can be sorted by
* `WeaklyOrders`: a relation is a strict weak order among the elements with a property

## Main results

* `Value.comparePresent_eq_lt`, `Value.comparePresent_eq_gt`: comparing decides the order
* `Value.comparePresent_swap`: comparing the other way round
* `Value.compare_of_type_eq`: values of one type are compared as they are
* `Value.Below.trans`: the order is transitive
* `Value.below_weaklyOrders`: the values of a type that can be sorted by are ordered weakly
-/

namespace TableFilter

open Result TableFilter.Number TableFilter.Text

/-! ### Weak orders -/

/-- A relation is a strict weak order among the elements with a property. -/
structure WeaklyOrders {α : Type} (P : α → Prop) (lt : α → α → Prop) : Prop where
  asymm : ∀ {a b}, P a → P b → lt a b → ¬lt b a
  cotrans : ∀ {a b c}, P a → P b → P c → lt a c → lt a b ∨ lt b c

namespace WeaklyOrders

variable {α β : Type} {P : α → Prop} {lt : α → α → Prop}

/-- Elements made from those of a type that are compared by rank are ordered weakly. -/
theorem of_rank {γ : Type} [LinearOrder γ] {Q : β → Prop} (make : β → α) (rank : β → γ)
    (image : ∀ a, P a → ∃ b, Q b ∧ make b = a)
    (iff : ∀ a b, Q a → Q b → (lt (make a) (make b) ↔ rank a < rank b)) : WeaklyOrders P lt where
  asymm ha hb hab hba := by
    obtain ⟨a, qa, rfl⟩ := image _ ha
    obtain ⟨b, qb, rfl⟩ := image _ hb
    exact lt_asymm ((iff a b qa qb).1 hab) ((iff b a qb qa).1 hba)
  cotrans ha hb hc hac := by
    obtain ⟨a, qa, rfl⟩ := image _ ha
    obtain ⟨b, qb, rfl⟩ := image _ hb
    obtain ⟨c, qc, rfl⟩ := image _ hc
    rw [iff a b qa qb, iff b c qb qc]
    exact ((iff a c qa qc).1 hac).gt_or_lt (rank b)

/-- The opposite of a weak order. -/
theorem flip (h : WeaklyOrders P lt) : WeaklyOrders P fun a b => lt b a where
  asymm ha hb := h.asymm hb ha
  cotrans ha hb hc hac := (h.cotrans hc hb ha hac).symm

end WeaklyOrders

/-! ### Values -/

/-- The number that a decimal stands for. -/
def Decimal.number (d : Decimal) : ℚ := d.signedCoefficient / 10 ^ d.scale

namespace Value

/-- The characters that a text is sorted by. -/
def collated (exact : Bool) (s : String) : List Char :=
  if exact then s.toList else upper s.toList

/-- A value is below another of its type. -/
inductive Below (exact : Bool) : Value → Value → Prop
  | boolean {a b : Bool} : a < b → Below exact (.boolean a) (.boolean b)
  | int32 {a b : Int32} : a.toInt < b.toInt → Below exact (.int32 a) (.int32 b)
  | int64 {a b : Int64} : a.toInt < b.toInt → Below exact (.int64 a) (.int64 b)
  | decimal {a b : Decimal} : a.number < b.number → Below exact (.decimal a) (.decimal b)
  | double {a b : Float} : a < b → Below exact (.double a) (.double b)
  | string {a b : String} : collated exact a < collated exact b →
      Below exact (.string a) (.string b)
  | guid {a b : Guid} : a.bits.toNat < b.bits.toNat → Below exact (.guid a) (.guid b)
  | dateTime {a b : Instant} :
      a.seconds < b.seconds ∨ a.seconds = b.seconds ∧ a.nanos < b.nanos →
      Below exact (.dateTime a) (.dateTime b)

/-- A value of a type that can be sorted by: neither a null nor a double that is no number. -/
structure IsKeyOf (type : DataType) (v : Value) : Prop where
  dataType : v.dataType = type
  present : v.isNull = false
  number : ∀ x, v = .double x → Binary64.isNaN x = false

end Value

/-! ### Texts -/

theorem compareLex_eq_lt {as bs : List Char} : List.compareLex compare as bs = .lt ↔ as < bs := by
  induction as generalizing bs with
  | nil => cases bs <;> simp [List.compareLex_nil_nil, List.compareLex_nil_cons]
  | cons a as ih =>
    cases bs with
    | nil => simp [List.compareLex_cons_nil]
    | cons b bs =>
      rw [List.compareLex_cons_cons, List.cons_lt_cons_iff, ← ih, Ordering.then_eq_lt,
        compare_lt_iff_lt, compare_eq_iff_eq]

theorem compareLex_eq_gt {as bs : List Char} : List.compareLex compare as bs = .gt ↔ bs < as := by
  induction as generalizing bs with
  | nil => cases bs <;> simp [List.compareLex_nil_nil, List.compareLex_nil_cons]
  | cons a as ih =>
    cases bs with
    | nil => simp [List.compareLex_cons_nil]
    | cons b bs =>
      rw [List.compareLex_cons_cons, List.cons_lt_cons_iff, ← ih, Ordering.then_eq_gt,
        compare_gt_iff_gt, compare_eq_iff_eq, eq_comm (a := a)]

theorem compareText_eq_lt {exact : Bool} {a b : String} :
    compareText exact a b = .lt ↔ Value.collated exact a < Value.collated exact b := by
  cases exact <;> exact compareLex_eq_lt

theorem compareText_eq_gt {exact : Bool} {a b : String} :
    compareText exact a b = .gt ↔ Value.collated exact b < Value.collated exact a := by
  cases exact <;> exact compareLex_eq_gt

/-! ### Truth values and points in time -/

theorem compareBoolean_eq_lt {a b : Bool} : compareBoolean a b = .lt ↔ a < b := by
  cases a <;> cases b <;> decide

theorem compareBoolean_eq_gt {a b : Bool} : compareBoolean a b = .gt ↔ b < a := by
  cases a <;> cases b <;> decide

theorem instantOrder_eq_lt {a b : Instant} :
    a.order b = .lt ↔ a.seconds < b.seconds ∨ a.seconds = b.seconds ∧ a.nanos < b.nanos := by
  unfold Instant.order
  rw [← compare_lt_iff_lt (a := a.seconds), ← compare_eq_iff_eq (a := a.seconds),
    ← compare_lt_iff_lt (a := a.nanos)]
  cases compare a.seconds b.seconds <;> simp

theorem instantOrder_eq_gt {a b : Instant} :
    a.order b = .gt ↔ b.seconds < a.seconds ∨ b.seconds = a.seconds ∧ b.nanos < a.nanos := by
  unfold Instant.order
  rw [← compare_gt_iff_gt (a := a.seconds), eq_comm (a := b.seconds),
    ← compare_eq_iff_eq (a := a.seconds), ← compare_gt_iff_gt (a := a.nanos)]
  cases compare a.seconds b.seconds <;> simp

/-! ### Decimals -/

theorem tenTo_eq_pow (k : ℕ) : (tenTo k : ℚ) = 10 ^ k := by
  induction k with
  | zero => rfl
  | succ k ih => rw [tenTo_succ, Nat.cast_mul, ih, pow_succ]; rfl

theorem Decimal.number_lt_iff {a b : Decimal} :
    a.number < b.number ↔
      a.signedCoefficient * tenTo b.scale < b.signedCoefficient * tenTo a.scale := by
  rw [number, number, div_lt_div_iff₀ (by positivity) (by positivity), ← tenTo_eq_pow,
    ← tenTo_eq_pow]
  norm_cast

theorem Decimal.compareValues_eq_lt {a b : Decimal} :
    a.compareValues b = .lt ↔ a.number < b.number := by
  rw [compareValues, compare_lt_iff_lt, number_lt_iff]

theorem Decimal.compareValues_eq_gt {a b : Decimal} :
    a.compareValues b = .gt ↔ b.number < a.number := by
  rw [compareValues, compare_gt_iff_gt, number_lt_iff]

namespace Value

variable {exact : Bool} {v w : Value} {type : DataType}

/-! ### Comparing decides the order -/

/-- Comparing gives less where the first value is below the second. -/
theorem comparePresent_eq_lt : comparePresent exact v w = some .lt ↔ Below exact v w := by
  constructor
  · intro h
    unfold comparePresent at h
    split at h
    · exact .boolean (compareBoolean_eq_lt.1 (Option.some.inj h))
    · exact .int32 (compare_lt_iff_lt.1 (Option.some.inj h))
    · exact .int64 (compare_lt_iff_lt.1 (Option.some.inj h))
    · exact .decimal (Decimal.compareValues_eq_lt.1 (Option.some.inj h))
    · exact .double (compareDouble_eq_lt.1 h)
    · exact .string (compareText_eq_lt.1 (Option.some.inj h))
    · exact .guid (compare_lt_iff_lt.1 (Option.some.inj h))
    · exact .dateTime (instantOrder_eq_lt.1 (Option.some.inj h))
    · exact nomatch h
  · intro h
    cases h with
    | boolean h => exact congrArg some (compareBoolean_eq_lt.2 h)
    | int32 h => exact congrArg some (compare_lt_iff_lt.2 h)
    | int64 h => exact congrArg some (compare_lt_iff_lt.2 h)
    | decimal h => exact congrArg some (Decimal.compareValues_eq_lt.2 h)
    | double h => exact compareDouble_eq_lt.2 h
    | string h => exact congrArg some (compareText_eq_lt.2 h)
    | guid h => exact congrArg some (compare_lt_iff_lt.2 h)
    | dateTime h => exact congrArg some (instantOrder_eq_lt.2 h)

/-- Comparing gives greater where the second value is below the first. -/
theorem comparePresent_eq_gt : comparePresent exact v w = some .gt ↔ Below exact w v := by
  constructor
  · intro h
    unfold comparePresent at h
    split at h
    · exact .boolean (compareBoolean_eq_gt.1 (Option.some.inj h))
    · exact .int32 (compare_gt_iff_gt.1 (Option.some.inj h))
    · exact .int64 (compare_gt_iff_gt.1 (Option.some.inj h))
    · exact .decimal (Decimal.compareValues_eq_gt.1 (Option.some.inj h))
    · exact .double (compareDouble_eq_gt.1 h)
    · exact .string (compareText_eq_gt.1 (Option.some.inj h))
    · exact .guid (compare_gt_iff_gt.1 (Option.some.inj h))
    · exact .dateTime (instantOrder_eq_gt.1 (Option.some.inj h))
    · exact nomatch h
  · intro h
    cases h with
    | boolean h => exact congrArg some (compareBoolean_eq_gt.2 h)
    | int32 h => exact congrArg some (compare_gt_iff_gt.2 h)
    | int64 h => exact congrArg some (compare_gt_iff_gt.2 h)
    | decimal h => exact congrArg some (Decimal.compareValues_eq_gt.2 h)
    | double h => exact compareDouble_eq_gt.2 h
    | string h => exact congrArg some (compareText_eq_gt.2 h)
    | guid h => exact congrArg some (compare_gt_iff_gt.2 h)
    | dateTime h => exact congrArg some (instantOrder_eq_gt.2 h)

/-- Which of two values comes first does not decide whether they have an order. -/
theorem isSome_comparePresent_comm (exact : Bool) (v w : Value) :
    (comparePresent exact v w).isSome = (comparePresent exact w v).isSome := by
  cases v <;> cases w
  case double.double x y =>
    dsimp only [comparePresent]
    rw [compareDouble_swap, Option.isSome_map]
  all_goals simp only [comparePresent, Option.isSome_some]

/-- Comparing the other way round gives the opposite. -/
theorem comparePresent_swap (exact : Bool) (v w : Value) :
    comparePresent exact w v = (comparePresent exact v w).map Ordering.swap := by
  have hlt : comparePresent exact v w = some .lt ↔ comparePresent exact w v = some .gt :=
    comparePresent_eq_lt.trans comparePresent_eq_gt.symm
  have hgt : comparePresent exact v w = some .gt ↔ comparePresent exact w v = some .lt :=
    comparePresent_eq_gt.trans comparePresent_eq_lt.symm
  have hsome := isSome_comparePresent_comm exact v w
  generalize comparePresent exact v w = o at *
  generalize comparePresent exact w v = p at *
  rcases o with _ | _ | _ | _ <;> rcases p with _ | _ | _ | _ <;> simp_all

/-! ### Values that can be sorted by -/

theorem comparisonType_self (op : BinaryOperator) (type : DataType) :
    op.comparisonType type type = .ok type := by
  cases type <;> rfl

theorem convert_self (hpresent : v.isNull = false) (htype : v.dataType = type) :
    v.convert type = .ok v := by
  rw [convert, hpresent, htype]
  simp

theorem type_ne_of_present (hpresent : v.isNull = false) : v.dataType ≠ .undefined := by
  cases v with
  | null => exact nomatch hpresent
  | _ => exact nofun

theorem IsKeyOf.type_ne (h : v.IsKeyOf type) : type ≠ .undefined :=
  h.dataType ▸ type_ne_of_present h.present

/-- Values of one type are compared as they are. -/
theorem compare_of_type_eq (hv : v.isNull = false) (hw : w.isNull = false)
    (htype : v.dataType = w.dataType) :
    v.compare exact w = .ok (comparePresent exact v w) := by
  rw [compare, ← htype, comparisonType_self, hv, hw, ok_bind,
    if_neg (by simpa using type_ne_of_present hv), convert_self hv rfl, convert_self hw htype.symm]
  rfl

theorem compare_eq (hv : v.IsKeyOf type) (hw : w.IsKeyOf type) :
    v.compare exact w = .ok (comparePresent exact v w) :=
  compare_of_type_eq hv.present hw.present (hv.dataType.trans hw.dataType.symm)

/-- What is below something below a third is below the third. -/
theorem Below.trans {a b c : Value} (hab : Below exact a b) (hbc : Below exact b c) :
    Below exact a c := by
  cases hab with
  | boolean h => cases hbc with | boolean h' => exact .boolean (h.trans h')
  | int32 h => cases hbc with | int32 h' => exact .int32 (h.trans h')
  | int64 h => cases hbc with | int64 h' => exact .int64 (h.trans h')
  | decimal h => cases hbc with | decimal h' => exact .decimal (h.trans h')
  | double h => cases hbc with | double h' => exact .double (Binary64.lt_of_lt_of_lt h h')
  | string h => cases hbc with | string h' => exact .string (h.trans h')
  | guid h => cases hbc with | guid h' => exact .guid (h.trans h')
  | dateTime h => cases hbc with | dateTime h' => exact .dateTime (by omega)

/-- A type whose values are compared by rank. -/
theorem weaklyOrders_of_rank {α γ : Type} [LinearOrder γ] (make : α → Value) (rank : α → γ)
    (image : ∀ v : Value, v.dataType = type → v.isNull = false → ∃ a, make a = v)
    (iff : ∀ a b, Below exact (make a) (make b) ↔ rank a < rank b) :
    WeaklyOrders (IsKeyOf type) (Below exact) := by
  refine .of_rank (Q := fun _ => True) make rank (fun v hv => ?_) fun a b _ _ => iff a b
  obtain ⟨a, ha⟩ := image v hv.dataType hv.present
  exact ⟨a, trivial, ha⟩

/-- The values of a type that can be sorted by are ordered weakly. -/
theorem below_weaklyOrders (exact : Bool) (type : DataType) :
    WeaklyOrders (IsKeyOf type) (Below exact) := by
  cases type with
  | boolean =>
    refine weaklyOrders_of_rank Value.boolean id (fun v htype hnull => ?_) fun a b => ?_
    · cases v <;> simp_all [dataType, isNull]
    · exact ⟨fun h => by cases h; assumption, .boolean⟩
  | int32 =>
    refine weaklyOrders_of_rank Value.int32 Int32.toInt (fun v htype hnull => ?_) fun a b => ?_
    · cases v <;> simp_all [dataType, isNull]
    · exact ⟨fun h => by cases h; assumption, .int32⟩
  | int64 =>
    refine weaklyOrders_of_rank Value.int64 Int64.toInt (fun v htype hnull => ?_) fun a b => ?_
    · cases v <;> simp_all [dataType, isNull]
    · exact ⟨fun h => by cases h; assumption, .int64⟩
  | decimal =>
    refine weaklyOrders_of_rank Value.decimal Decimal.number (fun v htype hnull => ?_) fun a b => ?_
    · cases v <;> simp_all [dataType, isNull]
    · exact ⟨fun h => by cases h; assumption, .decimal⟩
  | double =>
    refine .of_rank (Q := fun x => Binary64.isNaN x = false) Value.double Binary64.rank
      (fun v hv => ?_) fun a b ha hb => ?_
    · cases v with
      | double x => exact ⟨x, hv.number x rfl, rfl⟩
      | null => exact nomatch hv.present
      | _ => exact nomatch hv.dataType
    · rw [← Binary64.lt_iff_rank_lt ha hb]
      exact ⟨fun h => by cases h; assumption, .double⟩
  | string =>
    refine weaklyOrders_of_rank Value.string (collated exact) (fun v htype hnull => ?_)
      fun a b => ?_
    · cases v <;> simp_all [dataType, isNull]
    · exact ⟨fun h => by cases h; assumption, .string⟩
  | guid =>
    refine weaklyOrders_of_rank Value.guid (·.bits.toNat) (fun v htype hnull => ?_) fun a b => ?_
    · cases v <;> simp_all [dataType, isNull]
    · exact ⟨fun h => by cases h; assumption, .guid⟩
  | dateTime =>
    refine weaklyOrders_of_rank Value.dateTime (fun t => toLex (t.seconds, t.nanos))
      (fun v htype hnull => ?_) fun a b => ?_
    · cases v <;> simp_all [dataType, isNull]
    · rw [Prod.Lex.toLex_lt_toLex]
      exact ⟨fun h => by cases h; assumption, .dateTime⟩
  | undefined =>
    exact ⟨fun ha => absurd rfl ha.type_ne, fun ha => absurd rfl ha.type_ne⟩

end Value

end TableFilter
