import Mathlib.Data.Int.Bitwise
import TableFilter.Proofs.Operation.Results
import TableFilter.Proofs.Value.Narrowing

/-!
# Operators on integers

Truth values and integers are brought to the wider of their types and computed with as words of that
width. What is computed is described by the integers that the operands stand for: a sum, a
difference and a product are those of the integers up to a multiple of `2 ^ w`, a quotient and a
remainder are those of the integers but for one quotient that no word holds, and the bits are those
of the integers with all their infinitely many places.

A shift is the exception: its type is that of the left operand alone. The amount can be of any
integer type. It is brought to 64 bits, the lower half of these is read without a sign, and only
what remains of that modulo the width counts. All of it together is the amount modulo the width,
since the width is a power of two.

## Main definitions

* `BinaryOperator.GivesInt`: an operator gives the value of a type that stands for an integer
* `IntegerOperator.bit?`: operators on bits, as functions of two truth values
* `WordArithmetic`, `WordShifts`: what operators give for two values in words of a width

## Main results

* `testBit_toInt`: the places of the integer that a word is read as
* `exists_words`, `exists_shifted`: operators on values as operators on words
* `integer_operators_exact`: all operators on integers
-/

namespace TableFilter

open Result

/-! ### Words read as integers -/

section Words

variable {w : ℕ} (x y : BitVec w)

/-- The places of the integer that a word is read as: its own, and its sign beyond them. -/
theorem testBit_toInt (i : ℕ) :
    x.toInt.testBit i = if i < w then x.getLsbD i else x.msb := by
  have hlt := x.isLt
  rw [BitVec.toInt_eq_msb_cond]
  cases hmsb : x.msb with
  | false =>
    rw [if_neg Bool.false_ne_true]
    change x.toNat.testBit i = _
    split
    · rfl
    · next hi => exact BitVec.getLsbD_of_ge x i (not_lt.1 hi)
  | true =>
    -- a negative integer is the complement of the one that its places count up to
    have hneg : (x.toNat : ℤ) - (2 ^ w : ℕ) = Int.negSucc (2 ^ w - (x.toNat + 1)) := by
      rw [Int.negSucc_eq]
      omega
    rw [if_pos rfl, hneg]
    change (!(2 ^ w - (x.toNat + 1)).testBit i) = _
    rw [Nat.testBit_two_pow_sub_succ hlt]
    split
    · next hi => rw [decide_eq_true hi, Bool.true_and, Bool.not_not]; rfl
    · next hi => rw [decide_eq_false hi, Bool.false_and, Bool.not_false]

/-- Words of which one depends on the others place by place, also as integers. -/
theorem testBit_of_places {r : BitVec w} {f : Bool → Bool → Bool}
    (places : ∀ i, r.getLsbD i = f (x.getLsbD i) (y.getLsbD i)) (sign : r.msb = f x.msb y.msb)
    (i : ℕ) : r.toInt.testBit i = f (x.toInt.testBit i) (y.toInt.testBit i) := by
  rw [testBit_toInt, testBit_toInt, testBit_toInt, places, sign]
  split <;> rfl

theorem toInt_shiftLeft (n : ℕ) : (x <<< n).toInt = (x.toInt * 2 ^ n).bmod (2 ^ w) := by
  rw [BitVec.toInt_shiftLeft, BitVec.toInt_eq_toNat_bmod x, Int.bmod_mul_bmod, Nat.shiftLeft_eq]
  push_cast
  rfl

theorem toInt_sshiftRight (n : ℕ) : (x.sshiftRight n).toInt = x.toInt / 2 ^ n := by
  rw [BitVec.toInt_sshiftRight, Int.shiftRight_eq_div_pow]
  push_cast
  rfl

theorem eq_intMin_iff (hw : 0 < w) : x = BitVec.intMin w ↔ x.toInt = -2 ^ (w - 1) := by
  rw [← BitVec.toInt_inj, BitVec.toInt_intMin_of_pos hw]

theorem eq_neg_one_iff (hw : 0 < w) : y = -1#w ↔ y.toInt = -1 := by
  rw [← BitVec.toInt_inj, BitVec.neg_one_eq_allOnes, BitVec.toInt_allOnes, if_pos hw]

/-- The only quotient that no word holds is that of the least integer by minus one. -/
theorem toInt_sdiv_of_fits (hw : 0 < w) (h : ¬(x.toInt = -2 ^ (w - 1) ∧ y.toInt = -1)) :
    (x.sdiv y).toInt = x.toInt.tdiv y.toInt := by
  rw [← eq_intMin_iff x hw, ← eq_neg_one_iff y hw] at h
  exact BitVec.toInt_sdiv_of_ne_or_ne x y (not_and_or.1 h)

theorem toInt_sdiv_of_overflow (hw : 0 < w) (hx : x.toInt = -2 ^ (w - 1)) (hy : y.toInt = -1) :
    (x.sdiv y).toInt = x.toInt := by
  obtain rfl := (eq_intMin_iff x hw).2 hx
  obtain rfl := (eq_neg_one_iff y hw).2 hy
  rw [BitVec.intMin_sdiv_neg_one]

theorem unlessZero_of_eq {divide : BitVec w → BitVec w → BitVec w} (h : y.toInt = 0) :
    unlessZero divide x y = .error .divisionByZero := by
  have hy : y = 0 := BitVec.toInt_inj.1 (h.trans BitVec.toInt_zero.symm)
  rw [unlessZero, if_pos (beq_of_eq hy)]

theorem unlessZero_of_ne {divide : BitVec w → BitVec w → BitVec w} (h : y.toInt ≠ 0) :
    unlessZero divide x y = .ok (divide x y) := by
  have hy : y ≠ 0 := fun hy => h (hy ▸ BitVec.toInt_zero)
  rw [unlessZero, beq_false_of_ne hy, if_neg Bool.false_ne_true]

/-- An operator on bits, as a function of two truth values. -/
def IntegerOperator.bit? : IntegerOperator → Option (Bool → Bool → Bool)
  | .remainder => none
  | .and => some (· && ·)
  | .or => some (· || ·)
  | .xor => some (· ^^ ·)

/-- An operator on bits is one on every place of the integers that words are read as. -/
theorem IntegerOperator.exists_onBits {op : IntegerOperator} {f : Bool → Bool → Bool}
    (h : op.bit? = some f) :
    ∃ r, op.onBits x y = .ok r ∧
      ∀ i, r.toInt.testBit i = f (x.toInt.testBit i) (y.toInt.testBit i) := by
  cases op with
  | remainder => exact nomatch h
  | and =>
    obtain rfl := Option.some.inj h
    exact ⟨x &&& y, rfl, testBit_of_places x y (fun _ => BitVec.getLsbD_and) BitVec.msb_and⟩
  | or =>
    obtain rfl := Option.some.inj h
    exact ⟨x ||| y, rfl, testBit_of_places x y (fun _ => BitVec.getLsbD_or) BitVec.msb_or⟩
  | xor =>
    obtain rfl := Option.some.inj h
    exact ⟨x ^^^ y, rfl, testBit_of_places x y (fun _ => BitVec.getLsbD_xor) BitVec.msb_xor⟩

end Words

/-! ### Promotion -/

namespace DataType

variable {left right type : DataType} {w : ℕ}

theorem HasBits.pos (h : type.HasBits w) : 0 < w := by
  cases h <;> decide

theorem HasBits.ne_undefined (h : type.HasBits w) : type ≠ .undefined := by
  cases h <;> exact nofun

theorem HasBits.isInteger (h : type.HasBits w) : type.isInteger = true := by
  cases h <;> rfl

/-- Types of which an integer type is the wider are integer types that are no wider. -/
theorem integers_of_wider? (htype : type.HasBits w) (h : left.wider? right = some type) :
    left.isInteger = true ∧ right.isInteger = true ∧ left.wider? type = some type ∧
      right.wider? type = some type := by
  cases left <;> cases right <;> cases h <;> first
    | exact ⟨rfl, rfl, rfl, rfl⟩
    | exact nomatch htype

theorem wider?_int64 (h : type.isInteger = true) : type.wider? .int64 = some .int64 := by
  cases type with
  | boolean | int32 | int64 => rfl
  | _ => exact nomatch h

end DataType

namespace Value

variable {v : Value} {source type : DataType} {m : ℤ} {w : ℕ}

/-- A value of an integer type stands for an integer. -/
theorem exists_isInt (hv : v.isNull = false) (h : v.dataType.isInteger = true) :
    ∃ m, v.IsInt v.dataType m := by
  cases v with
  | boolean b => exact ⟨_, .boolean b⟩
  | int32 i => exact ⟨_, .int32 i⟩
  | int64 i => exact ⟨_, .int64 i⟩
  | null => exact nomatch hv
  | _ => exact nomatch h

/-- An integer is converted to a type that is as wide. -/
theorem IsInt.exists_convert (hv : v.IsInt source m) (htype : type.HasBits w)
    (hwider : source.wider? type = some type) :
    ∃ u, v.convert type = .ok u ∧ u.IsInt type m := by
  cases htype with
  | int32 =>
    cases hv with
    | boolean b => cases b <;> exact ⟨_, rfl, isInt_ofInt32 (by decide) (by decide)⟩
    | int32 i => exact ⟨_, rfl, .int32 i⟩
    | int64 => exact nomatch hwider
  | int64 =>
    cases hv with
    | boolean b => cases b <;> exact ⟨_, rfl, isInt_ofInt64 (by decide) (by decide)⟩
    | int32 i =>
      exact ⟨_, if_pos (fitsInt64_toInt32 i),
        isInt_ofInt64 (by have := i.le_toInt; omega) (by have := i.toInt_lt; omega)⟩
    | int64 i => exact ⟨_, rfl, .int64 i⟩

end Value

namespace BinaryOperator

variable {op : BinaryOperator} {a b : Value} {type left right : DataType} {m n k : ℤ} {w : ℕ}

theorem definedType_of_wider? (htype : type.HasBits w) (h : left.wider? right = some type) :
    (∀ kind, (arithmetic kind).definedType left right = .ok type) ∧
      ∀ kind, (integer kind).definedType left right = .ok type := by
  obtain ⟨hleft, hright, -⟩ := DataType.integers_of_wider? htype h
  have numeric (op : BinaryOperator) : op.numericType left right = .ok type := by
    rw [numericType, h]
  constructor <;> intro kind
  · have hl : (left == .string) = false := beq_false_of_ne <| by rintro rfl; cases hleft
    have hr : (right == .string) = false := beq_false_of_ne <| by rintro rfl; cases hright
    dsimp only [definedType]
    rw [hl, hr, Bool.or_false, Bool.and_false, if_neg Bool.false_ne_true, numeric]
  · dsimp only [definedType]
    rw [hleft, hright, Bool.and_true, if_pos rfl, numeric]

/-! ### Operators on values as operators on words -/

/-- An operator gives the value of a type that stands for an integer. -/
def GivesInt (op : BinaryOperator) (a b : Value) (type : DataType) (k : ℤ) : Prop :=
  ∃ v, op.apply a b = .ok v ∧ v.IsInt type k

theorem GivesInt.of_word {make : BitVec w → Value} {r : BitVec w}
    (h : op.apply a b = .ok (make r)) (hmake : ∀ r, (make r).IsInt type r.toInt)
    (hr : r.toInt = k) : op.GivesInt a b type k :=
  ⟨make r, h, hr ▸ hmake r⟩

/-- Operators on two values of an integer type. -/
theorem exists_onValues (htype : type.HasBits w) {u v : Value} (hu : u.IsInt type m)
    (hv : v.IsInt type n) :
    ∃ (x y : BitVec w) (make : BitVec w → Value), x.toInt = m ∧ y.toInt = n ∧
      (∀ r, (make r).IsInt type r.toInt) ∧
      (∀ kind : ArithmeticOperator,
        kind.onValues u v = kind.onBits x y >>= fun r => .ok (make r)) ∧
      (∀ kind : IntegerOperator,
        kind.onValues u v = kind.onBits x y >>= fun r => .ok (make r)) ∧
      ∀ (kind : ShiftOperator) (amount : Int64),
        kind.onValues u amount = .ok (make (kind.onBits x (amount.toBitVec.setWidth 32))) := by
  cases htype with
  | int32 =>
    cases hu with
    | int32 i =>
      cases hv with
      | int32 j =>
        exact ⟨i.toBitVec, j.toBitVec, fun r => .int32 (.ofBitVec r), rfl, rfl,
          fun r => .int32 (.ofBitVec r), fun _ => rfl, fun _ => rfl, fun _ _ => rfl⟩
  | int64 =>
    cases hu with
    | int64 i =>
      cases hv with
      | int64 j =>
        exact ⟨i.toBitVec, j.toBitVec, fun r => .int64 (.ofBitVec r), rfl, rfl,
          fun r => .int64 (.ofBitVec r), fun _ => rfl, fun _ => rfl, fun _ _ => rfl⟩

/-- Values of which an integer type is the wider are computed with as words of its width. -/
theorem exists_words (htype : type.HasBits w) (ha : a.isNull = false) (hb : b.isNull = false)
    (h : a.dataType.wider? b.dataType = some type) :
    ∃ (x y : BitVec w) (make : BitVec w → Value), a.IsInt a.dataType x.toInt ∧
      b.IsInt b.dataType y.toInt ∧ (∀ r, (make r).IsInt type r.toInt) ∧
      (∀ kind, (arithmetic kind).apply a b = kind.onBits x y >>= fun r => .ok (make r)) ∧
      ∀ kind, (integer kind).apply a b = kind.onBits x y >>= fun r => .ok (make r) := by
  obtain ⟨hleft, hright, widerleft, widerright⟩ := DataType.integers_of_wider? htype h
  obtain ⟨m, hm⟩ := Value.exists_isInt ha hleft
  obtain ⟨n, hn⟩ := Value.exists_isInt hb hright
  obtain ⟨u, hu, hum⟩ := hm.exists_convert htype widerleft
  obtain ⟨v, hv, hvn⟩ := hn.exists_convert htype widerright
  obtain ⟨x, y, make, rfl, rfl, hmake, onArithmetic, onInteger, -⟩ := exists_onValues htype hum hvn
  obtain ⟨arithmeticType, integerType⟩ := definedType_of_wider? htype h
  refine ⟨x, y, make, hm, hn, hmake, fun kind => ?_, fun kind => ?_⟩
  · rw [apply_of_present rfl ha hb (arithmeticType kind), applyPresent, hu, hv]
    exact onArithmetic kind
  · rw [apply_of_present rfl ha hb (integerType kind), applyPresent, hu, hv]
    exact onInteger kind

/-- What an amount is brought to is the amount modulo the width. -/
theorem lower_mod (htype : type.HasBits w) (amount : Int64) :
    (amount.toBitVec.setWidth 32).toNat % w = (amount.toInt % w).toNat := by
  have hlt := amount.toBitVec.isLt
  have hamount := BitVec.toInt_eq_toNat_cond amount.toBitVec
  rw [Int64.toInt_toBitVec] at hamount
  rw [BitVec.toNat_setWidth, hamount]
  cases htype <;> split <;> omega

/-- A shift is one of a word of the type of the left operand, by an amount modulo its width. -/
theorem exists_shifted (htype : a.dataType.HasBits w) (ha : a.isNull = false)
    (hb : b.isNull = false) (hamount : b.dataType.isInteger = true) :
    ∃ (x : BitVec w) (lower : BitVec 32) (n : ℤ) (make : BitVec w → Value),
      a.IsInt a.dataType x.toInt ∧ b.IsInt b.dataType n ∧ lower.toNat % w = (n % w).toNat ∧
      (∀ r, (make r).IsInt a.dataType r.toInt) ∧
      ∀ kind, (shift kind).apply a b = .ok (make (kind.onBits x lower)) := by
  have hinteger := htype.isInteger
  obtain ⟨m, hm⟩ := Value.exists_isInt ha hinteger
  obtain ⟨n, hn⟩ := Value.exists_isInt hb hamount
  obtain ⟨v, hv, hvn⟩ := hn.exists_convert .int64 (DataType.wider?_int64 hamount)
  cases hvn with
  | int64 amount =>
    obtain ⟨x, -, make, rfl, -, hmake, -, -, onShift⟩ := exists_onValues htype hm hm
    refine ⟨x, amount.toBitVec.setWidth 32, _, make, hm, hn, lower_mod htype amount, hmake,
      fun kind => ?_⟩
    have typed : (shift kind).definedType a.dataType b.dataType = .ok a.dataType := by
      dsimp only [definedType]
      rw [hinteger, hamount, Bool.and_true, if_pos rfl]
    have kept : a.convert a.dataType = .ok a := by
      rw [Value.convert, ha, if_neg Bool.false_ne_true, if_pos (beq_self_eq_true _)]
    rw [apply_of_present rfl ha hb typed, applyPresent, kept, hv]
    exact onShift kind amount

end BinaryOperator

open BinaryOperator

/-- What operators give for two values that stand for integers, in words of a width. -/
structure WordArithmetic (w : ℕ) (type : DataType) (a b : Value) (m n : ℤ) : Prop where
  add : (arithmetic .add).GivesInt a b type ((m + n).bmod (2 ^ w))
  subtract : (arithmetic .subtract).GivesInt a b type ((m - n).bmod (2 ^ w))
  multiply : (arithmetic .multiply).GivesInt a b type ((m * n).bmod (2 ^ w))
  byZero : n = 0 → (arithmetic .divide).apply a b = .error .divisionByZero ∧
    (integer .remainder).apply a b = .error .divisionByZero
  /-- The quotient is cut toward zero, and the remainder takes the sign of the dividend. -/
  division : n ≠ 0 → ¬(m = -2 ^ (w - 1) ∧ n = -1) →
    ∃ q r, (arithmetic .divide).GivesInt a b type q ∧ (integer .remainder).GivesInt a b type r ∧
      q * n + r = m ∧ q = m.tdiv n ∧ r = m.tmod n
  overflow : m = -2 ^ (w - 1) → n = -1 →
    (arithmetic .divide).GivesInt a b type m ∧ (integer .remainder).GivesInt a b type 0
  /-- Beyond its own places, an operand has its sign in all places. -/
  bitwise : ∀ (kind : IntegerOperator) (f : Bool → Bool → Bool), kind.bit? = some f →
    ∃ k, (integer kind).GivesInt a b type k ∧ ∀ i, k.testBit i = f (m.testBit i) (n.testBit i)

/-- What shifts give for two values that stand for integers, in words of a width. -/
structure WordShifts (w : ℕ) (type : DataType) (a b : Value) (m n : ℤ) : Prop where
  left : (shift .left).GivesInt a b type ((m * 2 ^ (n % w).toNat).bmod (2 ^ w))
  right : (shift .right).GivesInt a b type (m / 2 ^ (n % w).toNat)

/-- Operators on words are arithmetic on the integers that the words are read as. -/
theorem wordArithmetic_of_words {w : ℕ} {type : DataType} {a b : Value} {x y : BitVec w}
    {make : BitVec w → Value} (hw : 0 < w) (hmake : ∀ r, (make r).IsInt type r.toInt)
    (onArithmetic : ∀ kind,
      (arithmetic kind).apply a b = kind.onBits x y >>= fun r => .ok (make r))
    (onInteger : ∀ kind, (integer kind).apply a b = kind.onBits x y >>= fun r => .ok (make r)) :
    WordArithmetic w type a b x.toInt y.toInt := by
  have quotient (h : y.toInt ≠ 0) : (arithmetic .divide).apply a b = .ok (make (x.sdiv y)) := by
    rw [onArithmetic, ArithmeticOperator.onBits, unlessZero_of_ne x y h, ok_bind]
  have remainder (h : y.toInt ≠ 0) : (integer .remainder).GivesInt a b type
      (x.toInt.tmod y.toInt) := by
    refine .of_word ?_ hmake (BitVec.toInt_srem x y)
    rw [onInteger, IntegerOperator.onBits, unlessZero_of_ne x y h, ok_bind]
  exact {
    add := .of_word (onArithmetic .add) hmake (BitVec.toInt_add x y)
    subtract := .of_word (onArithmetic .subtract) hmake BitVec.toInt_sub
    multiply := .of_word (onArithmetic .multiply) hmake (BitVec.toInt_mul x y)
    byZero := fun h => by
      rw [onArithmetic, onInteger, ArithmeticOperator.onBits, IntegerOperator.onBits,
        unlessZero_of_eq x y h, unlessZero_of_eq x y h]
      exact ⟨rfl, rfl⟩
    division := fun h fits => ⟨_, _,
      .of_word (quotient h) hmake (toInt_sdiv_of_fits x y hw fits), remainder h,
      Int.tdiv_mul_add_tmod _ _, rfl, rfl⟩
    overflow := fun hx hy => by
      have h : y.toInt ≠ 0 := by rw [hy]; decide
      have rest := remainder h
      rw [hy, Int.tmod_neg, Int.tmod_one] at rest
      exact ⟨.of_word (quotient h) hmake (toInt_sdiv_of_overflow x y hw hx hy), rest⟩
    bitwise := fun kind f hf => by
      obtain ⟨r, hr, bits⟩ := IntegerOperator.exists_onBits x y hf
      exact ⟨r.toInt, .of_word (by rw [onInteger, hr, ok_bind]) hmake rfl, bits⟩ }

theorem wordShifts_of_words {w : ℕ} {type : DataType} {a b : Value} {x : BitVec w} {n : ℤ}
    {make : BitVec w → Value} {lower : BitVec 32} (hmake : ∀ r, (make r).IsInt type r.toInt)
    (amount : lower.toNat % w = (n % w).toNat)
    (onShift : ∀ kind, (shift kind).apply a b = .ok (make (kind.onBits x lower))) :
    WordShifts w type a b x.toInt n where
  left := by
    refine .of_word (onShift .left) hmake ?_
    rw [← amount]
    exact toInt_shiftLeft x _
  right := by
    refine .of_word (onShift .right) hmake ?_
    rw [← amount]
    exact toInt_sshiftRight x _

/-- Whether an operator computes with two operands that are brought to one numeric type. -/
def BinaryOperator.isArithmetic : BinaryOperator → Bool
  | .arithmetic _ | .integer _ => true
  | _ => false

theorem BinaryOperator.wider?_of_definedType {op : BinaryOperator} {left right type : DataType}
    {w : ℕ} (htype : type.HasBits w) (hop : op.isArithmetic = true)
    (h : op.definedType left right = .ok type) : left.wider? right = some type := by
  cases op with
  | arithmetic kind =>
    obtain ⟨-, -, rfl⟩ | wider := arithmeticType_eq_ok h
    · exact nomatch htype
    · exact wider
  | integer kind => exact (integerType_eq_ok h).2.2
  | _ => exact nomatch hop

/-- **Operators on integers are two's complement in the promoted width.** An operation in a type of
`w` bits gives a null for a null. Otherwise both operands stand for integers, whatever integer types
they are of, and what is computed is arithmetic on these integers in words of `w` bits: sums,
differences and products modulo `2 ^ w`, quotients that are cut toward zero with their remainders,
but for the least integer by minus one, an error exactly for division by zero, and operations on all
places at once. A shift is carried out in the type of the left operand, by the amount modulo the
width, whatever integer type and sign the amount has. -/
theorem integer_operators_exact {type : DataType} {w : ℕ} (htype : type.HasBits w) (a b : Value) :
    (∀ op : BinaryOperator, op.isArithmetic = true →
      op.operationType a.dataType b.dataType = .ok type →
      (a.isNull = true ∨ b.isNull = true) ∧ op.apply a b = .ok (.null type) ∨
        ∃ m n, a.IsInt a.dataType m ∧ b.IsInt b.dataType n ∧ WordArithmetic w type a b m n) ∧
    ∀ kind : ShiftOperator, (shift kind).operationType a.dataType b.dataType = .ok type →
      type = a.dataType ∧
        ((a.isNull = true ∨ b.isNull = true) ∧ (shift kind).apply a b = .ok (.null type) ∨
          ∃ m n, a.IsInt a.dataType m ∧ b.IsInt b.dataType n ∧ WordShifts w type a b m n) := by
  constructor
  · intro op hop h
    have strict : (Operator.binary op).isStrict = true := by
      cases op <;> first | rfl | exact nomatch hop
    have result : op.resultType type = type := by
      cases op <;> first | rfl | exact nomatch hop
    obtain null | ⟨ha, hb⟩ := apply_null_or_present strict h
    · exact .inl (result ▸ null)
    · have wider := wider?_of_definedType htype hop
        (definedType_of_operationType htype.ne_undefined h)
      obtain ⟨x, y, make, hx, hy, hmake, onArithmetic, onInteger⟩ := exists_words htype ha hb wider
      exact .inr ⟨_, _, hx, hy, wordArithmetic_of_words htype.pos hmake onArithmetic onInteger⟩
  · intro kind h
    obtain ⟨-, amount, rfl⟩ :=
      shiftType_eq_ok (definedType_of_operationType htype.ne_undefined h)
    refine ⟨rfl, ?_⟩
    obtain null | ⟨ha, hb⟩ := apply_null_or_present rfl h
    · exact .inl null
    · obtain ⟨x, lower, n, make, hx, hn, hlower, hmake, onShift⟩ :=
        exists_shifted htype ha hb amount
      exact .inr ⟨_, _, hx, hn, wordShifts_of_words hmake hlower onShift⟩

/-- The least integer of 64 bits by minus one, which is of 32 bits, and a shift of it by that. -/
theorem least_by_minus_one :
    DataType.HasBits .int64 64 ∧
      (arithmetic .divide).operationType .int64 .int32 = .ok .int64 ∧
      (shift .right).operationType .int64 .int32 = .ok .int64 ∧
      WordArithmetic 64 .int64 (.int64 (-9223372036854775808)) (.int32 (-1))
        (-9223372036854775808) (-1) ∧
      WordShifts 64 .int64 (.int64 (-9223372036854775808)) (.int32 (-1))
        (-9223372036854775808) (-1) ∧
      (arithmetic .divide).apply (.int64 (-9223372036854775808)) (.int32 (-1)) =
        .ok (.int64 (-9223372036854775808)) ∧
      (shift .right).apply (.int64 (-9223372036854775808)) (.int32 (-1)) = .ok (.int64 (-1)) := by
  have divided : (arithmetic .divide).operationType .int64 .int32 = .ok .int64 := by rfl
  have shifted : (shift .right).operationType .int64 .int32 = .ok .int64 := by rfl
  obtain ⟨words, shifts⟩ := integer_operators_exact .int64 (.int64 (-9223372036854775808))
    (.int32 (-1))
  obtain ⟨null, -⟩ | ⟨m, n, hm, hn, arithmetic⟩ := words _ rfl divided
  · exact nomatch null
  obtain ⟨-, ⟨null, -⟩ | ⟨m', n', hm', hn', shifting⟩⟩ := shifts _ shifted
  · exact nomatch null
  cases hm
  cases hn
  cases hm'
  cases hn'
  exact ⟨.int64, divided, shifted, arithmetic, shifting, by rfl, by rfl⟩

end TableFilter
