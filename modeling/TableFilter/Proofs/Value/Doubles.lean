import Mathlib
import TableFilter.Value.Order

/-!
# The order of doubles

Doubles that are numbers are ordered by what they stand for, a zero being equal to its negative. The
order is read off a rank: the class of the double from negative infinity to infinity, then its
exponent and its significand, both counted down for negative ones.

## Main definitions

* `Binary64.rank`: the rank of a double

## Main results

* `Binary64.lt_iff_rank_lt`: a number is less than another if its rank is
* `Binary64.lt_of_lt_of_lt`, `Binary64.lt_or_lt_of_lt`: the order is a weak one among numbers
* `compareDouble_eq_lt`, `compareDouble_eq_gt`: what comparing two numbers gives
* `exists_compareDouble`: two numbers have an order
* `compareDouble_swap`: comparing the other way round
-/

namespace TableFilter

namespace Binary64

open Float.Model TableFilter.Number

/-- Class, exponent and significand, so that a greater number has a greater rank. -/
def unpackedRank : UnpackedFloat → ℤ ×ₗ ℤ ×ₗ ℤ
  | .notANumber => toLex (3, toLex (0, 0))
  | .infinity .positive => toLex (2, toLex (0, 0))
  | .finite .positive m e _ => toLex (1, toLex (e, m))
  | .zero _ => toLex (0, toLex (0, 0))
  | .finite .negative m e _ => toLex (-1, toLex (-e, -m))
  | .infinity .negative => toLex (-2, toLex (0, 0))

/-- The rank of a double. -/
def rank (x : Float) : ℤ ×ₗ ℤ ×ₗ ℤ := unpackedRank x.toModel.unpack

section Unpacked

variable {a b : UnpackedFloat}

theorem negative_lt_positive :
    compare UnpackedFloat.Sign.negative UnpackedFloat.Sign.positive = .lt := by decide

theorem then_eq_gt_iff {e f : ℤ} {m n : ℕ} :
    (compare e f).then (compare m n) = .gt ↔ f < e ∨ e = f ∧ n < m := by
  rw [Ordering.then_eq_gt, compare_gt_iff_gt, compare_gt_iff_gt, compare_eq_iff_eq]

theorem unpacked_compare_swap (a b : UnpackedFloat) :
    b.compare a = (a.compare b).map Ordering.swap := by
  rcases a with ⟨_ | _⟩ | _ | _ | ⟨_ | _, _, _, _⟩ <;>
    rcases b with ⟨_ | _⟩ | _ | _ | ⟨_ | _, _, _, _⟩ <;>
    simp [UnpackedFloat.compare, Ordering.swap_then, Int.compare_swap, Nat.compare_swap] <;>
    decide

theorem unpacked_compare_eq_lt (ha : a ≠ .notANumber) (hb : b ≠ .notANumber) :
    a.compare b = some .lt ↔ unpackedRank a < unpackedRank b := by
  rcases a with ⟨_ | _⟩ | _ | _ | ⟨_ | _, _, _, _⟩ <;>
    rcases b with ⟨_ | _⟩ | _ | _ | ⟨_ | _, _, _, _⟩ <;>
    simp [UnpackedFloat.compare, unpackedRank, Prod.Lex.toLex_lt_toLex, Ordering.then_eq_lt,
      compare_lt_iff_lt, then_eq_gt_iff, negative_lt_positive] at *

theorem exists_unpacked_compare (ha : a ≠ .notANumber) (hb : b ≠ .notANumber) :
    ∃ order, a.compare b = some order := by
  rcases a with ⟨_ | _⟩ | _ | _ | ⟨_ | _, _, _, _⟩ <;>
    rcases b with ⟨_ | _⟩ | _ | _ | ⟨_ | _, _, _, _⟩ <;>
    simp [UnpackedFloat.compare] at *

end Unpacked

/-! ### Numbers -/

variable {x y : Float}

theorem toNat_unpackExponent (b : BitVec 64) :
    (@UnpackedFloat.unpackExponent Format.binary64 b).toNat =
      b.toNat / twoTo 52 % twoTo 11 := by
  rw [UnpackedFloat.unpackExponent, BitVec.toNat_cast, BitVec.extractLsb_toNat,
    Nat.shiftRight_eq_div_pow]
  rfl

theorem toNat_unpackMantissa (b : BitVec 64) :
    (@UnpackedFloat.unpackMantissa Format.binary64 b).toNat = b.toNat % twoTo 52 := by
  rw [UnpackedFloat.unpackMantissa, BitVec.toNat_cast, BitVec.extractLsb_toNat,
    Nat.shiftRight_zero]
  rfl

theorem unpack_eq_notANumber {b : BitVec 64}
    (h : UnpackedFloat.unpack Format.binary64 b = .notANumber) :
    b.toNat / twoTo 52 % twoTo 11 = 2047 ∧ b.toNat % twoTo 52 ≠ 0 := by
  rw [← toNat_unpackExponent, ← toNat_unpackMantissa]
  unfold UnpackedFloat.unpack at h
  dsimp only at h
  split at h
  · next hexponent =>
    split at h
    · cases h
    · next hmantissa =>
      refine ⟨?_, fun hzero => hmantissa (BitVec.eq_of_toNat_eq hzero)⟩
      rw [hexponent]
      rfl
  · split at h
    · split at h <;> cases h
    · cases h

theorem isNaN_of_unpack (h : x.toModel.unpack = .notANumber) : isNaN x = true := by
  obtain ⟨hexponent, hmantissa⟩ : x.toBits.toNat / twoTo 52 % twoTo 11 = 2047 ∧
      x.toBits.toNat % twoTo 52 ≠ 0 := unpack_eq_notANumber h
  have hparts : parts x = .nan := by
    simp only [parts, hexponent, hmantissa, beq_iff_eq, if_true, if_false]
  rw [isNaN, hparts]

theorem lt_iff : x < y ↔ x.toModel.unpack.compare y.toModel.unpack = some .lt := by
  change (decide (x.toModel < y.toModel) = true) ↔ _
  rw [decide_eq_true_iff]
  exact beq_iff_eq

/-- What is less than another, or what another is less than, is a number. -/
theorem ne_notANumber_of_lt (h : x < y) :
    x.toModel.unpack ≠ .notANumber ∧ y.toModel.unpack ≠ .notANumber := by
  rw [lt_iff] at h
  constructor
  · intro hx
    rw [hx] at h
    cases h
  · intro hy
    rw [hy] at h
    revert h
    cases x.toModel.unpack <;> exact nofun

theorem lt_of_lt_of_lt {z : Float} (hxy : x < y) (hyz : y < z) : x < z := by
  obtain ⟨hx, hy⟩ := ne_notANumber_of_lt hxy
  have hz := (ne_notANumber_of_lt hyz).2
  rw [lt_iff, unpacked_compare_eq_lt hx hy] at hxy
  rw [lt_iff, unpacked_compare_eq_lt hy hz] at hyz
  rw [lt_iff, unpacked_compare_eq_lt hx hz]
  exact hxy.trans hyz

/-- A number is above the less of two others, or else below the greater. -/
theorem lt_or_lt_of_lt {z : Float} (hxz : x < z) (hy : y.toModel.unpack ≠ .notANumber) :
    x < y ∨ y < z := by
  obtain ⟨hx, hz⟩ := ne_notANumber_of_lt hxz
  rw [lt_iff, unpacked_compare_eq_lt hx hz] at hxz
  rw [lt_iff, lt_iff, unpacked_compare_eq_lt hx hy, unpacked_compare_eq_lt hy hz]
  exact hxz.gt_or_lt (rank y)

theorem beq_iff : (x == y) = true ↔ x.toModel.unpack.compare y.toModel.unpack = some .eq := by
  change (x.toModel.unpack.compare y.toModel.unpack == some .eq) = true ↔ _
  exact beq_iff_eq

theorem ne_notANumber (hx : isNaN x = false) : x.toModel.unpack ≠ .notANumber := fun h =>
  absurd (isNaN_of_unpack h) (by simp [hx])

/-- A number is less than another if its rank is. -/
theorem lt_iff_rank_lt (hx : isNaN x = false) (hy : isNaN y = false) :
    x < y ↔ rank x < rank y := by
  rw [lt_iff]
  exact unpacked_compare_eq_lt (ne_notANumber hx) (ne_notANumber hy)

end Binary64

/-- Doubles are compared as what they unpack to. -/
theorem compareDouble_eq (x y : Float) :
    compareDouble x y = x.toModel.unpack.compare y.toModel.unpack := by
  have hswap := Binary64.unpacked_compare_swap x.toModel.unpack y.toModel.unpack
  unfold compareDouble
  simp only [Binary64.lt_iff, Binary64.beq_iff, hswap]
  rcases x.toModel.unpack.compare y.toModel.unpack with _ | _ | _ | _ <;> rfl

/-- Comparing the other way round gives the opposite. -/
theorem compareDouble_swap (x y : Float) :
    compareDouble y x = (compareDouble x y).map Ordering.swap := by
  rw [compareDouble_eq, compareDouble_eq, Binary64.unpacked_compare_swap]

/-- Comparing gives less where the first double is less. -/
theorem compareDouble_eq_lt {x y : Float} : compareDouble x y = some .lt ↔ x < y := by
  rw [compareDouble_eq, Binary64.lt_iff]

/-- Comparing gives greater where the second double is less. -/
theorem compareDouble_eq_gt {x y : Float} : compareDouble x y = some .gt ↔ y < x := by
  rw [compareDouble_swap, ← compareDouble_eq_lt]
  rcases compareDouble y x with _ | _ | _ | _ <;> decide

/-- Two doubles that are numbers have an order. -/
theorem exists_compareDouble {x y : Float} (hx : Binary64.isNaN x = false)
    (hy : Binary64.isNaN y = false) : ∃ order, compareDouble x y = some order := by
  rw [compareDouble_eq]
  exact Binary64.exists_unpacked_compare (Binary64.ne_notANumber hx) (Binary64.ne_notANumber hy)

end TableFilter
