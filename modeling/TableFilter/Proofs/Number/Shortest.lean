import Mathlib.Data.Nat.Cast.Order.Field
import TableFilter.Number.Shortest
import TableFilter.Proofs.Number.Digits
import TableFilter.Proofs.Number.Nearest

/-!
# Fewest digits read back

Whatever the grid, a point that is taken lies in the interval of the numbers that read as the
double. A grid of seventeen places below the first digit always has such a point: its points lie
closer together than half the width of the interval.

## Main definitions

* `Decimals.value`: the number that digits and an exponent stand for

## Main results

* `Interval.holds_iff`: what an interval holds
* `readingInterval_spec`: the interval of the numbers that read as a double
* `shortest_readsAs`: the fewest digits of a double read as it
-/

namespace TableFilter.Number

open TableFilter.Binary64

/-- The number that digits and an exponent stand for. -/
def Decimals.value (x : Decimals) : ℚ := x.digits * 10 ^ x.exponent

theorem ten_zpow_pos (e : ℤ) : (0 : ℚ) < 10 ^ e := zpow_pos (by norm_num) e

theorem overTen_spec (n : ℕ) {d : ℕ} (hd : 0 < d) (e : ℤ) :
    0 < (overTen n d e).2 ∧ ((overTen n d e).1 : ℚ) / (overTen n d e).2 = n / d / 10 ^ e := by
  unfold overTen
  split
  · next he =>
    obtain ⟨k, rfl⟩ := Int.eq_ofNat_of_zero_le he
    refine ⟨Nat.mul_pos hd (tenTo_pos _), ?_⟩
    rw [Nat.cast_mul, Int.toNat_natCast, tenTo_cast, zpow_natCast, div_div]
  · next he =>
    obtain ⟨k, rfl⟩ : ∃ k : ℕ, e = -k := ⟨(-e).toNat, by omega⟩
    refine ⟨hd, ?_⟩
    rw [Nat.cast_mul, neg_neg, Int.toNat_natCast, tenTo_cast, zpow_neg, zpow_natCast]
    field_simp

/-! ### Intervals -/

namespace Interval

variable {i : Interval} {p : ℕ} {k : ℤ}

theorem overTen_snd (n m d : ℕ) (e : ℤ) : (overTen n d e).2 = (overTen m d e).2 := by
  unfold overTen
  split <;> rfl

/-- What an interval holds: the ends count if it is closed. -/
theorem holds_iff (hunit : 0 < i.unit) :
    i.holds p k = true ↔
      if i.closed then (i.low : ℚ) / i.unit ≤ p * 10 ^ k ∧ p * 10 ^ k ≤ (i.high : ℚ) / i.unit
      else (i.low : ℚ) / i.unit < p * 10 ^ k ∧ p * 10 ^ k < (i.high : ℚ) / i.unit := by
  obtain ⟨hpos, hlow⟩ := overTen_spec i.low hunit k
  obtain ⟨-, hhigh⟩ := overTen_spec i.high hunit k
  rw [overTen_snd i.high i.low] at hhigh
  have hcast : (0 : ℚ) < (overTen i.low i.unit k).2 := by exact_mod_cast hpos
  have hten := ten_zpow_pos k
  unfold holds
  dsimp only
  rw [← div_le_iff₀ hten, ← le_div_iff₀ hten, ← div_lt_iff₀ hten, ← lt_div_iff₀ hten, ← hlow,
    ← hhigh, div_le_iff₀ hcast, le_div_iff₀ hcast, div_lt_iff₀ hcast, lt_div_iff₀ hcast]
  split <;> simp only [Bool.and_eq_true, decide_eq_true_eq] <;> norm_cast

/-- On a grid the point nearest to the middle is tried, then another one. -/
theorem onGrid?_eq (i : Interval) (k : ℤ) : ∃ far : ℕ,
    i.onGrid? k =
      let near := roundHalfEven (overTen i.mid i.unit k).1 (overTen i.mid i.unit k).2
      if i.holds near k then some ⟨near, k⟩ else if i.holds far k then some ⟨far, k⟩ else none :=
  ⟨_, rfl⟩

theorem onGrid?_holds {x : Decimals} (h : i.onGrid? k = some x) :
    i.holds x.digits x.exponent = true := by
  obtain ⟨far, heq⟩ := i.onGrid?_eq k
  rw [heq] at h
  dsimp only at h
  generalize roundHalfEven _ _ = near at h
  split at h
  · next hnear =>
    cases h
    exact hnear
  · split at h
    · next hfar =>
      cases h
      exact hfar
    · cases h

/-- A grid has a point in an interval whose ends are more than half a step away from the middle. -/
theorem onGrid?_isSome (hunit : 0 < i.unit)
    (hlow : (10 : ℚ) ^ k / 2 < (i.mid : ℚ) / i.unit - i.low / i.unit)
    (hhigh : (10 : ℚ) ^ k / 2 < (i.high : ℚ) / i.unit - i.mid / i.unit) :
    (i.onGrid? k).isSome = true := by
  obtain ⟨hpos, hmid⟩ := overTen_spec i.mid hunit k
  have hten := ten_zpow_pos k
  have hnear := abs_roundHalfEven_sub_le (n := (overTen i.mid i.unit k).1) hpos
  obtain ⟨far, heq⟩ := i.onGrid?_eq k
  rw [heq]
  rw [hmid] at hnear
  dsimp only
  generalize roundHalfEven _ _ = near at hnear
  have hdistance : |near * (10 : ℚ) ^ k - i.mid / i.unit| ≤ 10 ^ k / 2 := by
    calc |near * (10 : ℚ) ^ k - i.mid / i.unit|
        = |(near : ℚ) - i.mid / i.unit / 10 ^ k| * 10 ^ k := by
          rw [← abs_of_pos hten, ← abs_mul, abs_of_pos hten, sub_mul, div_mul_cancel₀ _ hten.ne']
      _ ≤ 1 / 2 * 10 ^ k := mul_le_mul_of_nonneg_right hnear hten.le
      _ = 10 ^ k / 2 := by ring
  rw [abs_le] at hdistance
  have hholds : i.holds near k = true := by
    rw [holds_iff hunit]
    split <;> constructor <;> linarith
  rw [if_pos hholds]
  rfl

/-- If the finest grid has a point in the interval, the point that is taken lies in it. -/
theorem coarsest_holds {fuel : ℕ} : ∀ {k : ℤ}, (i.onGrid? (k - fuel)).isSome = true →
    i.holds (i.coarsest fuel k).digits (i.coarsest fuel k).exponent = true := by
  induction fuel with
  | zero =>
    intro k h
    obtain ⟨x, hx⟩ := Option.isSome_iff_exists.1 h
    rw [Nat.cast_zero, sub_zero] at hx
    rw [coarsest, hx]
    exact onGrid?_holds hx
  | succ fuel ih =>
    intro k h
    rw [coarsest]
    split
    · next hx => exact onGrid?_holds hx
    · refine ih ?_
      rwa [Nat.cast_succ, add_comm, ← sub_sub] at h

end Interval

/-! ### The interval of a double -/

section Reading

variable {m : ℕ} {e : ℤ}

/-- The scale and the unit of the interval of a double make a quarter of its last place. -/
theorem scale_div_unit (e : ℤ) :
    ((if 2 ≤ e then twoTo (e - 2).toNat else 1 : ℕ) : ℚ) /
      (if 2 ≤ e then 1 else twoTo (2 - e).toNat : ℕ) = 2 ^ e / 4 := by
  split
  · next he =>
    obtain ⟨k, rfl⟩ : ∃ k : ℕ, e = k + 2 := ⟨(e - 2).toNat, by omega⟩
    rw [add_sub_cancel_right, Int.toNat_natCast, twoTo_cast, zpow_add₀ two_ne_zero, zpow_natCast]
    norm_num
  · next he =>
    obtain ⟨k, rfl⟩ : ∃ k : ℕ, e = 2 - k := ⟨(2 - e).toNat, by omega⟩
    rw [sub_sub_cancel, Int.toNat_natCast, twoTo_cast, zpow_sub₀ two_ne_zero, zpow_natCast]
    norm_num
    ring

theorem readingInterval_unit_pos (m : ℕ) (e : ℤ) : 0 < (readingInterval m e).unit := by
  unfold readingInterval
  dsimp only
  split
  · exact Nat.one_pos
  · exact twoTo_pos _

theorem readingInterval_mid_pos (hm : 0 < m) (e : ℤ) : 0 < (readingInterval m e).mid := by
  unfold readingInterval
  dsimp only
  split
  · exact Nat.mul_pos (Nat.mul_pos (by decide) hm) (twoTo_pos _)
  · exact Nat.mul_pos (Nat.mul_pos (by decide) hm) Nat.one_pos

/-- The interval of the numbers that read as a double. -/
theorem readingInterval_spec (hm : 0 < m) (e : ℤ) :
    ((readingInterval m e).low : ℚ) / (readingInterval m e).unit = (m - gapBelow m e) * 2 ^ e ∧
      ((readingInterval m e).mid : ℚ) / (readingInterval m e).unit = m * 2 ^ e ∧
      ((readingInterval m e).high : ℚ) / (readingInterval m e).unit = (m + 1 / 2) * 2 ^ e := by
  have hscale := scale_div_unit e
  have hgap : ((if m == twoTo 52 && -1074 < e then 1 else 2 : ℕ) : ℚ) = 4 * gapBelow m e := by
    unfold gapBelow
    simp only [Bool.and_eq_true, beq_iff_eq, decide_eq_true_eq]
    split <;> norm_num
  have hle : (if m == twoTo 52 && -1074 < e then 1 else 2 : ℕ) ≤ 4 * m := by
    split <;> omega
  unfold readingInterval
  dsimp only
  generalize (if 2 ≤ e then twoTo (e - 2).toNat else 1) = scale at *
  generalize (if 2 ≤ e then 1 else twoTo (2 - e).toNat) = unit at *
  rw [Nat.cast_mul, Nat.cast_mul (4 * m), Nat.cast_mul (4 * m + 2), mul_div_assoc, mul_div_assoc,
    mul_div_assoc, hscale, Nat.cast_sub hle, hgap]
  push_cast
  refine ⟨?_, ?_, ?_⟩ <;> ring

/-- What the interval holds reads as the double. -/
theorem readsAs_of_holds (hm : 0 < m) {x : Decimals}
    (h : (readingInterval m e).holds x.digits x.exponent = true) : ReadsAs m e x.value := by
  obtain ⟨hlow, -, hhigh⟩ := readingInterval_spec hm e
  have htwo := two_zpow_pos e
  rw [Interval.holds_iff (readingInterval_unit_pos m e), hlow, hhigh,
    show (readingInterval m e).closed = (m % 2 == 0) from rfl, ← Decimals.value,
    ← le_div_iff₀ htwo, ← div_le_iff₀ htwo, ← lt_div_iff₀ htwo, ← div_lt_iff₀ htwo] at h
  split at h
  · next heven =>
    exact ⟨h.1, h.2, fun hodd => absurd (beq_iff_eq.1 heven) (by omega)⟩
  · exact ⟨h.1.le, h.2.le, fun _ => h⟩

end Reading

/-! ### The first digit -/

theorem le_tensBelow {fuel d : ℕ} : ∀ {n : ℕ}, d ≤ n * tenTo fuel →
    d ≤ n * tenTo (tensBelow fuel n d) := by
  induction fuel with
  | zero => exact fun h => h
  | succ fuel ih =>
    intro n h
    rw [tensBelow]
    split
    · next hle => simpa using hle
    · rw [tenTo_succ] at h ⊢
      have := @ih (n * 10) (by linarith)
      linarith

/-- A ratio has a digit where its first one is said to be. -/
theorem leadingExponent_le {n d : ℕ} (hn : 0 < n) (hd : 0 < d) :
    (10 : ℚ) ^ leadingExponent n d ≤ n / d := by
  have hpos : (0 : ℚ) < d := by exact_mod_cast hd
  unfold leadingExponent
  split
  · next hle =>
    obtain ⟨k, hk⟩ : ∃ k, (natText (n / d)).length = k + 1 :=
      ⟨_, (Nat.succ_pred_eq_of_pos (List.length_pos_iff.2 (isDigits_natText _).1)).symm⟩
    have hpower : tenTo k ≤ n / d := by
      rcases Nat.eq_zero_or_pos k with rfl | hk'
      · exact Nat.div_pos hle hd
      · exact Nat.not_lt.1 fun hlt => by have := (length_natText_le hk').2 hlt; omega
    calc (10 : ℚ) ^ (((natText (n / d)).length : ℤ) - 1) = tenTo k := by
          rw [hk, Nat.cast_succ, add_sub_cancel_right, zpow_natCast, tenTo_cast]
      _ ≤ (n / d : ℕ) := by exact_mod_cast hpower
      _ ≤ n / d := Nat.cast_div_le
  · have hfuel : d ≤ n * tenTo (d.log2 + 1) :=
      calc d ≤ 2 ^ (d.log2 + 1) := Nat.lt_log2_self.le
        _ ≤ tenTo (d.log2 + 1) := Nat.pow_le_pow_left (by decide) _
        _ ≤ n * tenTo (d.log2 + 1) := Nat.le_mul_of_pos_left _ hn
    have hreach := le_tensBelow hfuel
    generalize tensBelow (d.log2 + 1) n d = t at hreach
    have hcast : (d : ℚ) ≤ n * 10 ^ t := by
      rw [← tenTo_cast]
      exact_mod_cast hreach
    rw [zpow_neg, zpow_natCast, le_div_iff₀ hpos, inv_mul_le_iff₀ (by positivity), mul_comm]
    exact hcast

/-! ### Fewest digits -/

theorem dropZeros_value (fuel : ℕ) : ∀ x : Decimals, (dropZeros fuel x).value = x.value := by
  induction fuel with
  | zero => exact fun _ => rfl
  | succ fuel ih =>
    intro x
    rw [dropZeros]
    split
    · next h =>
      rw [Bool.and_eq_true, beq_iff_eq] at h
      have hdigits : (x.digits : ℚ) = 10 * (x.digits / 10 : ℕ) := by
        exact_mod_cast show x.digits = 10 * (x.digits / 10) by omega
      rw [ih, Decimals.value, Decimals.value, hdigits, zpow_add_one₀ (by norm_num)]
      ring
    · rfl

/-- The fewest digits of a double read as it. -/
theorem shortest_readsAs {m : ℕ} {e : ℤ} (h : Canonical m e) (hm : 0 < m) :
    ReadsAs m e (shortest m e).value := by
  have hunit := readingInterval_unit_pos m e
  obtain ⟨hlow, hmid, hhigh⟩ := readingInterval_spec hm e
  have hpos := two_zpow_pos e
  have hlead := leadingExponent_le (readingInterval_mid_pos hm e) hunit
  unfold shortest
  dsimp only
  rw [dropZeros_value]
  generalize leadingExponent (readingInterval m e).mid (readingInterval m e).unit = lead at hlead
  have hstep : (10 : ℚ) ^ (lead - 17) / 2 < 2 ^ e / 4 := by
    have hten : (10 : ℚ) ^ (lead - 17) = 10 ^ lead / 10 ^ 17 := by
      rw [zpow_sub₀ (by norm_num)]
      norm_num
    rw [hmid] at hlead
    have := h.cast_lt
    rw [hten]
    nlinarith
  refine readsAs_of_holds hm (Interval.coarsest_holds (Interval.onGrid?_isSome hunit ?_ ?_))
  · rw [hlow, hmid]
    have hgap : 1 / 4 ≤ gapBelow m e := by
      unfold gapBelow
      split <;> norm_num
    push_cast
    nlinarith
  · rw [hhigh, hmid]
    push_cast
    linarith

end TableFilter.Number
