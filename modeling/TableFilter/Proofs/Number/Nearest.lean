import Mathlib.Algebra.Order.Field.Power
import Mathlib.Data.Rat.Defs
import Mathlib.Tactic.FieldSimp
import Mathlib.Tactic.Linarith
import Mathlib.Tactic.NormNum
import Mathlib.Tactic.Positivity
import Mathlib.Tactic.Ring
import TableFilter.Number.Binary64

/-!
# The double nearest to a ratio

A ratio close enough to a double is rounded to its bits. How close is measured in units of the last
place of the double: half a unit on either side, but a quarter below a power of two, where the
doubles are twice as dense. The ends count if the significand is even.

## Main definitions

* `Binary64.Canonical`: the significands and exponents of finite doubles
* `Binary64.ReadsAs`: the ratios that are close enough to a double

## Main results

* `Binary64.lastPlace_spec`: the exponent that rounding chooses
* `Binary64.magnitudeBits_eq`: a ratio close enough to a double rounds to it
-/

namespace TableFilter

open TableFilter.Number

namespace Number

theorem twoTo_cast (k : ℕ) : (twoTo k : ℚ) = 2 ^ k := by
  simp [twoTo]

theorem tenTo_cast (k : ℕ) : (tenTo k : ℚ) = 10 ^ k := by
  simp [tenTo]

/-! ### Rounding quotients -/

section Rounding

variable {n d m : ℕ}

theorem div_eq_add (hd : 0 < d) : (n : ℚ) / d = (n / d : ℕ) + ((n % d : ℕ) : ℚ) / d := by
  have hpos : (0 : ℚ) < d := by exact_mod_cast hd
  have hsplit : (n : ℚ) = d * (n / d : ℕ) + (n % d : ℕ) := by
    exact_mod_cast (Nat.div_add_mod n d).symm
  rw [eq_comm, ← sub_eq_zero]
  field_simp
  linarith

theorem fraction_lt_half (hd : 0 < d) : ((n % d : ℕ) : ℚ) / d < 1 / 2 ↔ 2 * (n % d) < d := by
  have hpos : (0 : ℚ) < d := by exact_mod_cast hd
  rw [div_lt_div_iff₀ hpos (by norm_num), one_mul, mul_comm]
  exact_mod_cast Iff.rfl

theorem half_lt_fraction (hd : 0 < d) : 1 / 2 < ((n % d : ℕ) : ℚ) / d ↔ d < 2 * (n % d) := by
  have hpos : (0 : ℚ) < d := by exact_mod_cast hd
  rw [div_lt_div_iff₀ (by norm_num) hpos, one_mul, mul_comm]
  exact_mod_cast Iff.rfl

theorem fraction_nonneg : 0 ≤ ((n % d : ℕ) : ℚ) / d := by positivity

theorem fraction_lt_one (hd : 0 < d) : ((n % d : ℕ) : ℚ) / d < 1 := by
  have hpos : (0 : ℚ) < d := by exact_mod_cast hd
  rw [div_lt_one hpos]
  exact_mod_cast Nat.mod_lt n hd

/-- What is rounded to is a half away at most. -/
theorem abs_roundHalfEven_sub_le (hd : 0 < d) : |(roundHalfEven n d : ℚ) - n / d| ≤ 1 / 2 := by
  have hlt := fraction_lt_half (n := n) hd
  have hgt := half_lt_fraction (n := n) hd
  have hnonneg := fraction_nonneg (n := n) (d := d)
  have hone := fraction_lt_one (n := n) hd
  rw [div_eq_add hd, abs_le]
  generalize ((n % d : ℕ) : ℚ) / d = f at *
  unfold roundHalfEven
  dsimp only
  split_ifs with h₁ h₂ h₃
  · have := hlt.2 h₁
    constructor <;> linarith
  · have := hgt.2 h₂
    push_cast
    constructor <;> linarith
  · have := mt hgt.1 h₂
    constructor <;> linarith
  · have := mt hlt.1 h₁
    push_cast
    constructor <;> linarith

/-- A quotient is rounded to a natural that is a half away at most, if the natural is even or less
than a half away. -/
theorem roundHalfEven_eq (hd : 0 < d) (h : |(m : ℚ) - n / d| ≤ 1 / 2)
    (hodd : m % 2 = 1 → |(m : ℚ) - n / d| < 1 / 2) : roundHalfEven n d = m := by
  have hlt := fraction_lt_half (n := n) hd
  have hgt := half_lt_fraction (n := n) hd
  have hnonneg := fraction_nonneg (n := n) (d := d)
  have hone := fraction_lt_one (n := n) hd
  rw [div_eq_add hd, abs_le] at h
  rw [div_eq_add hd, abs_lt] at hodd
  unfold roundHalfEven
  dsimp only
  generalize ((n % d : ℕ) : ℚ) / d = f at *
  generalize n / d = q at *
  have hm : m = q ∨ m = q + 1 := by
    have hlow : (q : ℚ) < m + 1 := by linarith
    have hhigh : (m : ℚ) < q + 2 := by linarith
    norm_cast at hlow hhigh
    omega
  rcases hm with rfl | rfl
  · have hle : ¬ d < 2 * (n % d) := fun hd => by linarith [hgt.2 hd]
    split_ifs with h₁ h₂
    · rfl
    · rfl
    · have heven : m % 2 = 1 := by simpa using h₂
      exact absurd (hlt.1 (by linarith [hodd heven])) h₁
  · push_cast at h hodd
    have hge : ¬ 2 * (n % d) < d := fun hd => by linarith [hlt.2 hd]
    split_ifs with h₁ h₂
    · rfl
    · have heven : (q + 1) % 2 = 1 := by
        have := beq_iff_eq.1 h₂
        omega
      exact absurd (hgt.1 (by linarith [hodd heven])) h₁
    · rfl

end Rounding

end Number

namespace Binary64

/-! ### The exponent -/

section Exponent

variable {n d : ℕ}

theorem two_zpow_pos (e : ℤ) : (0 : ℚ) < 2 ^ e := zpow_pos (by norm_num) e

theorem two_zpow_sub_one (e : ℤ) : (2 : ℚ) ^ e = 2 * 2 ^ (e - 1) := by
  rw [zpow_sub_one₀ two_ne_zero]
  ring

theorem unscaled_spec (n : ℕ) (hd : 0 < d) (e : ℤ) :
    0 < (unscaled n d e).2 ∧ ((unscaled n d e).1 : ℚ) / (unscaled n d e).2 = n / d / 2 ^ e := by
  unfold unscaled
  split
  · next he =>
    obtain ⟨k, rfl⟩ := Int.eq_ofNat_of_zero_le he
    refine ⟨Nat.mul_pos hd (twoTo_pos _), ?_⟩
    rw [Nat.cast_mul, Int.toNat_natCast, twoTo_cast, zpow_natCast, div_div]
  · next he =>
    obtain ⟨k, rfl⟩ : ∃ k : ℕ, e = -k := ⟨(-e).toNat, by omega⟩
    refine ⟨hd, ?_⟩
    rw [Nat.cast_mul, neg_neg, Int.toNat_natCast, twoTo_cast, zpow_neg, zpow_natCast]
    field_simp

theorem unscaled_lt (n : ℕ) (hd : 0 < d) (e : ℤ) :
    (unscaled n d e).1 < (unscaled n d e).2 * twoTo 52 ↔ (n : ℚ) / d / 2 ^ e < 2 ^ 52 := by
  obtain ⟨hpos, heq⟩ := unscaled_spec n hd e
  have hcast : (0 : ℚ) < (unscaled n d e).2 := by exact_mod_cast hpos
  rw [← heq, div_lt_iff₀ hcast, mul_comm, ← twoTo_cast]
  exact_mod_cast Iff.rfl

/-- A ratio lies between the powers of two that the logarithms of its parts give. -/
theorem lt_two_zpow_log (hn : 0 < n) (hd : 0 < d) :
    (n : ℚ) / d < 2 ^ ((n.log2 : ℤ) - d.log2 + 1) ∧
      (2 : ℚ) ^ ((n.log2 : ℤ) - d.log2 - 1) < n / d := by
  have hpos : (0 : ℚ) < d := by exact_mod_cast hd
  have hnlow : (2 : ℚ) ^ (n.log2 : ℤ) ≤ n := by
    exact_mod_cast Nat.log2_self_le (Nat.ne_of_gt hn)
  have hdlow : (2 : ℚ) ^ (d.log2 : ℤ) ≤ d := by
    exact_mod_cast Nat.log2_self_le (Nat.ne_of_gt hd)
  have hnhigh : (n : ℚ) < 2 ^ ((n.log2 : ℤ) + 1) := by exact_mod_cast Nat.lt_log2_self
  have hdhigh : (d : ℚ) < 2 ^ ((d.log2 : ℤ) + 1) := by exact_mod_cast Nat.lt_log2_self
  constructor
  · rw [div_lt_iff₀ hpos]
    calc (n : ℚ) < 2 ^ ((n.log2 : ℤ) + 1) := hnhigh
      _ = 2 ^ ((n.log2 : ℤ) - d.log2 + 1) * 2 ^ (d.log2 : ℤ) := by
        rw [← zpow_add₀ two_ne_zero]
        congr 1
        ring
      _ ≤ 2 ^ ((n.log2 : ℤ) - d.log2 + 1) * d :=
        mul_le_mul_of_nonneg_left hdlow (two_zpow_pos _).le
  · rw [lt_div_iff₀ hpos]
    calc (2 : ℚ) ^ ((n.log2 : ℤ) - d.log2 - 1) * d
        < 2 ^ ((n.log2 : ℤ) - d.log2 - 1) * 2 ^ ((d.log2 : ℤ) + 1) :=
          mul_lt_mul_of_pos_left hdhigh (two_zpow_pos _)
      _ = 2 ^ (n.log2 : ℤ) := by
        rw [← zpow_add₀ two_ne_zero]
        congr 1
        ring
      _ ≤ n := hnlow

/-- The significand that rounding starts from has 53 digits of base two, unless the exponent is the
least one. -/
theorem lastPlace_spec (hn : 0 < n) (hd : 0 < d) :
    -1074 ≤ lastPlace n d ∧ (n : ℚ) / d / 2 ^ lastPlace n d < 2 ^ 53 ∧
      (lastPlace n d = -1074 ∨ (2 : ℚ) ^ 52 ≤ n / d / 2 ^ lastPlace n d) := by
  obtain ⟨hhigh, hlow⟩ := lt_two_zpow_log hn hd
  unfold lastPlace
  dsimp only
  generalize hguess : max ((n.log2 : ℤ) - d.log2 - 52) (-1074) = guess
  have hleast : -1074 ≤ guess := by omega
  have hbelow : (n : ℚ) / d / 2 ^ guess < 2 ^ 53 := by
    rw [div_lt_iff₀ (two_zpow_pos _), ← zpow_natCast, ← zpow_add₀ two_ne_zero]
    exact hhigh.trans_le (zpow_le_zpow_right₀ (by norm_num) (by push_cast; omega))
  have habove : -1074 < guess → (2 : ℚ) ^ 51 < n / d / 2 ^ guess := fun h => by
    rw [lt_div_iff₀ (two_zpow_pos _), ← zpow_natCast, ← zpow_add₀ two_ne_zero]
    exact (zpow_le_zpow_right₀ (by norm_num) (by push_cast; omega)).trans_lt hlow
  split
  · next h =>
    rw [Bool.and_eq_true, decide_eq_true_eq, decide_eq_true_eq, unscaled_lt n hd] at h
    obtain ⟨hsmall, hgreater⟩ := h
    have htwice : (n : ℚ) / d / 2 ^ (guess - 1) = 2 * (n / d / 2 ^ guess) := by
      rw [two_zpow_sub_one guess]
      field_simp
    rw [htwice]
    refine ⟨by omega, by linarith, .inr ?_⟩
    have := habove hgreater
    linarith
  · next h =>
    rw [Bool.and_eq_true, decide_eq_true_eq, decide_eq_true_eq, unscaled_lt n hd, not_and] at h
    refine ⟨hleast, hbelow, ?_⟩
    by_cases hlt : (n : ℚ) / d / 2 ^ guess < 2 ^ 52
    · exact .inl (le_antisymm (not_lt.1 (h hlt)) hleast)
    · exact .inr (not_lt.1 hlt)

end Exponent

/-! ### Rounding -/

/-- The significands and exponents of finite doubles. -/
structure Canonical (m : ℕ) (e : ℤ) : Prop where
  least_le : -1074 ≤ e
  le_greatest : e ≤ 971
  lt : m < twoTo 53
  full : twoTo 52 ≤ m ∨ e = -1074

/-- How far below a double the ratios go that read as it, in units of its last place. -/
def gapBelow (m : ℕ) (e : ℤ) : ℚ := if m = twoTo 52 ∧ -1074 < e then 1 / 4 else 1 / 2

/-- The ratios that are close enough to the double `m * 2 ^ e`. -/
structure ReadsAs (m : ℕ) (e : ℤ) (q : ℚ) : Prop where
  low : m - gapBelow m e ≤ q / 2 ^ e
  high : q / 2 ^ e ≤ m + 1 / 2
  strict : m % 2 = 1 → m - gapBelow m e < q / 2 ^ e ∧ q / 2 ^ e < m + 1 / 2

section Rounding

variable {m : ℕ} {e : ℤ} {q : ℚ}

theorem Canonical.cast_lt (h : Canonical m e) : (m : ℚ) ≤ 2 ^ 53 - 1 := by
  have hm : m + 1 ≤ twoTo 53 := h.lt
  have hcast : (m : ℚ) + 1 ≤ twoTo 53 := by exact_mod_cast hm
  rw [twoTo_cast] at hcast
  linarith

theorem gapBelow_le (m : ℕ) (e : ℤ) : gapBelow m e ≤ 1 / 2 := by
  unfold gapBelow
  split <;> norm_num

/-- A smaller unit fits at least twice as often. -/
theorem two_mul_div_le (hq : 0 ≤ q) {a b : ℤ} (h : a < b) : 2 * (q / 2 ^ b) ≤ q / 2 ^ a := by
  have hpower : (2 : ℚ) ^ b = 2 ^ (b - a) * 2 ^ a := by
    rw [← zpow_add₀ two_ne_zero]
    congr 1
    ring
  have htwo : (2 : ℚ) ≤ 2 ^ (b - a) := by
    calc (2 : ℚ) = 2 ^ (1 : ℤ) := (zpow_one 2).symm
      _ ≤ 2 ^ (b - a) := zpow_le_zpow_right₀ (by norm_num) (by omega)
  have ha := two_zpow_pos a
  rw [hpower, ← mul_div_assoc, div_le_div_iff₀ (mul_pos (two_zpow_pos _) ha) ha]
  nlinarith [mul_nonneg hq ha.le]

theorem magnitudeBits_of_lastPlace {n d : ℕ} (hn : 0 < n) {k : ℤ} (hk : lastPlace n d = k) :
    magnitudeBits n d =
      min ((k + 1074).toNat * twoTo 52 + roundHalfEven (unscaled n d k).1 (unscaled n d k).2)
        infinityBits := by
  rw [magnitudeBits, if_neg (by simpa using Nat.ne_of_gt hn), hk]

section LastPlace

variable {n d : ℕ} (hn : 0 < n) (hd : 0 < d) (h : Canonical m e) (hq : ReadsAs m e (n / d))

include hn hd h hq

/-- Where the significand fills all its digits, rounding starts from the exponent of the double. -/
theorem lastPlace_eq (hfull : e = -1074 ∨ (2 : ℚ) ^ 52 ≤ n / d / 2 ^ e) : lastPlace n d = e := by
  obtain ⟨hleast, hlt, hfill⟩ := lastPlace_spec hn hd
  have hnonneg : (0 : ℚ) ≤ n / d := by positivity
  rcases lt_trichotomy (lastPlace n d) e with hless | heq | hgreater
  · have hbig : (2 : ℚ) ^ 52 ≤ n / d / 2 ^ e := hfull.resolve_left (by omega)
    linarith [two_mul_div_le hnonneg hless]
  · exact heq
  · have hbig : (2 : ℚ) ^ 52 ≤ n / d / 2 ^ lastPlace n d :=
      hfill.resolve_left (by linarith [h.least_le])
    linarith [two_mul_div_le hnonneg hgreater, hq.high, h.cast_lt]

/-- Just below a power of two rounding starts from the exponent below. -/
theorem lastPlace_eq_sub_one (hgreater : -1074 < e) (hbelow : (n : ℚ) / d / 2 ^ e < 2 ^ 52) :
    m = twoTo 52 ∧ lastPlace n d = e - 1 := by
  obtain ⟨hleast, hlt, hfill⟩ := lastPlace_spec hn hd
  have hnonneg : (0 : ℚ) ≤ n / d := by positivity
  have hm : m = twoTo 52 := by
    have hfull : twoTo 52 ≤ m := h.full.resolve_right (by omega)
    have hsmall : (m : ℚ) < (twoTo 52 : ℕ) + 1 := by
      rw [twoTo_cast]
      linarith [hq.low, gapBelow_le m e]
    have hle : m < twoTo 52 + 1 := by exact_mod_cast hsmall
    omega
  have hclose : (2 : ℚ) ^ 52 - 1 / 4 ≤ n / d / 2 ^ e := by
    have hlow := hq.low
    rw [gapBelow, if_pos ⟨hm, hgreater⟩, hm, twoTo_cast] at hlow
    exact hlow
  refine ⟨hm, ?_⟩
  rcases lt_trichotomy (lastPlace n d) (e - 1) with hless | heq | hmore
  · have htwice := two_mul_div_le hnonneg hless
    have htwice' := two_mul_div_le hnonneg (sub_one_lt e)
    linarith
  · exact heq
  · have hbig : (2 : ℚ) ^ 52 ≤ n / d / 2 ^ lastPlace n d := hfill.resolve_left (by omega)
    rcases (show e ≤ lastPlace n d by omega).eq_or_lt with heq | hless
    · rw [← heq] at hbig
      linarith
    · linarith [two_mul_div_le hnonneg hless]

/-- A ratio close enough to a double rounds to it. -/
theorem magnitudeBits_eq : magnitudeBits n d = (e + 1074).toNat * twoTo 52 + m := by
  have hleast := h.least_le
  have hgreatest := h.le_greatest
  have hbound : (e + 1074).toNat * twoTo 52 + m ≤ infinityBits := by
    have hm : m < twoTo 53 := h.lt
    have hplaces : (e + 1074).toNat ≤ 2045 := by omega
    have hmul := Nat.mul_le_mul_right (twoTo 52) hplaces
    rw [twoTo_succ] at hm
    rw [infinityBits]
    omega
  by_cases hfull : e = -1074 ∨ (2 : ℚ) ^ 52 ≤ n / d / 2 ^ e
  · have hplace := lastPlace_eq hn hd h hq hfull
    obtain ⟨hunit, hratio⟩ := unscaled_spec n hd e
    have hround : roundHalfEven (unscaled n d e).1 (unscaled n d e).2 = m := by
      have hgap := gapBelow_le m e
      refine roundHalfEven_eq hunit ?_ fun hodd => ?_
      · rw [hratio, abs_le]
        constructor <;> linarith [hq.low, hq.high]
      · rw [hratio, abs_lt]
        constructor <;> linarith [hq.strict hodd]
    rw [magnitudeBits_of_lastPlace hn hplace, hround, min_eq_left hbound]
  · rw [not_or, not_le] at hfull
    obtain ⟨hm, hplace⟩ := lastPlace_eq_sub_one hn hd h hq (by omega) hfull.2
    obtain ⟨hunit, hratio⟩ := unscaled_spec n hd (e - 1)
    have hround : roundHalfEven (unscaled n d (e - 1)).1 (unscaled n d (e - 1)).2 = twoTo 53 := by
      have hlow := hq.low
      rw [gapBelow, if_pos ⟨hm, by omega⟩, hm, twoTo_cast] at hlow
      have htwice : (n : ℚ) / d / 2 ^ (e - 1) = 2 * (n / d / 2 ^ e) := by
        rw [two_zpow_sub_one e]
        field_simp
      refine roundHalfEven_eq hunit ?_ fun hodd => absurd hodd (by decide)
      rw [hratio, htwice, twoTo_cast, abs_le]
      constructor <;> linarith
    have hcarry : (e - 1 + 1074).toNat * twoTo 52 + twoTo 53 =
        (e + 1074).toNat * twoTo 52 + m := by
      obtain ⟨k, hk⟩ : ∃ k : ℕ, (e + 1074).toNat = k + 1 := ⟨(e + 1073).toNat, by omega⟩
      rw [hm, hk, show (e - 1 + 1074).toNat = k by omega, twoTo_succ 52]
      ring
    rw [magnitudeBits_of_lastPlace hn hplace, hround, hcarry, min_eq_left hbound]

end LastPlace

end Rounding

end Binary64

end TableFilter
