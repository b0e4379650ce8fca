import TableFilter.Proofs.Number.Nearest
import TableFilter.Proofs.Value.Doubles

/-!
# Integers as doubles

The double nearest to an integer need not be the integer, but a greater integer has no smaller
double. Rounding keeps the order of ratios, so that their magnitudes are in the order of their bits,
and the bits of a magnitude are in the order of what it stands for.

## Main definitions

* `Binary64.magnitudeRank`: the rank of the double with a magnitude and no minus sign
* `Binary64.Holds`: a word with the sign and the magnitude of a double

## Main results

* `Binary64.magnitudeBits_mono`: rounding keeps the order
* `Binary64.Holds.unpackedRank_unpack`: the rank of a double by its sign and its magnitude
* `Binary64.lt_of_ofInt_lt`: integers are in the order of their doubles
-/

namespace TableFilter

open TableFilter.Number

/-! ### Rounding -/

/-- Rounding is off by a half at most, so that the results of two quotients that are the other way
round leave no room between the quotients. -/
theorem Number.roundHalfEven_mono {n m d : ℕ} (hd : 0 < d) (h : n ≤ m) :
    roundHalfEven n d ≤ roundHalfEven m d := by
  by_contra hnot
  have hstep : (roundHalfEven m d : ℚ) + 1 ≤ roundHalfEven n d := by
    exact_mod_cast Nat.lt_of_not_le hnot
  have hn := abs_le.1 (abs_roundHalfEven_sub_le (n := n) hd)
  have hm := abs_le.1 (abs_roundHalfEven_sub_le (n := m) hd)
  have hpos : (0 : ℚ) < d := by exact_mod_cast hd
  have hle : (m : ℚ) / d ≤ n / d := by linarith
  rw [div_le_div_iff_of_pos_right hpos] at hle
  have heq : n = m := le_antisymm h (by exact_mod_cast hle)
  exact hnot (heq ▸ le_rfl)

namespace Binary64

section Ratios

variable {n m d : ℕ} {k : ℤ}

/-- Rounding gives at least a natural that is reached, and at most one that is not exceeded. -/
theorem le_roundHalfEven {b : ℕ} (hd : 0 < d) (h : (b : ℚ) ≤ n / d) : b ≤ roundHalfEven n d := by
  have hn := abs_le.1 (abs_roundHalfEven_sub_le (n := n) hd)
  have hlt : (b : ℚ) < roundHalfEven n d + 1 := by linarith
  exact Nat.lt_succ_iff.1 (by exact_mod_cast hlt)

theorem roundHalfEven_le {b : ℕ} (hd : 0 < d) (h : (n : ℚ) / d ≤ b) : roundHalfEven n d ≤ b := by
  have hn := abs_le.1 (abs_roundHalfEven_sub_le (n := n) hd)
  have hlt : (roundHalfEven n d : ℚ) < b + 1 := by linarith
  exact Nat.lt_succ_iff.1 (by exact_mod_cast hlt)

theorem unscaled_mono (h : n ≤ m) (d : ℕ) (k : ℤ) :
    (unscaled n d k).1 ≤ (unscaled m d k).1 ∧ (unscaled n d k).2 = (unscaled m d k).2 := by
  unfold unscaled
  split
  · exact ⟨h, rfl⟩
  · exact ⟨Nat.mul_le_mul_right _ h, rfl⟩

/-- A greater ratio has no lesser exponent. -/
theorem lastPlace_mono (hn : 0 < n) (hd : 0 < d) (h : n ≤ m) : lastPlace n d ≤ lastPlace m d := by
  by_contra hless
  rw [not_le] at hless
  obtain ⟨-, -, hfull⟩ := lastPlace_spec hn hd
  obtain ⟨hleast, hlt, -⟩ := lastPlace_spec (hn.trans_le h) hd
  have hbig : (2 : ℚ) ^ 52 ≤ n / d / 2 ^ lastPlace n d := hfull.resolve_left (by omega)
  have htwice := two_mul_div_le (q := (m : ℚ) / d) (by positivity) hless
  have hle : (n : ℚ) / d / 2 ^ lastPlace n d ≤ m / d / 2 ^ lastPlace n d := by
    have := two_zpow_pos (lastPlace n d)
    gcongr
  linarith

theorem magnitudeBits_zero (d : ℕ) : magnitudeBits 0 d = 0 := by
  rw [magnitudeBits, if_pos (beq_self_eq_true 0)]

/-- Rounding keeps the order of ratios. -/
theorem magnitudeBits_mono (hd : 0 < d) (h : n ≤ m) : magnitudeBits n d ≤ magnitudeBits m d := by
  rcases Nat.eq_zero_or_pos n with rfl | hn
  · exact (magnitudeBits_zero d).le.trans (Nat.zero_le _)
  · have hm := hn.trans_le h
    rw [magnitudeBits_of_lastPlace hn rfl, magnitudeBits_of_lastPlace hm rfl]
    refine min_le_min_right _ ?_
    obtain ⟨hnleast, hnlt, -⟩ := lastPlace_spec hn hd
    obtain ⟨-, -, hmfull⟩ := lastPlace_spec hm hd
    rcases (lastPlace_mono hn hd h).eq_or_lt with heq | hless
    · obtain ⟨hle, hunit⟩ := unscaled_mono h d (lastPlace m d)
      rw [heq, hunit]
      exact Nat.add_le_add_left (roundHalfEven_mono (unscaled_spec m hd _).1 hle) _
    · -- What carries into the next exponent is still not above what starts with that exponent.
      have hplaces : (lastPlace n d + 1074).toNat + 1 ≤ (lastPlace m d + 1074).toNat := by omega
      obtain ⟨hnunit, hnratio⟩ := unscaled_spec n hd (lastPlace n d)
      obtain ⟨hmunit, hmratio⟩ := unscaled_spec m hd (lastPlace m d)
      have hcarry : roundHalfEven (unscaled n d (lastPlace n d)).1
          (unscaled n d (lastPlace n d)).2 ≤ twoTo 53 := by
        refine roundHalfEven_le hnunit ?_
        rw [hnratio, twoTo_cast]
        exact hnlt.le
      have hfull : twoTo 52 ≤ roundHalfEven (unscaled m d (lastPlace m d)).1
          (unscaled m d (lastPlace m d)).2 := by
        refine le_roundHalfEven hmunit ?_
        rw [hmratio, twoTo_cast]
        exact hmfull.resolve_left (by omega)
      rw [twoTo_succ] at hcarry
      calc (lastPlace n d + 1074).toNat * twoTo 52 + _
          ≤ (lastPlace n d + 1074).toNat * twoTo 52 + twoTo 52 * 2 := Nat.add_le_add_left hcarry _
        _ = ((lastPlace n d + 1074).toNat + 1) * twoTo 52 + twoTo 52 := by ring
        _ ≤ (lastPlace m d + 1074).toNat * twoTo 52 + _ :=
          Nat.add_le_add (Nat.mul_le_mul_right _ hplaces) hfull

theorem magnitudeBits_le (n d : ℕ) : magnitudeBits n d ≤ infinityBits := by
  rcases Nat.eq_zero_or_pos n with rfl | hn
  · exact (magnitudeBits_zero d).le.trans (Nat.zero_le _)
  · rw [magnitudeBits_of_lastPlace hn rfl]
    exact Nat.min_le_right _ _

end Ratios

/-! ### Magnitudes -/

section Magnitudes

open Float.Model

variable {b c : ℕ} {negative : Bool}

/-- The rank of the double with a magnitude and no minus sign: class, exponent and significand. -/
def magnitudeRank (b : ℕ) : ℤ ×ₗ ℤ ×ₗ ℤ :=
  if b / twoTo 52 = 2047 then toLex (2, toLex (0, 0))
  else if b / twoTo 52 = 0 then
    if b % twoTo 52 = 0 then 0 else toLex (1, toLex (-1074, ((b % twoTo 52 : ℕ) : ℤ)))
  else
    toLex (1, toLex (((b / twoTo 52 : ℕ) : ℤ) - 1075, ((twoTo 52 + b % twoTo 52 : ℕ) : ℤ)))

theorem twoTo_52 : twoTo 52 = 4503599627370496 := rfl

theorem twoTo_63 : twoTo 63 = 9223372036854775808 := rfl

theorem infinityBits_eq : infinityBits = 9218868437227405312 := rfl

theorem magnitudeRank_mono (h : b ≤ c) (hc : c ≤ infinityBits) :
    magnitudeRank b ≤ magnitudeRank c := by
  have hzero : (0 : ℤ ×ₗ ℤ ×ₗ ℤ) = toLex (0, toLex (0, 0)) := rfl
  rw [infinityBits_eq] at hc
  unfold magnitudeRank
  rw [twoTo_52, hzero]
  split_ifs <;> simp only [Prod.Lex.toLex_le_toLex, true_and] <;> omega

theorem toNat_unpackSign (w : BitVec 64) :
    (@UnpackedFloat.unpackSign Format.binary64 w).toNat = w.toNat / twoTo 63 % 2 := by
  rw [UnpackedFloat.unpackSign, BitVec.toNat_cast, BitVec.extractLsb_toNat,
    Nat.shiftRight_eq_div_pow]
  rfl

/-- A word holds the sign and the magnitude of a double that is a number. -/
structure Holds (negative : Bool) (b : ℕ) (w : BitVec 64) : Prop where
  le_infinity : b ≤ infinityBits
  toNat_eq : w.toNat = if negative then b + twoTo 63 else b

namespace Holds

variable {w : BitVec 64} (h : Holds negative b w)
include h

theorem unpackExponent :
    (@UnpackedFloat.unpackExponent Format.binary64 w).toNat = b / twoTo 52 := by
  have h11 : twoTo 11 = 2048 := rfl
  have hle := h.le_infinity
  rw [infinityBits_eq] at hle
  rw [toNat_unpackExponent, h.toNat_eq, twoTo_52, h11, twoTo_63]
  split <;> omega

theorem unpackMantissa :
    (@UnpackedFloat.unpackMantissa Format.binary64 w).toNat = b % twoTo 52 := by
  rw [toNat_unpackMantissa, h.toNat_eq, twoTo_52, twoTo_63]
  split <;> omega

theorem unpackSign :
    UnpackedFloat.Sign.ofBitVec (@UnpackedFloat.unpackSign Format.binary64 w) =
      if negative then .negative else .positive := by
  have hle := h.le_infinity
  rw [infinityBits_eq] at hle
  have hbit : @UnpackedFloat.unpackSign Format.binary64 w = 0#1 ↔ negative = false := by
    rw [← BitVec.toNat_inj, toNat_unpackSign, h.toNat_eq, twoTo_63]
    cases negative <;> simp <;> omega
  rw [UnpackedFloat.Sign.ofBitVec]
  simp only [hbit]
  cases negative <;> rfl

/-- The greatest exponent is that of infinity, which has no digits. -/
theorem mod_eq_zero (hfull : b / twoTo 52 = 2047) : b % twoTo 52 = 0 := by
  have hle := h.le_infinity
  rw [infinityBits_eq] at hle
  rw [twoTo_52] at hfull ⊢
  omega

theorem isNaNBits : @UnpackedFloat.isNaNBits Format.binary64 w = false := by
  rw [UnpackedFloat.isNaNBits, decide_eq_false_iff_not]
  rintro ⟨hexponent, hmantissa⟩
  have hfull := h.unpackExponent
  rw [hexponent] at hfull
  refine hmantissa (BitVec.eq_of_toNat_eq ?_)
  rw [h.unpackMantissa, h.mod_eq_zero hfull.symm]
  rfl

/-- The rank of a double that is a number, from its sign and its magnitude. -/
theorem unpackedRank_unpack :
    unpackedRank (UnpackedFloat.unpack Format.binary64 w) =
      if negative then -magnitudeRank b else magnitudeRank b := by
  have full : @UnpackedFloat.unpackExponent Format.binary64 w = -1#_ ↔ b / twoTo 52 = 2047 := by
    rw [← h.unpackExponent, ← BitVec.toNat_inj]
    rfl
  have least : @UnpackedFloat.unpackExponent Format.binary64 w = 0#_ ↔ b / twoTo 52 = 0 := by
    rw [← h.unpackExponent, ← BitVec.toNat_inj]
    rfl
  have blank : @UnpackedFloat.unpackMantissa Format.binary64 w = 0#_ ↔ b % twoTo 52 = 0 := by
    rw [← h.unpackMantissa, ← BitVec.toNat_inj]
    rfl
  have significand : (1#1 ++ @UnpackedFloat.unpackMantissa Format.binary64 w).toNat =
      twoTo 52 + b % twoTo 52 := by
    have hlt : b % twoTo 52 < 2 ^ 52 := Nat.mod_lt _ (twoTo_pos 52)
    rw [BitVec.toNat_append, h.unpackMantissa]
    exact (Nat.two_pow_add_eq_or_of_lt hlt 1).symm
  unfold UnpackedFloat.unpack magnitudeRank
  dsimp only
  simp only [h.unpackSign, full, least, blank, h.unpackExponent, h.unpackMantissa, significand]
  by_cases hfull : b / twoTo 52 = 2047
  · rw [if_pos hfull, if_pos (h.mod_eq_zero hfull), if_pos hfull]
    cases negative <;> rfl
  · rw [if_neg hfull, if_neg hfull]
    by_cases hleast : b / twoTo 52 = 0
    · rw [if_pos hleast, if_pos hleast, hleast]
      by_cases hblank : b % twoTo 52 = 0
      · rw [dif_pos hblank, if_pos hblank]
        cases negative <;> rfl
      · rw [dif_neg hblank, if_neg hblank]
        cases negative <;> rfl
    · rw [if_neg hleast, if_neg hleast]
      cases negative <;> rfl

end Holds

/-- A double that is a number keeps the bits that it was made of. -/
theorem ofMagnitudeBits_holds (negative : Bool) (hb : b ≤ infinityBits) :
    Holds negative b (ofMagnitudeBits negative b).toBits.toBitVec := by
  have hlt : (if negative then b + twoTo 63 else b) < 2 ^ 64 := by
    rw [infinityBits_eq] at hb
    rw [twoTo_63]
    split <;> omega
  have hword := UInt64.toNat_ofNat_of_lt' hlt
  rw [ofMagnitudeBits]
  generalize UInt64.ofNat (if negative then b + twoTo 63 else b) = word at hword
  have holds : Holds negative b word.toBitVec := ⟨hb, hword⟩
  have hpack := @UnpackedFloat.pack_unpack Format.binary64 word.toBitVec (by decide)
  rw [holds.isNaNBits] at hpack
  have hself : (Float.ofBits word).toBits.toBitVec = word.toBitVec := hpack
  rwa [hself]

theorem isNaN_ofMagnitudeBits (negative : Bool) (hb : b ≤ infinityBits) :
    isNaN (ofMagnitudeBits negative b) = false := by
  have holds := ofMagnitudeBits_holds negative hb
  have hexponent : (ofMagnitudeBits negative b).toBits.toNat / twoTo 52 % twoTo 11 =
      b / twoTo 52 := (toNat_unpackExponent _).symm.trans holds.unpackExponent
  have hmantissa : (ofMagnitudeBits negative b).toBits.toNat % twoTo 52 = b % twoTo 52 :=
    (toNat_unpackMantissa _).symm.trans holds.unpackMantissa
  rw [isNaN, parts]
  simp only [hexponent, hmantissa, beq_iff_eq]
  by_cases hfull : b / twoTo 52 = 2047
  · rw [if_pos hfull, if_pos (holds.mod_eq_zero hfull)]
  · rw [if_neg hfull]
    by_cases hleast : b / twoTo 52 = 0
    · rw [if_pos hleast]
    · rw [if_neg hleast]

theorem rank_ofMagnitudeBits (negative : Bool) (hb : b ≤ infinityBits) :
    rank (ofMagnitudeBits negative b) =
      if negative then -magnitudeRank b else magnitudeRank b :=
  (ofMagnitudeBits_holds negative hb).unpackedRank_unpack

/-! ### Integers -/

theorem isNaN_ofInt (i : ℤ) : isNaN (ofInt i) = false :=
  isNaN_ofMagnitudeBits _ (magnitudeBits_le _ _)

/-- A greater integer has no smaller double. -/
theorem rank_ofInt_mono {i j : ℤ} (h : i ≤ j) : rank (ofInt i) ≤ rank (ofInt j) := by
  have rank_le {n m : ℕ} (h : n ≤ m) :
      magnitudeRank (magnitudeBits n 1) ≤ magnitudeRank (magnitudeBits m 1) :=
    magnitudeRank_mono (magnitudeBits_mono Nat.one_pos h) (magnitudeBits_le _ _)
  have nonneg (n : ℕ) : 0 ≤ magnitudeRank (magnitudeBits n 1) :=
    magnitudeRank_mono (Nat.zero_le _) (magnitudeBits_le _ _)
  rw [ofInt, ofInt, ofRatio, ofRatio, rank_ofMagnitudeBits _ (magnitudeBits_le _ _),
    rank_ofMagnitudeBits _ (magnitudeBits_le _ _)]
  by_cases hi : i < 0
  · by_cases hj : j < 0
    · rw [if_pos (decide_eq_true hi), if_pos (decide_eq_true hj)]
      exact neg_le_neg (rank_le (by omega))
    · rw [if_pos (decide_eq_true hi), if_neg (by simpa using hj)]
      exact (neg_nonpos.2 (nonneg _)).trans (nonneg _)
  · rw [if_neg (by simpa using hi), if_neg (by simp; omega)]
    exact rank_le (by omega)

/-- Integers are in the order of their doubles, where these are different. -/
theorem lt_of_ofInt_lt {i j : ℤ} (h : ofInt i < ofInt j) : i < j := by
  by_contra hle
  rw [lt_iff_rank_lt (isNaN_ofInt i) (isNaN_ofInt j)] at h
  exact absurd h (not_lt.2 (rank_ofInt_mono (not_lt.1 hle)))

end Magnitudes

end Binary64

end TableFilter
