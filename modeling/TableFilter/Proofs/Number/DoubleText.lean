import Mathlib
import TableFilter.Literal
import TableFilter.Proofs.Number.Shortest

/-!
# Doubles read back

The digits of a finite double are read as this double, sign included. A double is given by its
parts, so it is enough that rounding finds the significand and the exponent again.

## Main results

* `Binary64.eq_of_parts`: a finite double is what its parts make
* `doubleOfText?_exponentText`: the digits of a finite double are read as it
* `exists_doubleLiteral`: the literal of a finite double is one token after its sign
-/

namespace TableFilter

open TableFilter.Number TableFilter.Text

namespace Binary64

/-! ### Doubles from their parts -/

variable {x : Float} {negative : Bool} {m : ℕ} {e : ℤ}

theorem eq_ofMagnitudeBits {bits : ℕ}
    (h : x.toBits.toNat = if negative then bits + twoTo 63 else bits) :
    x = ofMagnitudeBits negative bits := by
  rw [ofMagnitudeBits, ← h, UInt64.ofNat_toNat, Float.ofBits_toBits]

/-- The parts of a finite double, and the double that they make. -/
theorem eq_of_parts (h : parts x = .finite negative m e) :
    Canonical m e ∧ x = ofMagnitudeBits negative ((e + 1074).toNat * twoTo 52 + m) := by
  have hbits : x.toBits.toNat < 2 ^ 64 := x.toBits.toNat_lt
  have h52 : twoTo 52 = 4503599627370496 := rfl
  have h53 : twoTo 53 = 9007199254740992 := rfl
  have h63 : twoTo 63 = 9223372036854775808 := rfl
  have h11 : twoTo 11 = 2048 := rfl
  unfold parts at h
  dsimp only at h
  rw [h52, h63, h11] at h
  split at h
  · split at h <;> cases h
  · next hfinite =>
    rw [beq_iff_eq] at hfinite
    split at h
    · next hzero =>
      rw [beq_iff_eq] at hzero
      cases h
      refine ⟨⟨le_refl _, by decide, by omega, .inr rfl⟩, eq_ofMagnitudeBits ?_⟩
      rw [h52, h63]
      split <;> simp_all <;> omega
    · next hpositive =>
      rw [beq_iff_eq] at hpositive
      cases h
      refine ⟨⟨by omega, by omega, by omega, .inl (by omega)⟩, eq_ofMagnitudeBits ?_⟩
      rw [h52, h63]
      split <;> simp_all <;> omega

/-! ### The size of what reads as a double -/

variable {q : ℚ}

theorem ReadsAs.pos (hq : ReadsAs m e q) (hm : 0 < m) : 0 < q := by
  have hone : (1 : ℚ) ≤ m := by exact_mod_cast hm
  have hlow : 0 < q / 2 ^ e := by linarith [hq.low, gapBelow_le m e]
  exact (div_pos_iff_of_pos_right (two_zpow_pos e)).1 hlow

theorem two_pow_lt_ten_pow : (2 : ℕ) ^ 1075 < 10 ^ 400 := by decide +kernel

theorem two_zpow_lt_ten_zpow : (2 : ℚ) ^ (1075 : ℤ) < 10 ^ (400 : ℤ) := by
  exact_mod_cast two_pow_lt_ten_pow

theorem ReadsAs.lt_ten_zpow (hq : ReadsAs m e q) (h : Canonical m e) : q < 10 ^ (400 : ℤ) := by
  have hhigh := hq.high
  rw [div_le_iff₀ (two_zpow_pos e)] at hhigh
  calc q ≤ (m + 1 / 2) * 2 ^ e := hhigh
    _ ≤ 2 ^ (53 : ℤ) * 2 ^ (971 : ℤ) := by
      refine mul_le_mul ?_ ?_ (two_zpow_pos e).le (by norm_num)
      · rw [zpow_ofNat]
        linarith [h.cast_lt]
      · exact zpow_le_zpow_right₀ (by norm_num) h.le_greatest
    _ = 2 ^ (1024 : ℤ) := (zpow_add₀ two_ne_zero _ _).symm
    _ ≤ 2 ^ (1075 : ℤ) := zpow_le_zpow_right₀ (by norm_num) (by norm_num)
    _ < 10 ^ (400 : ℤ) := two_zpow_lt_ten_zpow

theorem ReadsAs.ten_zpow_lt (hq : ReadsAs m e q) (h : Canonical m e) (hm : 0 < m) :
    (10 : ℚ) ^ (-400 : ℤ) < q := by
  have hone : (1 : ℚ) ≤ m := by exact_mod_cast hm
  have hlow : 1 / 2 ≤ q / 2 ^ e := by linarith [hq.low, gapBelow_le m e]
  rw [le_div_iff₀ (two_zpow_pos e)] at hlow
  calc (10 : ℚ) ^ (-400 : ℤ) < 2 ^ (-1075 : ℤ) := by
        rw [zpow_neg, zpow_neg]
        exact inv_strictAnti₀ (two_zpow_pos _) two_zpow_lt_ten_zpow
    _ = 1 / 2 * 2 ^ (-1074 : ℤ) := by
        rw [show (-1075 : ℤ) = -1074 - 1 by norm_num, zpow_sub_one₀ two_ne_zero]
        ring
    _ ≤ 1 / 2 * 2 ^ e :=
      mul_le_mul_of_nonneg_left (zpow_le_zpow_right₀ (by norm_num) h.least_le) (by norm_num)
    _ ≤ q := hlow

end Binary64

/-! ### Reading digits and an exponent -/

open Binary64

section Reading

variable {x : Float} {negative : Bool} {m : ℕ} {e : ℤ}

/-- The digits of a natural give the power of ten above it. -/
theorem natText_bounds {p : ℕ} (hp : 0 < p) :
    (10 : ℚ) ^ (((natText p).length : ℤ) - 1) ≤ p ∧ (p : ℚ) < 10 ^ ((natText p).length : ℤ) := by
  obtain ⟨k, hk⟩ : ∃ k, (natText p).length = k + 1 :=
    ⟨_, (Nat.succ_pred_eq_of_pos (List.length_pos_iff.2 (isDigits_natText _).1)).symm⟩
  have hlow : tenTo k ≤ p := by
    rcases Nat.eq_zero_or_pos k with rfl | hpos
    · exact hp
    · exact Nat.not_lt.1 fun hlt => by have := (length_natText_le hpos).2 hlt; omega
  have hhigh : p < tenTo (k + 1) := (length_natText_le (Nat.succ_pos k)).1 hk.le
  rw [hk, Nat.cast_succ, add_sub_cancel_right, zpow_natCast, ← Nat.cast_succ, zpow_natCast,
    ← tenTo_cast, ← tenTo_cast]
  exact ⟨by exact_mod_cast hlow, by exact_mod_cast hhigh⟩

/-- Digits and an exponent that read as a double give it. -/
theorem doubleOfDecimals_eq (h : Canonical m e) (hm : 0 < m) {p : ℕ} {k : ℤ}
    (hq : ReadsAs m e (p * 10 ^ k)) (negative : Bool) :
    doubleOfDecimals negative p k =
      ofMagnitudeBits negative ((e + 1074).toNat * twoTo 52 + m) := by
  have hpositive := hq.pos hm
  have hp : 0 < p := by
    have hcast : (0 : ℚ) < p := (pos_iff_pos_of_mul_pos hpositive).2 (ten_zpow_pos k)
    exact_mod_cast hcast
  obtain ⟨hlow, hhigh⟩ := natText_bounds hp
  have hten := ten_zpow_pos k
  have hsmall : ¬ 400 < ((natText p).length : ℤ) + k := fun hlt => by
    have := hq.lt_ten_zpow h
    have hpower : (10 : ℚ) ^ (400 : ℤ) ≤ p * 10 ^ k :=
      calc (10 : ℚ) ^ (400 : ℤ) ≤ 10 ^ (((natText p).length : ℤ) - 1 + k) :=
            zpow_le_zpow_right₀ (by norm_num) (by omega)
        _ = 10 ^ (((natText p).length : ℤ) - 1) * 10 ^ k := zpow_add₀ (by norm_num) _ _
        _ ≤ p * 10 ^ k := mul_le_mul_of_nonneg_right hlow hten.le
    linarith
  have hlarge : ¬ ((natText p).length : ℤ) + k < -400 := fun hlt => by
    have := hq.ten_zpow_lt h hm
    have hpower : p * 10 ^ k ≤ (10 : ℚ) ^ (-400 : ℤ) :=
      calc p * (10 : ℚ) ^ k ≤ 10 ^ ((natText p).length : ℤ) * 10 ^ k :=
            mul_le_mul_of_nonneg_right hhigh.le hten.le
        _ = 10 ^ (((natText p).length : ℤ) + k) := (zpow_add₀ (by norm_num) _ _).symm
        _ ≤ 10 ^ (-400 : ℤ) := zpow_le_zpow_right₀ (by norm_num) hlt.le
    linarith
  unfold doubleOfDecimals
  rw [if_neg (by simpa using hp.ne')]
  dsimp only
  rw [if_neg hsmall, if_neg hlarge]
  split
  · next hk =>
    obtain ⟨j, rfl⟩ := Int.eq_ofNat_of_zero_le hk
    rw [ofRatio, magnitudeBits_eq (Nat.mul_pos hp (tenTo_pos _)) Nat.one_pos h]
    rw [Int.toNat_natCast, Nat.cast_mul, tenTo_cast, Nat.cast_one, div_one]
    exact_mod_cast hq
  · next hk =>
    obtain ⟨j, rfl⟩ : ∃ j : ℕ, k = -j := ⟨(-k).toNat, by omega⟩
    rw [ofRatio, magnitudeBits_eq hp (tenTo_pos _) h]
    rwa [neg_neg, Int.toNat_natCast, tenTo_cast, div_eq_mul_inv, ← zpow_natCast, ← zpow_neg]

/-! ### Digits with an exponent -/

/-- The fraction of the digits of a double: all but the first of them, after a point. -/
def fractionOf (digits : List Char) : List Char :=
  if digits.isEmpty then [] else '.' :: digits

theorem pointAfterFirst_cons (d : Char) (digits : List Char) :
    pointAfterFirst (d :: digits) = d :: fractionOf digits := by
  cases digits <;> rfl

theorem isFraction_fractionOf {digits : List Char} (h : ∀ c ∈ digits, isDigit c = true) :
    IsFraction (fractionOf digits) := by
  cases digits with
  | nil => exact .none
  | cons d ds => exact .places ⟨List.cons_ne_nil _ _, h⟩

/-- An exponent is read as it is written. -/
theorem exponentOfText?_intText (k : ℤ) : exponentOfText? ('e' :: intText k) = some k := by
  have hdigits := isDigits_natText k.natAbs
  obtain ⟨c, hhead, hc⟩ := hdigits.exists_head
  rw [intText_eq, exponentOfText?, if_pos (by decide), takeSign_signed _ hhead (.inl hc)]
  dsimp only
  rw [hdigits.isEmpty, hdigits.all, natOfDigits_natText]
  simp only [Bool.not_true, Bool.or_self, Bool.false_eq_true, if_false, decide_eq_true_eq,
    Option.some.injEq]
  split <;> omega

theorem isExponent_intText (k : ℤ) : IsExponent ('e' :: intText k) := by
  rw [intText_eq]
  exact .power _ (isDigits_natText _)

/-- A digit, a fraction and an exponent are read as the number that they stand for. -/
theorem decimalsOfText?_digits (negative : Bool) {d : Char} {digits : List Char}
    (hdigits : ∀ c ∈ d :: digits, isDigit c = true) (k : ℤ) :
    decimalsOfText? negative (d :: fractionOf digits ++ 'e' :: intText k) =
      some (doubleOfDecimals negative (natOfDigits (d :: digits)) (k - digits.length)) := by
  have hd : isDigit d = true := hdigits d (.head _)
  have hmark : ∀ c, ('e' :: intText k).head? = some c → isDigit c = false := by
    rintro _ ⟨⟩
    decide
  have hstop : ∀ c, (fractionOf digits ++ 'e' :: intText k).head? = some c → isDigit c = false := by
    intro c hc
    cases digits with
    | nil => exact hmark c hc
    | cons => cases hc; decide
  have hone : ∀ c ∈ [d], isDigit c = true := fun c hc => List.mem_singleton.1 hc ▸ hd
  have htake := takeWhile_append_stop hone hstop
  have hdrop := dropWhile_append_stop hone hstop
  rw [List.singleton_append] at htake hdrop
  rw [decimalsOfText?, List.cons_append, htake, hdrop]
  dsimp only
  cases digits with
  | nil =>
    change (exponentOfText? ('e' :: intText k)).map _ = _
    rw [exponentOfText?_intText]
    rfl
  | cons f fs =>
    have hplaces : ∀ c ∈ f :: fs, isDigit c = true := fun c hc => hdigits c (.tail _ hc)
    change (if _ then none else
      (exponentOfText? ((f :: fs ++ 'e' :: intText k).dropWhile isDigit)).map fun exponent =>
        doubleOfDecimals negative
          (natOfDigits ([d] ++ (f :: fs ++ 'e' :: intText k).takeWhile isDigit))
          (exponent - ((f :: fs ++ 'e' :: intText k).takeWhile isDigit).length)) = _
    rw [takeWhile_append_stop hplaces hmark, dropWhile_append_stop hplaces hmark,
      exponentOfText?_intText]
    rfl

/-- A text that starts with a digit is not the word for a double without digits. -/
theorem doubleOfText?_signed (negative : Bool) {c : Char} {cs : List Char}
    (hc : isDigit c = true) :
    doubleOfText? (signed negative (c :: cs)) = decimalsOfText? negative (c :: cs) := by
  have hword : ∀ word : String, (∀ d, word.toList.head? = some d → isDigit d = false) →
      (String.ofList (asciiLower (c :: cs)) == word) = false := by
    intro word hhead
    refine beq_eq_false_iff_ne.2 fun heq => ?_
    have hlower : asciiLowerChar c = c := by
      rw [asciiLowerChar, if_neg]
      simp only [isDigit, Bool.and_eq_true, decide_eq_true_eq] at hc ⊢
      omega
    have := hhead c (by rw [← heq, String.toList_ofList, asciiLower, List.map_cons, hlower]; rfl)
    exact Bool.false_ne_true (this.symm.trans hc)
  rw [doubleOfText?, takeSign_signed negative rfl (.inl hc)]
  dsimp only
  rw [hword "inf" (by rintro _ ⟨⟩; rfl), hword "infinity" (by rintro _ ⟨⟩; rfl),
    hword "nan" (by rintro _ ⟨⟩; rfl)]
  rfl

/-! ### Finite doubles -/

/-- The digits of a finite double with its sign, and what they are read as. -/
theorem exponentText_finite (h : parts x = .finite negative m e) : ∃ d digits k,
    exponentText x = signed negative (d :: fractionOf digits ++ 'e' :: intText k) ∧
      (∀ c ∈ d :: digits, isDigit c = true) ∧
      doubleOfDecimals negative (natOfDigits (d :: digits)) (k - digits.length) = x := by
  obtain ⟨hcanonical, hx⟩ := eq_of_parts h
  rw [exponentText, h]
  dsimp only
  split
  · next hm =>
    obtain rfl := beq_iff_eq.1 hm
    refine ⟨'0', [], 0, rfl, List.forall_mem_singleton.2 rfl, ?_⟩
    have he : e = -1074 := hcanonical.full.resolve_left (by decide)
    rw [hx, he]
    rfl
  · next hm =>
    have hpos : 0 < m := Nat.pos_of_ne_zero fun heq => hm (beq_iff_eq.2 heq)
    have hdigits := isDigits_natText (shortest m e).digits
    obtain ⟨d, digits, htext⟩ := List.exists_cons_of_ne_nil hdigits.1
    refine ⟨d, digits, _, by rw [htext, pointAfterFirst_cons], htext ▸ hdigits.2, ?_⟩
    rw [← htext, natOfDigits_natText, htext, List.length_cons, Nat.cast_succ, add_sub_cancel_right,
      add_sub_cancel_right, hx]
    exact doubleOfDecimals_eq hcanonical hpos (shortest_readsAs hcanonical hpos) negative

/-- The digits of a finite double with its sign are read as it. -/
theorem doubleOfText?_exponentText (h : parts x = .finite negative m e) :
    doubleOfText? (exponentText x) = some x := by
  obtain ⟨d, digits, k, htext, hdigits, hx⟩ := exponentText_finite h
  rw [htext, List.cons_append, doubleOfText?_signed negative (hdigits d (.head _)),
    ← List.cons_append, decimalsOfText?_digits negative hdigits, hx]

/-- The digits of a finite double are one token, and with its sign the literal is the double. -/
theorem exists_doubleLiteral (h : parts x = .finite negative m e) : ∃ c cs,
    exponentText x = signed negative (c :: cs) ∧ c ≠ '-' ∧
      realLiteral (String.ofList (c :: cs)) negative = .double x ∧
      ∀ {rest : List Char}, Separated rest →
        Spells (c :: cs) (.real (String.ofList (c :: cs))) rest := by
  obtain ⟨d, digits, k, htext, hdigits, -⟩ := exponentText_finite h
  have hd : IsDigits [d] :=
    ⟨List.cons_ne_nil _ _, List.forall_mem_singleton.2 (hdigits d (.head _))⟩
  have hfraction : IsFraction (fractionOf digits) :=
    isFraction_fractionOf fun c hc => hdigits c (.tail _ hc)
  rw [List.cons_append] at htext
  refine ⟨d, _, htext, hd.ne_of_head rfl (by decide), ?_, fun hrest => ?_⟩
  · have hmark : (exponentText x).any marksExponent = true :=
      List.any_eq_true.2 ⟨'e', by rw [htext]; cases negative <;> simp [signed], by decide⟩
    rw [realLiteral, toList_signedText, String.toList_ofList, ← htext, hmark, if_pos rfl,
      doubleOfText?_exponentText h]
    rfl
  · have hspells := spells_number hd hfraction (isExponent_intText k) (fun _ _ => rfl) hrest
    rwa [numberToken, if_neg (by simp)] at hspells

end Reading

end TableFilter
