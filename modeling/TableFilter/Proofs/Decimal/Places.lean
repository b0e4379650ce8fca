import Mathlib.Tactic.FieldSimp
import Mathlib.Tactic.Linarith
import TableFilter.Proofs.Decimal.Text
import TableFilter.Proofs.Value.Order

/-!
# Decimals shown with a fixed number of places

A decimal shown with at least the places that it needs is read as its number. The zeros that fill
the places up can make more digits than a coefficient has room for. Reading then keeps the places
that have room, and as only zeros are left out the number stays.

## Main results

* `Decimal.exists_readDigits_zeros`: zeros at the end of the places keep the number
* `Decimal.exists_ofText?_textWithPlaces`: a decimal shown with enough places reads back
-/

namespace TableFilter

open TableFilter.Number TableFilter.Text

/-! ### Digits -/

section Digits

variable {digits : List Char}

theorem digitValue_le {c : Char} (h : isDigit c = true) : digitValue c ≤ 9 := by
  rw [isDigit, Bool.and_eq_true, decide_eq_true_eq, decide_eq_true_eq] at h
  unfold digitValue
  omega

theorem natOfDigits_lt (h : ∀ c ∈ digits, isDigit c = true) :
    natOfDigits digits < tenTo digits.length := by
  induction digits with
  | nil => decide
  | cons c cs ih =>
    have hcs := ih fun d hd => h d (.tail _ hd)
    have hc := Nat.mul_le_mul_right (tenTo cs.length) (digitValue_le (h c (.head _)))
    rw [Decimal.natOfDigits_cons, List.length_cons, tenTo_succ]
    omega

/-- The digit of value zero. -/
theorem eq_zero_of_digitValue {c : Char} (h : isDigit c = true) (hzero : digitValue c = 0) :
    c = '0' := by
  rw [isDigit, Bool.and_eq_true, decide_eq_true_eq, decide_eq_true_eq] at h
  unfold digitValue at hzero
  exact Char.toNat_inj.1 (show c.toNat = 48 by omega)

theorem eq_replicate_of_natOfDigits (h : ∀ c ∈ digits, isDigit c = true)
    (hzero : natOfDigits digits = 0) : digits = List.replicate digits.length '0' := by
  induction digits with
  | nil => rfl
  | cons c cs ih =>
    rw [Decimal.natOfDigits_cons, Nat.add_eq_zero_iff, Nat.mul_eq_zero] at hzero
    have hc : digitValue c = 0 := hzero.1.resolve_right (tenTo_pos _).ne'
    rw [List.length_cons, List.replicate_succ, eq_zero_of_digitValue (h c (.head _)) hc,
      ← ih (fun d hd => h d (.tail _ hd)) hzero.2]

end Digits

namespace Decimal

/-! ### Reading places -/

/-- The number that signed digits with some places stand for. -/
def numberOf (negative : Bool) (n scale : ℕ) : ℚ := (if negative then -(n : ℚ) else n) / 10 ^ scale

theorem number_eq (d : Decimal) : d.number = numberOf d.negative d.coefficient d.scale := by
  rw [number, numberOf, signedCoefficient]
  split <;> push_cast <;> rfl

theorem numberOf_tenfold (negative : Bool) (n scale k : ℕ) :
    numberOf negative (n * tenTo k) (scale + k) = numberOf negative n scale := by
  have hten : (10 : ℚ) ^ k ≠ 0 := by positivity
  unfold numberOf
  rw [Nat.cast_mul, tenTo_eq_pow, pow_add]
  split
  · rw [← neg_mul, mul_div_mul_right _ _ hten]
  · rw [mul_div_mul_right _ _ hten]

/-- A decimal made of parts within the bounds. -/
theorem exists_ofParts? (negative : Bool) {n scale : ℕ} (hn : n < coefficientBound)
    (hscale : scale ≤ 28) :
    ∃ e, ofParts? negative n scale = some e ∧ e.number = numberOf negative n scale := by
  rw [ofParts?, ofSignedParts?, dif_pos ⟨hn, hscale⟩]
  refine ⟨_, rfl, ?_⟩
  rw [number_eq]
  unfold numberOf
  by_cases hzero : n = 0 <;> simp [hzero]

/-- Digits after the point are places, as far as there is room. -/
theorem readDigits_fraction {rest : List Char} : ∀ {digits : List Char} {r : Reading},
    (∀ c ∈ digits, isDigit c = true) → r.pointed = true → r.started = true →
    r.scale + digits.length < 28 →
    r.coefficient * tenTo digits.length + natOfDigits digits < coefficientBound →
    readDigits r (digits ++ rest) =
      readDigits
        { r with
          coefficient := r.coefficient * tenTo digits.length + natOfDigits digits
          scale := r.scale + digits.length } rest := by
  intro digits
  induction digits with
  | nil =>
    intro r _ _ _ _ _
    simp [natOfDigits]
  | cons c cs ih =>
    intro r hdigits hpointed hstarted hscale hbound
    obtain ⟨negative, started, pointed, coefficient, scale⟩ := r
    obtain rfl : pointed = true := hpointed
    obtain rfl : started = true := hstarted
    dsimp only at hbound hscale ⊢
    rw [List.length_cons] at hscale
    rw [coefficient_step] at hbound ⊢
    have hc : ¬ coefficientBound ≤ coefficient * 10 + digitValue c :=
      Nat.not_le.2 (Nat.lt_of_le_of_lt (le_coefficient _ cs) hbound)
    have hroom : ¬ 28 ≤ scale + 1 := by omega
    rw [List.cons_append, readDigits, if_pos (hdigits c (.head _))]
    dsimp only
    rw [if_neg hc, if_pos rfl, decide_eq_false hroom]
    change readDigits ⟨negative, true, true, coefficient * 10 + digitValue c, scale + 1⟩ _ = _
    rw [ih (fun d hd => hdigits d (.tail _ hd)) rfl rfl (by dsimp only; omega) hbound]
    dsimp only
    rw [List.length_cons, Nat.add_right_comm, Nat.add_assoc]

/-- What is left to read when there is no more room does not count if it is made of zeros. -/
theorem Reading.rounded?_zeros (r : Reading) (k : ℕ) :
    r.rounded? (List.replicate k '0') = r.done? := by
  have hkept : (List.replicate k '0').filter (fun c => c != '_') = List.replicate k '0' :=
    List.filter_replicate_of_pos rfl
  have hdigits : (List.replicate k '0').all isDigit = true := by simp [isDigit]
  rw [rounded?, hkept, hdigits]
  cases k <;> rfl

/-- Zeros at the end of the places keep the number, with room for them or without. -/
theorem exists_readDigits_zeros : ∀ {k : ℕ} {r : Reading}, r.pointed = true → r.started = true →
    r.coefficient < coefficientBound → r.scale + k ≤ 28 →
    ∃ e, readDigits r (List.replicate k '0') = some e ∧
      e.number = numberOf r.negative r.coefficient r.scale := by
  intro k
  induction k with
  | zero =>
    intro r _ hstarted hbound hscale
    rw [List.replicate_zero, readDigits, Reading.done?, hstarted]
    exact exists_ofParts? _ hbound hscale
  | succ k ih =>
    intro r hpointed hstarted hbound hscale
    obtain ⟨negative, started, pointed, coefficient, scale⟩ := r
    obtain rfl : pointed = true := hpointed
    obtain rfl : started = true := hstarted
    dsimp only at hbound hscale ⊢
    have hnumber : numberOf negative (coefficient * 10) (scale + 1) =
        numberOf negative coefficient scale := numberOf_tenfold negative coefficient scale 1
    rw [List.replicate_succ, readDigits, if_pos (by decide)]
    dsimp only
    rw [show digitValue '0' = 0 from rfl, Nat.add_zero]
    split
    · -- The coefficient is full.
      rw [if_pos rfl, ← List.replicate_succ, Reading.rounded?_zeros]
      exact exists_ofParts? _ hbound (show scale ≤ 28 by omega)
    · next hfits =>
      rw [if_pos rfl]
      split
      · rw [Reading.rounded?_zeros, ← hnumber]
        exact exists_ofParts? _ (Nat.lt_of_not_le hfits) (show scale + 1 ≤ 28 by omega)
      · rw [← hnumber]
        exact ih rfl rfl (Nat.lt_of_not_le hfits) (by dsimp only; omega)

/-- A natural whose last digits are zeros, with a point, is read as the number without them. -/
theorem exists_readDigits_pointAt (negative : Bool) {n scale places : ℕ}
    (hn : n < coefficientBound) (hscale : scale ≤ places) (hpos : places ≠ 0)
    (hplaces : places < 28) :
    ∃ e, readDigits ⟨negative, false, false, 0, 0⟩
        (pointAt places (n * tenTo (places - scale))) = some e ∧
      e.number = numberOf negative n scale := by
  obtain ⟨whole, fraction, htext, hwhole, hfraction, hlength, hvalue⟩ :=
    pointAt_eq hpos (n * tenTo (places - scale))
  have hkept : ∀ c ∈ fraction.take scale, isDigit c = true := fun c hc =>
    hfraction.2 c (List.mem_of_mem_take hc)
  have hrest : ∀ c ∈ fraction.drop scale, isDigit c = true := fun c hc =>
    hfraction.2 c (List.mem_of_mem_drop hc)
  have hkeptLength : (fraction.take scale).length = scale := by
    rw [List.length_take, hlength, min_eq_left hscale]
  have hrestLength : (fraction.drop scale).length = places - scale := by
    rw [List.length_drop, hlength]
  -- The digits beyond the places that count are worth less than the last of these.
  have hsplit : natOfDigits (whole ++ fraction.take scale) * tenTo (places - scale) +
      natOfDigits (fraction.drop scale) = n * tenTo (places - scale) := by
    rw [← hrestLength, ← natOfDigits_append, List.append_assoc, List.take_append_drop, hrestLength,
      hvalue]
  have hsmall := natOfDigits_lt hrest
  rw [hrestLength] at hsmall
  have hzero : natOfDigits (fraction.drop scale) = 0 := by
    have hmod := congrArg (· % tenTo (places - scale)) hsplit
    simpa [Nat.mul_add_mod_of_lt hsmall, Nat.mod_eq_of_lt hsmall] using hmod
  have hcoefficient : natOfDigits (whole ++ fraction.take scale) = n := by
    rw [hzero, Nat.add_zero] at hsplit
    exact Nat.eq_of_mul_eq_mul_right (tenTo_pos _) hsplit
  have hbound : natOfDigits whole * tenTo (fraction.take scale).length +
      natOfDigits (fraction.take scale) = n := by rw [← natOfDigits_append, hcoefficient]
  have hwholeBound : natOfDigits whole < coefficientBound :=
    (le_coefficient _ _).trans_lt (hbound.trans_lt hn)
  rw [htext, readDigits_start _ hwhole hwholeBound, readDigits_point rfl,
    ← List.take_append_drop scale fraction,
    readDigits_fraction hkept rfl rfl (by dsimp only; omega) (hbound.trans_lt hn),
    eq_replicate_of_natOfDigits hrest hzero, hrestLength]
  dsimp only
  rw [hbound, hkeptLength, Nat.zero_add]
  exact exists_readDigits_zeros rfl rfl hn (by dsimp only; omega)

/-! ### The shown text -/

/-- A decimal that needs no more than some places has zeros only beyond them. -/
theorem tenTo_dvd_coefficient {d : Decimal} {places : ℕ} (hplaces : places ≤ d.scale)
    (h : ∃ i : ℤ, d.number * 10 ^ places = i) : tenTo (d.scale - places) ∣ d.coefficient := by
  obtain ⟨i, hi⟩ := h
  have hsigned : d.signedCoefficient = i * 10 ^ (d.scale - places) := by
    have hscale : (10 : ℚ) ^ d.scale ≠ 0 := by positivity
    have hnumber : d.number * 10 ^ d.scale = d.signedCoefficient := div_mul_cancel₀ _ hscale
    rw [← Nat.add_sub_of_le hplaces, pow_add, ← mul_assoc, hi] at hnumber
    exact_mod_cast hnumber.symm
  have habs : d.coefficient = d.signedCoefficient.natAbs := by
    unfold signedCoefficient
    split <;> simp
  rw [habs, hsigned, Int.natAbs_mul, Int.natAbs_pow]
  exact Dvd.intro_left _ rfl

/-- The digits that a decimal is shown with are those of a coefficient, and zeros. -/
theorem exists_textWithPlaces_eq {d : Decimal} {places : ℕ}
    (h : ∃ i : ℤ, d.number * 10 ^ places = i) :
    ∃ n scale, d.textWithPlaces places =
        signed d.negative (pointAt places (n * tenTo (places - scale))) ∧
      n < coefficientBound ∧ scale ≤ places ∧ numberOf d.negative n scale = d.number := by
  rcases le_or_gt places d.scale with hplaces | hplaces
  · have hdvd := tenTo_dvd_coefficient hplaces h
    have hcut := Nat.div_mul_cancel hdvd
    refine ⟨d.coefficient / tenTo (d.scale - places), places, ?_,
      (Nat.div_le_self _ _).trans_lt d.coefficient_lt, le_rfl, ?_⟩
    · rw [textWithPlaces, if_pos hplaces, Nat.sub_self, tenTo_zero, Nat.mul_one]
      rfl
    · rw [number_eq, ← numberOf_tenfold _ _ _ (d.scale - places), hcut,
        Nat.add_sub_of_le hplaces]
  · refine ⟨d.coefficient, d.scale, ?_, d.coefficient_lt, hplaces.le, (number_eq d).symm⟩
    rw [textWithPlaces, if_neg hplaces.not_ge]
    rfl

/-- A decimal shown with the places that it needs, or more, reads back as its number. -/
theorem exists_ofText?_textWithPlaces {d : Decimal} {places : ℕ} (hpos : places ≠ 0)
    (hplaces : places < 28) (h : ∃ i : ℤ, d.number * 10 ^ places = i) :
    ∃ e, ofText? (d.textWithPlaces places) = some e ∧ e.number = d.number := by
  obtain ⟨n, scale, htext, hn, hscale, hnumber⟩ := exists_textWithPlaces_eq h
  obtain ⟨e, hread, henumber⟩ := exists_readDigits_pointAt d.negative hn hscale hpos hplaces
  obtain ⟨whole, fraction, hpoint, hwhole, hfraction, -⟩ :=
    pointAt_eq hpos (n * tenTo (places - scale))
  refine ⟨e, ?_, henumber.trans hnumber⟩
  rw [htext, hpoint, ofText?_plain (isExponentMark_of_mem hwhole hfraction),
    ofPlainText?_signed _ hwhole, ← hpoint, hread]

/-- The characters of a decimal shown with places. -/
theorem mem_textWithPlaces {d : Decimal} {places : ℕ} (hpos : places ≠ 0) {c : Char}
    (h : c ∈ d.textWithPlaces places) : isDigit c = true ∨ c = '-' ∨ c = '.' := by
  obtain ⟨n, htext⟩ : ∃ n, d.textWithPlaces places = signed d.negative (pointAt places n) :=
    ⟨_, rfl⟩
  obtain ⟨whole, fraction, hpoint, hwhole, hfraction, -⟩ := pointAt_eq hpos n
  rw [htext, hpoint] at h
  exact mem_signed_parts hwhole hfraction h

end Decimal

end TableFilter
