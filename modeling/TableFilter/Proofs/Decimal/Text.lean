import Mathlib.Data.List.TakeWhile
import Mathlib.Tactic.Ring
import TableFilter.Proofs.Number.Digits

/-!
# Decimals read back

A decimal reads back from its literal up to two things. A zero loses its sign. A decimal with no
places is written with one and so gets that place, unless its coefficient is too large for it.

## Main definitions

* `Decimal.reread`: the decimal that a literal reads back as

## Main results

* `Decimal.ofText?_literal`: what the literal of a decimal is read as
* `Decimal.lexes_literal`: the tokens of the literal
-/

namespace TableFilter.Decimal

open TableFilter.Number TableFilter.Text

/-! ### Reading digits -/

section Reading

variable {digits rest : List Char} {r : Reading}

theorem natOfDigits_cons (c : Char) (cs : List Char) :
    natOfDigits (c :: cs) = digitValue c * tenTo cs.length + natOfDigits cs := by
  have h := natOfDigits_append [c] cs
  rwa [show natOfDigits [c] = digitValue c by simp [natOfDigits]] at h

theorem coefficient_step (n : Nat) (c : Char) (cs : List Char) :
    n * tenTo (c :: cs).length + natOfDigits (c :: cs) =
      (n * 10 + digitValue c) * tenTo cs.length + natOfDigits cs := by
  rw [natOfDigits_cons, List.length_cons, tenTo_succ]
  ring

theorem le_coefficient (n : Nat) (cs : List Char) : n ≤ n * tenTo cs.length + natOfDigits cs :=
  Nat.le_add_right_of_le (Nat.le_mul_of_pos_right n (tenTo_pos _))

/-- Digits before the point go into the coefficient. -/
theorem readDigits_whole : ∀ {digits : List Char} {r : Reading}, (∀ c ∈ digits, isDigit c = true) →
    r.pointed = false → r.scale = 0 → (digits = [] → r.started = true) →
    r.coefficient * tenTo digits.length + natOfDigits digits < coefficientBound →
    readDigits r (digits ++ rest) =
      readDigits
        { r with
          started := true
          coefficient := r.coefficient * tenTo digits.length + natOfDigits digits } rest := by
  intro digits
  induction digits with
  | nil =>
    intro r _ _ _ hstarted _
    obtain ⟨negative, started, pointed, coefficient, scale⟩ := r
    obtain rfl : started = true := hstarted rfl
    simp [natOfDigits]
  | cons c cs ih =>
    intro r hdigits hpointed hscale _ hbound
    obtain ⟨negative, started, pointed, coefficient, scale⟩ := r
    obtain rfl : pointed = false := hpointed
    obtain rfl : scale = 0 := hscale
    dsimp only at hbound ⊢
    rw [coefficient_step] at hbound ⊢
    have hc : ¬ coefficientBound ≤ coefficient * 10 + digitValue c :=
      Nat.not_le.2 (Nat.lt_of_le_of_lt (le_coefficient _ cs) hbound)
    rw [List.cons_append, readDigits, if_pos (hdigits c (.head _))]
    dsimp only
    rw [if_neg hc]
    exact ih (fun d hd => hdigits d (.tail _ hd)) rfl rfl (fun _ => rfl) hbound

/-- Digits after the point are places. -/
theorem readDigits_places : ∀ {digits : List Char} {r : Reading},
    (∀ c ∈ digits, isDigit c = true) → r.pointed = true → r.started = true →
    r.scale + digits.length ≤ 28 →
    r.coefficient * tenTo digits.length + natOfDigits digits < coefficientBound →
    readDigits r digits =
      ofParts? r.negative (r.coefficient * tenTo digits.length + natOfDigits digits)
        (r.scale + digits.length) := by
  intro digits
  induction digits with
  | nil =>
    intro r _ _ hstarted _ _
    rw [readDigits, Reading.done?, hstarted]
    simp [natOfDigits]
  | cons c cs ih =>
    intro r hdigits hpointed hstarted hscale hbound
    obtain ⟨negative, started, pointed, coefficient, scale⟩ := r
    obtain rfl : pointed = true := hpointed
    obtain rfl : started = true := hstarted
    dsimp only at hbound hscale ⊢
    rw [coefficient_step] at hbound ⊢
    rw [List.length_cons] at hscale ⊢
    have hc : ¬ coefficientBound ≤ coefficient * 10 + digitValue c :=
      Nat.not_le.2 (Nat.lt_of_le_of_lt (le_coefficient _ cs) hbound)
    rw [readDigits, if_pos (hdigits c (.head _))]
    dsimp only
    rw [if_neg hc, if_pos rfl]
    split
    · next hfull =>
      -- The last place may be the twenty-eighth.
      have hlast : 28 ≤ scale + 1 := by simpa using hfull
      obtain rfl : cs = [] := List.length_eq_zero_iff.1 (by omega)
      simp [Reading.rounded?, Reading.done?, natOfDigits]
    · rw [ih (fun d hd => hdigits d (.tail _ hd)) rfl rfl (by dsimp only; omega) hbound]
      congr 1
      dsimp only
      omega

theorem readDigits_start (negative : Bool) (hdigits : IsDigits digits)
    (hbound : natOfDigits digits < coefficientBound) :
    readDigits ⟨negative, false, false, 0, 0⟩ (digits ++ rest) =
      readDigits ⟨negative, true, false, natOfDigits digits, 0⟩ rest := by
  rw [readDigits_whole hdigits.2 rfl rfl (fun heq => absurd heq hdigits.1) (by simpa using hbound)]
  simp only [Nat.zero_mul, Nat.zero_add]

theorem readDigits_point (h : r.pointed = false) :
    readDigits r ('.' :: rest) = readDigits { r with pointed := true } rest := by
  rw [readDigits, if_neg (by decide), h]
  rfl

end Reading

/-! ### Reading literals -/

/-- The digits and the point of the literal of a decimal. -/
def literalDigits (d : Decimal) : List Char :=
  if d.scale == 0 then natText d.coefficient ++ ".0".toList else pointAt d.scale d.coefficient

/-- The decimal that a literal reads back as. -/
def reread (d : Decimal) : Decimal :=
  if d.scale = 0 then (ofParts? d.negative (d.coefficient * 10) 1).getD d.plainZero
  else d.plainZero

theorem literal_eq (d : Decimal) : Value.decimalLiteral d = signed d.negative d.literalDigits := by
  unfold Value.decimalLiteral literalDigits text withSign signed pointAt
  split <;> split <;> simp_all

/-- The literal of a decimal has a whole part and places. -/
theorem literalDigits_parts (d : Decimal) : ∃ whole fraction,
    d.literalDigits = whole ++ '.' :: fraction ∧ IsDigits whole ∧ IsDigits fraction := by
  rw [literalDigits]
  split
  · exact ⟨_, _, rfl, isDigits_natText _, List.cons_ne_nil _ _, List.forall_mem_singleton.2 rfl⟩
  · next h =>
    obtain ⟨whole, fraction, htext, hwhole, hfraction, -⟩ :=
      pointAt_eq (fun heq => h (beq_iff_eq.2 heq)) d.coefficient
    exact ⟨whole, fraction, htext, hwhole, hfraction⟩

theorem ofParts?_self (d : Decimal) :
    ofParts? d.negative d.coefficient d.scale = some d.plainZero := by
  rw [ofParts?, ofSignedParts?, dif_pos ⟨d.coefficient_lt, d.scale_le⟩]
  rfl

/-- What the digits of a decimal with places are read as. -/
theorem readDigits_pointAt (d : Decimal) (h : d.scale ≠ 0) :
    readDigits ⟨d.negative, false, false, 0, 0⟩ (pointAt d.scale d.coefficient) =
      some d.plainZero := by
  obtain ⟨whole, fraction, htext, hwhole, hfraction, hlength, hvalue⟩ := pointAt_eq h d.coefficient
  rw [natOfDigits_append] at hvalue
  have hbound := d.coefficient_lt
  have hscale := d.scale_le
  have hle : natOfDigits whole ≤ d.coefficient := hvalue ▸ le_coefficient _ fraction
  rw [htext, readDigits_start _ hwhole (by omega), readDigits_point rfl,
    readDigits_places hfraction.2 rfl rfl, ← ofParts?_self]
  · rw [hvalue, hlength, Nat.zero_add]
  · dsimp only
    omega
  · dsimp only
    omega

/-- What the digits of a decimal with no places are read as after a point and a zero. -/
theorem readDigits_zeroPlace (d : Decimal) (h : d.scale = 0) :
    readDigits ⟨d.negative, false, false, 0, 0⟩ (natText d.coefficient ++ ".0".toList) =
      some d.reread := by
  have hwhole := isDigits_natText d.coefficient
  have hbound := d.coefficient_lt
  have hself := ofParts?_self d
  rw [h] at hself
  rw [readDigits_start _ hwhole (by simpa using hbound), natOfDigits_natText, reread, if_pos h]
  change readDigits ⟨d.negative, true, false, d.coefficient, 0⟩ ['.', '0'] = _
  rw [readDigits_point rfl, readDigits, if_pos (by decide)]
  dsimp only
  rw [show digitValue '0' = 0 from rfl, Nat.add_zero]
  split
  · next hfull =>
    have hnone : ofParts? d.negative (d.coefficient * 10) 1 = none := by
      rw [ofParts?, ofSignedParts?, dif_neg fun hb => Nat.not_lt.2 hfull hb.1]
    rw [if_pos rfl, hnone]
    exact hself
  · next hfits =>
    have hsome : (ofParts? d.negative (d.coefficient * 10) 1).isSome = true := by
      rw [ofParts?, ofSignedParts?, dif_pos ⟨Nat.lt_of_not_le hfits, by decide⟩]
      rfl
    obtain ⟨e, he⟩ := Option.isSome_iff_exists.1 hsome
    rw [he]
    exact he

theorem readDigits_literalDigits (d : Decimal) :
    readDigits ⟨d.negative, false, false, 0, 0⟩ d.literalDigits = some d.reread := by
  rw [literalDigits]
  split
  · next h => exact readDigits_zeroPlace d (beq_iff_eq.1 h)
  · next h =>
    have hscale : d.scale ≠ 0 := fun heq => h (beq_iff_eq.2 heq)
    rw [readDigits_pointAt d hscale, reread, if_neg hscale]

/-- Without an exponent mark all of a text is the plain decimal. -/
theorem ofText?_plain {cs : List Char} (h : ∀ c ∈ cs, isExponentMark c = false) :
    ofText? cs = ofPlainText? cs := by
  have hnone : (cs.dropWhile fun c => !isExponentMark c) = [] := by
    refine List.dropWhile_eq_nil_iff.2 fun c hc => ?_
    rw [h c hc]
    rfl
  rw [ofText?, hnone]

theorem ofPlainText?_signed (negative : Bool) {digits : List Char} (h : IsDigits digits)
    (rest : List Char) :
    ofPlainText? (signed negative (digits ++ rest)) =
      readDigits ⟨negative, false, false, 0, 0⟩ (digits ++ rest) := by
  obtain ⟨c, more, rfl⟩ := List.exists_cons_of_ne_nil h.1
  cases negative with
  | true => rfl
  | false =>
    rw [signed, if_neg Bool.false_ne_true, List.cons_append]
    unfold ofPlainText?
    split
    · next heq => exact absurd (List.cons.inj heq).1 (h.ne_of_head rfl (by decide))
    · next heq => exact absurd (List.cons.inj heq).1 (h.ne_of_head rfl (by decide))
    · rfl

theorem isDigit_isExponentMark {c : Char} (h : isDigit c = true) : isExponentMark c = false := by
  rw [isExponentMark, Bool.or_eq_false_iff, beq_eq_false_iff_ne, beq_eq_false_iff_ne]
  constructor <;> rintro rfl <;> exact absurd h (by decide)

/-- The characters of digits with a sign and a point. -/
theorem mem_signed_parts {negative : Bool} {whole fraction : List Char} {c : Char}
    (hwhole : IsDigits whole) (hfraction : IsDigits fraction)
    (h : c ∈ signed negative (whole ++ '.' :: fraction)) :
    isDigit c = true ∨ c = '-' ∨ c = '.' := by
  have hmem : c = '-' ∨ c ∈ whole ++ '.' :: fraction := by
    unfold signed at h
    split at h
    · exact List.mem_cons.1 h
    · exact .inr h
  rw [List.mem_append, List.mem_cons] at hmem
  rcases hmem with rfl | hc | rfl | hc
  · exact .inr (.inl rfl)
  · exact .inl (hwhole.2 c hc)
  · exact .inr (.inr rfl)
  · exact .inl (hfraction.2 c hc)

/-- Digits with a sign and a point have no mark of an exponent. -/
theorem isExponentMark_of_mem {negative : Bool} {whole fraction : List Char}
    (hwhole : IsDigits whole) (hfraction : IsDigits fraction) :
    ∀ c ∈ signed negative (whole ++ '.' :: fraction), isExponentMark c = false := by
  intro c hc
  rcases mem_signed_parts hwhole hfraction hc with h | rfl | rfl
  · exact isDigit_isExponentMark h
  · rfl
  · rfl

/-- The literal of a decimal has no mark of an exponent. -/
theorem mem_literal {d : Decimal} {c : Char} (h : c ∈ signed d.negative d.literalDigits) :
    isExponentMark c = false := by
  obtain ⟨whole, fraction, htext, hwhole, hfraction⟩ := d.literalDigits_parts
  rw [htext] at h
  exact isExponentMark_of_mem hwhole hfraction c h

/-- What the literal of a decimal is read as. -/
theorem ofText?_literal (d : Decimal) :
    ofText? (signed d.negative d.literalDigits) = some d.reread := by
  rw [ofText?_plain fun _ => mem_literal]
  obtain ⟨whole, fraction, htext, hwhole, hfraction⟩ := d.literalDigits_parts
  rw [← readDigits_literalDigits, htext]
  exact ofPlainText?_signed d.negative hwhole _

/-! ### Tokens of literals -/

/-- The tokens of the literal of a decimal. -/
def literalTokens (d : Decimal) : List Token :=
  signedTokens d.negative (.real (String.ofList d.literalDigits))

theorem lexes_literal (d : Decimal) {rest : List Char} {ts : List Token} (hrest : Separated rest)
    (next : Lexes rest ts) :
    Lexes (Value.decimalLiteral d ++ rest) (d.literalTokens ++ ts) := by
  obtain ⟨whole, fraction, htext, hwhole, hfraction⟩ := d.literalDigits_parts
  obtain ⟨c, more, rfl⟩ := List.exists_cons_of_ne_nil hwhole.1
  have hspells := spells_number hwhole (.places hfraction) .none (fun h => nomatch h) hrest
  rw [numberToken, List.append_nil, ← htext] at hspells
  rw [literal_eq, literalTokens]
  exact lexes_signed _ (by rw [htext]; rfl) (hwhole.ne_of_head rfl (by decide)) hspells next

/-- The value of the token of a literal. -/
theorem realLiteral_literalDigits (d : Decimal) :
    realLiteral (String.ofList d.literalDigits) d.negative = .decimal d.reread := by
  have htext := toList_signedText d.negative (String.ofList d.literalDigits)
  rw [String.toList_ofList] at htext
  have hmark : (signed d.negative d.literalDigits).any marksExponent = false :=
    List.any_eq_false.2 fun c hc => Bool.not_eq_true _ ▸ mem_literal hc
  rw [realLiteral, htext, hmark, if_neg Bool.false_ne_true, ofText?_literal]
  rfl

end TableFilter.Decimal
