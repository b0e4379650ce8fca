import TableFilter.Proofs.Decimal.Text
import TableFilter.Proofs.Literal.Evaluation
import TableFilter.Proofs.Number.DoubleText
import TableFilter.Proofs.Value.ExactNumbers

/-!
# Literals of integers

The digits of a literal stand for an integer, which its sign makes negative. It goes into the first
type that holds it: integers of 32 and of 64 bits, whose ranges have one more number below zero than
above, decimals, and doubles for all that is larger. Digits of base sixteen go into the integer
types only, and are refused where their magnitude is that of no positive integer of 64 bits.

The sign is part of the literal before the type is chosen, so that the least integer of each width
has a literal.

## Main definitions

* `signedNat`: a natural with a sign
* `IsIntegerOf`, `IsNumberOf`: the value of an integer in the first type that holds it

## Main results

* `Decimal.readDigits_overflow`: digits that no decimal holds
* `integerLiteral_isNumberOf`, `hexLiteral_isIntegerOf`: the values of literals
* `integer_literals_exact`: literals and the texts that they are evaluated from
-/

namespace TableFilter

open Number Text

/-! ### The value of an integer -/

/-- A natural with a sign. -/
def signedNat (negative : Bool) (n : ℕ) : ℤ := if negative then -n else n

/-- The value of an integer in the smaller of the integer types that holds it. -/
inductive IsIntegerOf (i : ℤ) : Value → Prop
  | int32 {w : Int32} (least : -2 ^ 31 ≤ i) (greatest : i < 2 ^ 31) (exact : w.toInt = i) :
      IsIntegerOf i (.int32 w)
  | int64 {w : Int64} (large : i < -2 ^ 31 ∨ 2 ^ 31 ≤ i) (least : -2 ^ 63 ≤ i)
      (greatest : i < 2 ^ 63) (exact : w.toInt = i) : IsIntegerOf i (.int64 w)

/-- The value of an integer in the first of the numeric types that holds it. Doubles hold all
integers, though not exactly. -/
inductive IsNumberOf (i : ℤ) : Value → Prop
  | integer {v : Value} (h : IsIntegerOf i v) : IsNumberOf i v
  | decimal {d : Decimal} (large : i < -2 ^ 63 ∨ 2 ^ 63 ≤ i) (bounded : i.natAbs ≤ 2 ^ 96 - 1)
      (exact : d.number = i) : IsNumberOf i (.decimal d)
  | double {x : Float} (large : 2 ^ 96 - 1 < i.natAbs) : IsNumberOf i (.double x)

variable {i : ℤ} {n : ℕ} {negative : Bool}

theorem natAbs_signedNat (negative : Bool) (n : ℕ) : (signedNat negative n).natAbs = n := by
  cases negative with
  | false => rfl
  | true => exact Int.natAbs_neg n

theorem fitsInt32_iff : fitsInt32 i = true ↔ -2 ^ 31 ≤ i ∧ i < 2 ^ 31 := by
  rw [fitsInt32, Bool.and_eq_true, decide_eq_true_eq, decide_eq_true_eq]
  omega

theorem fitsInt64_iff : fitsInt64 i = true ↔ -2 ^ 63 ≤ i ∧ i < 2 ^ 63 := by
  rw [fitsInt64, Bool.and_eq_true, decide_eq_true_eq, decide_eq_true_eq]
  omega

/-- An integer of 64 bits goes into the smaller type that holds it. -/
theorem ofInt_isIntegerOf (h : fitsInt64 i = true) : IsIntegerOf i (Value.ofInt i) := by
  obtain ⟨least, greatest⟩ := fitsInt64_iff.1 h
  unfold Value.ofInt
  split
  · next small =>
    obtain ⟨least, greatest⟩ := fitsInt32_iff.1 small
    exact .int32 least greatest (Int32.toInt_ofInt_of_le least greatest)
  · next large =>
    rw [fitsInt32_iff] at large
    exact .int64 (by omega) least greatest (Int64.toInt_ofInt_of_le least greatest)

/-! ### Digits of base ten -/

section Digits

variable {digits : List Char}

/-- Digits that the coefficient of a decimal cannot hold are refused where there is no point. -/
theorem Decimal.readDigits_overflow : ∀ {digits : List Char} {r : Reading},
    (∀ c ∈ digits, isDigit c = true) → r.pointed = false → r.coefficient < coefficientBound →
    coefficientBound ≤ r.coefficient * tenTo digits.length + natOfDigits digits →
    readDigits r digits = none := by
  intro digits
  induction digits with
  | nil =>
    intro r _ _ hfits hfull
    simp only [List.length_nil, tenTo_zero, Nat.mul_one, natOfDigits, List.foldl_nil,
      Nat.add_zero] at hfull
    omega
  | cons c cs ih =>
    intro r hdigits hpointed _ hfull
    obtain ⟨negative, started, pointed, coefficient, scale⟩ := r
    obtain rfl : pointed = false := hpointed
    dsimp only at hfull ⊢
    rw [coefficient_step] at hfull
    rw [readDigits, if_pos (hdigits c (.head _))]
    dsimp only
    split
    · rfl
    · next hfits =>
      exact ih (fun d hd => hdigits d (.tail _ hd)) rfl (Nat.lt_of_not_le hfits) hfull

theorem Decimal.ofText?_signed (negative : Bool) (h : IsDigits digits) :
    ofText? (signed negative digits) = readDigits ⟨negative, false, false, 0, 0⟩ digits := by
  have hmark : ∀ c ∈ signed negative digits, isExponentMark c = false := by
    intro c hc
    unfold signed at hc
    split at hc
    · rcases List.mem_cons.1 hc with rfl | hc
      · rfl
      · exact isDigit_isExponentMark (h.2 c hc)
    · exact isDigit_isExponentMark (h.2 c hc)
  have hread := ofPlainText?_signed negative h []
  rw [List.append_nil] at hread
  rw [ofText?_plain hmark, hread]

/-- Digits that the coefficient of a decimal can hold, other than zeros. -/
theorem Decimal.exists_ofText?_signed (negative : Bool) (h : IsDigits digits)
    (hpos : natOfDigits digits ≠ 0) (hfits : natOfDigits digits < coefficientBound) :
    ∃ d, ofText? (signed negative digits) = some d ∧
      d.number = signedNat negative (natOfDigits digits) := by
  have hsigned : (negative && natOfDigits digits != 0) = negative := by simp [hpos]
  have hmade : ofText? (signed negative digits) =
      ofSignedParts? negative (natOfDigits digits) 0 := by
    rw [ofText?_signed negative h, ← List.append_nil digits, readDigits_start negative h hfits,
      List.append_nil]
    change ofParts? negative (natOfDigits digits) 0 = _
    rw [ofParts?, hsigned]
  obtain ⟨d, hd⟩ : ∃ d, ofSignedParts? negative (natOfDigits digits) 0 = some d := by
    rw [ofSignedParts?, dif_pos ⟨hfits, Nat.zero_le _⟩]
    exact ⟨_, rfl⟩
  exact ⟨d, hmade.trans hd, number_ofSignedParts hd⟩

/-- Digits that no decimal can hold. -/
theorem Decimal.ofText?_signed_eq_none (negative : Bool) (h : IsDigits digits)
    (hfull : coefficientBound ≤ natOfDigits digits) : ofText? (signed negative digits) = none := by
  rw [ofText?_signed negative h]
  exact readDigits_overflow h.2 rfl (show 0 < coefficientBound by decide) (by simpa using hfull)

theorem intOfText?_signed (h : IsDigits digits) :
    intOfText? (signed negative digits) =
      if fitsInt64 (signedNat negative (natOfDigits digits)) then
        some (signedNat negative (natOfDigits digits)) else none := by
  obtain ⟨c, hhead, hc⟩ := h.exists_head
  rw [intOfText?, takeSign_signed _ hhead (.inl hc)]
  dsimp only
  rw [h.isEmpty, h.all]
  rfl

/-- Digits are read as a double, however many there are. -/
theorem exists_doubleOfText?_signed (negative : Bool) (h : IsDigits digits) :
    ∃ x, doubleOfText? (signed negative digits) = some x := by
  obtain ⟨c, cs, rfl⟩ := List.exists_cons_of_ne_nil h.1
  have hstop : ∀ d, ([] : List Char).head? = some d → isDigit d = false := nofun
  have htake := takeWhile_append_stop h.2 hstop
  have hdrop := dropWhile_append_stop h.2 hstop
  rw [List.append_nil] at htake hdrop
  rw [doubleOfText?_signed negative (h.2 c (.head _)), decimalsOfText?, htake, hdrop]
  exact ⟨_, rfl⟩

/-- **Literals of base ten.** Digits, of which the first may be zeros, go with their sign into the
first type that holds them. -/
theorem integerLiteral_isNumberOf {text : String} (negative : Bool) (h : IsDigits text.toList) :
    ∃ v, integerLiteral text negative = .ok v ∧
      IsNumberOf (signedNat negative (natOfDigits text.toList)) v := by
  have hnat := natAbs_signedNat negative (natOfDigits text.toList)
  rw [integerLiteral, toList_signedText, intOfText?_signed h]
  cases hfits : fitsInt64 (signedNat negative (natOfDigits text.toList)) with
  | true => exact ⟨_, rfl, .integer (ofInt_isIntegerOf hfits)⟩
  | false =>
    have hlarge := fitsInt64_iff.not.1 (Bool.not_eq_true _ ▸ hfits)
    rcases Nat.lt_or_ge (natOfDigits text.toList) Decimal.coefficientBound with hbound | hbound
    · obtain ⟨d, hd, hnumber⟩ :=
        Decimal.exists_ofText?_signed negative h (by omega) hbound
      simp only [Bool.false_eq_true, if_false, hd]
      rw [Decimal.coefficientBound] at hbound
      exact ⟨_, rfl, .decimal (by omega) (by omega) hnumber⟩
    · obtain ⟨x, hx⟩ := exists_doubleOfText?_signed negative h
      simp only [Bool.false_eq_true, if_false, Decimal.ofText?_signed_eq_none negative h hbound, hx]
      rw [Decimal.coefficientBound] at hbound
      exact ⟨_, rfl, .double (by omega)⟩

end Digits

/-! ### Digits of base sixteen -/

/-- Digits of base sixteen, at least one. -/
def IsHexDigits (digits : List Char) : Prop := digits ≠ [] ∧ ∀ c ∈ digits, isHexDigit c = true

section HexDigits

variable {text : String}

/-- Digits have no sign before them. -/
theorem natOfHexText?_eq (h : IsHexDigits text.toList) :
    natOfHexText? text.toList =
      if natOfHex text.toList < word64 then some (natOfHex text.toList) else none := by
  obtain ⟨hne, hdigits⟩ := h
  obtain ⟨c, cs, htext⟩ := List.exists_cons_of_ne_nil hne
  rw [htext] at hdigits ⊢
  have hplus : c ≠ '+' := by
    rintro rfl
    exact absurd (hdigits _ (.head _)) (by decide)
  have hall : (c :: cs).all isHexDigit = true := List.all_eq_true.2 hdigits
  unfold natOfHexText?
  split
  · next heq => exact absurd (List.cons.inj heq).1 hplus
  · dsimp only
    rw [hall]
    rfl

/-- **Literals of base sixteen.** Digits go with their sign into the smaller integer type that holds
them. -/
theorem hexLiteral_isIntegerOf (negative : Bool) (h : IsHexDigits text.toList)
    (hsmall : natOfHex text.toList ≤ 2 ^ 63 - 1) :
    ∃ v, hexLiteral text negative = .ok v ∧
      IsIntegerOf (signedNat negative (natOfHex text.toList)) v := by
  have hword : natOfHex text.toList < word64 := by
    rw [word64]
    omega
  have hfits : fitsInt64 (natOfHex text.toList) = true := fitsInt64_iff.2 ⟨by omega, by omega⟩
  have hsigned : fitsInt64 (signedNat negative (natOfHex text.toList)) = true := by
    have := natAbs_signedNat negative (natOfHex text.toList)
    exact fitsInt64_iff.2 ⟨by omega, by omega⟩
  rw [hexLiteral, natOfHexText?_eq h, if_pos hword]
  dsimp only
  rw [if_pos hfits]
  exact ⟨_, rfl, ofInt_isIntegerOf hsigned⟩

theorem hexLiteral_malformed (negative : Bool) (h : IsHexDigits text.toList)
    (hlarge : 2 ^ 63 - 1 < natOfHex text.toList) :
    ∃ m, hexLiteral text negative = .error (.malformed m) := by
  have hfits : fitsInt64 (natOfHex text.toList) = false := by
    rw [← Bool.not_eq_true, fitsInt64_iff]
    omega
  rw [hexLiteral, natOfHexText?_eq h]
  split
  · exact ⟨_, rfl⟩
  · next n hn =>
    split at hn
    · obtain rfl := Option.some.inj hn
      rw [hfits]
      exact ⟨_, rfl⟩
    · cases hn

/-- A number of base sixteen before a separator. -/
theorem spells_hex {digits rest : List Char} (h : IsHexDigits digits) (hrest : Separated rest) :
    Spells ('0' :: 'x' :: digits) (.hex (String.ofList digits)) rest := by
  have hstop : ∀ c, rest.head? = some c → isHexDigit c = false := fun _ =>
    hrest.eq_false (by decide)
  have hhyphen : '-' ∉ '0' :: 'x' :: digits := by
    simp only [List.mem_cons, not_or]
    exact ⟨by decide, by decide, fun hm => absurd (h.2 _ hm) (by decide)⟩
  have hguid : startsWithGuid ('0' :: ('x' :: digits ++ rest)) = false :=
    startsWithGuid_run hhyphen hrest
  have hscan : scanNumber ('0' :: ('x' :: digits ++ rest)) =
      (.hex (String.ofList digits), rest) := by
    rw [scanNumber, List.cons_append, scanHex?, takeWhile_append_stop h.2 hstop,
      dropWhile_append_stop h.2 hstop]
    dsimp only
    rw [List.isEmpty_eq_false_iff.2 h.1]
    rfl
  refine .of_scan (by decide) (by decide) ?_
  rw [scanToken_number (by decide) hguid, hscan]

end HexDigits

/-! ### Texts of numbers -/

/-- A text of digits, after a minus sign or not. -/
theorem evalText_digits (clock : Clock) (negative : Bool) (digits : String)
    (h : IsDigits digits.toList) :
    evalText clock (signedText negative digits) = integerLiteral digits negative := by
  obtain ⟨c, hhead, hc⟩ := h.exists_head
  have hspells := spells_integer h separated_nil
  rw [String.ofList_toList] at hspells
  have hlexes := lexes_signed negative hhead (h.ne_of_head hhead (by decide)) hspells (.done rfl)
  rw [List.append_nil, ← toList_signedText] at hlexes
  exact evalText_number clock hlexes rfl

/-- A text of digits of base sixteen with their mark, after a minus sign or not. -/
theorem evalText_hexDigits (clock : Clock) (negative : Bool) (digits : String)
    (h : IsHexDigits digits.toList) :
    evalText clock (signedText negative ("0x" ++ digits)) = hexLiteral digits negative := by
  have hspells := spells_hex h separated_nil
  rw [String.ofList_toList] at hspells
  have hlexes := lexes_signed negative rfl (by decide) hspells (.done rfl)
  have htext : '0' :: 'x' :: digits.toList = ("0x" ++ digits).toList := by
    rw [String.toList_append]
    rfl
  rw [List.append_nil, htext, ← toList_signedText] at hlexes
  exact evalText_number clock hlexes rfl

/-- **Literals of integers keep their value in the smallest type that holds it.** Digits of base
ten, with a sign, are an integer of 32 bits, of 64 bits, a decimal or a double, the first of them
that holds the number that they stand for. Digits of base sixteen are an integer of 32 or of 64
bits, and malformed if their magnitude is beyond that of the greatest integer of 64 bits. A minus
sign directly before a token for a number is the sign of the literal, as a text and in any place
where an operand is read, so that the least integers of both widths have literals. -/
theorem integer_literals_exact :
    (∀ (digits : String) (negative : Bool), IsDigits digits.toList →
      ∃ v, integerLiteral digits negative = .ok v ∧
        IsNumberOf (signedNat negative (natOfDigits digits.toList)) v) ∧
    (∀ (digits : String) (negative : Bool), IsHexDigits digits.toList →
      (natOfHex digits.toList ≤ 2 ^ 63 - 1 → ∃ v, hexLiteral digits negative = .ok v ∧
        IsIntegerOf (signedNat negative (natOfHex digits.toList)) v) ∧
      (2 ^ 63 - 1 < natOfHex digits.toList →
        ∃ m, hexLiteral digits negative = .error (.malformed m))) ∧
    (∀ (t : Token) (value : Result Value), Grammar.numberValue? true t = some value →
      (∀ (clock : Clock) (text : String),
        Token.listOfText text = .ok [.symbol .minus, t, .eof] → evalText clock text = value) ∧
      ∀ (nested : TokenReader Term) (ts : List Token),
        Grammar.signed (Grammar.primary nested) (.symbol .minus :: t :: ts) =
          value.map fun v => (.literal v, ts)) ∧
    (∀ (clock : Clock) (digits : String) (negative : Bool),
      (IsDigits digits.toList →
        evalText clock (signedText negative digits) = integerLiteral digits negative) ∧
      (IsHexDigits digits.toList →
        evalText clock (signedText negative ("0x" ++ digits)) = hexLiteral digits negative)) ∧
    ∀ clock : Clock, evalText clock "-2147483648" = .ok (.int32 Int32.minValue) ∧
      evalText clock "-9223372036854775808" = .ok (.int64 Int64.minValue) := by
  refine ⟨fun _ negative => integerLiteral_isNumberOf negative,
    fun _ negative h => ⟨hexLiteral_isIntegerOf negative h, hexLiteral_malformed negative h⟩,
    fun t value hvalue => ⟨fun clock text htokens => ?_, fun nested ts => ?_⟩,
    fun clock digits negative =>
      ⟨evalText_digits clock negative digits, evalText_hexDigits clock negative digits⟩,
    fun clock => ⟨?_, ?_⟩⟩
  · have hlexes : Lexes text.toList (signedTokens true t ++ [.eof]) := listOfText_eq_ok.1 htokens
    exact evalText_number clock hlexes hvalue
  · exact Grammar.signed_number hvalue ts
  · have hvalue : integerLiteral "2147483648" true = .ok (.int32 Int32.minValue) := by rfl
    rw [← hvalue]
    exact evalText_digits clock true "2147483648" ⟨nofun, List.all_eq_true.1 rfl⟩
  · have hvalue : integerLiteral "9223372036854775808" true = .ok (.int64 Int64.minValue) := by rfl
    rw [← hvalue]
    exact evalText_digits clock true "9223372036854775808" ⟨nofun, List.all_eq_true.1 rfl⟩

/-- Zeros before the digits do not count: the least integer of 32 bits with two of them. One more
than the greatest integer of 64 bits has no literal in base sixteen. A sign and its number may have
a comment between them. -/
theorem least_integers_exact :
    IsDigits "002147483648".toList ∧
      (∃ v, integerLiteral "002147483648" true = .ok v ∧ IsNumberOf (-2147483648) v) ∧
      IsHexDigits "8000000000000000".toList ∧
      (∃ m, hexLiteral "8000000000000000" true = .error (.malformed m)) ∧
      Token.listOfText "- -- ten\n0xA" = .ok [.symbol .minus, .hex "A", .eof] ∧
      ∀ clock, evalText clock "- -- ten\n0xA" = .ok (.int32 (-10)) := by
  obtain ⟨decimal, hex, signs, -, -⟩ := integer_literals_exact
  have digits : IsDigits "002147483648".toList := ⟨nofun, List.all_eq_true.1 rfl⟩
  have hexDigits : IsHexDigits "8000000000000000".toList := ⟨nofun, List.all_eq_true.1 rfl⟩
  have tokens : Token.listOfText "- -- ten\n0xA" = .ok [.symbol .minus, .hex "A", .eof] := by cbv
  exact ⟨digits, decimal _ true digits, hexDigits, (hex _ true hexDigits).2 (by decide), tokens,
    fun clock => (signs (.hex "A") _ rfl).1 clock _ tokens⟩

end TableFilter
