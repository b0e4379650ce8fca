import Mathlib.Data.Rat.Floor
import TableFilter.Proofs.Decimal.Places
import TableFilter.Proofs.Literal.Numbers

/-!
# Conversion to integers

A number is converted to an integer type by cutting off what it has beyond its whole part, and only
then asking whether the type holds the rest. So a number that exceeds a bound by a fraction is still
converted.

A text is read as an integer first, and as a decimal if it is none. Every text that is an integer is
a decimal too, of the same number, so that the first way is a shortcut: what the text is converted
to is always what its decimal is converted to.

## Main definitions

* `DataType.HasBits`: the integer types and their widths
* `Value.IsInt`: the value of an integer type that stands for an integer
* `towardZero`: a number without what it has beyond its whole part
* `Value.Narrows`: an integer as a value of a type, or an error if the type does not hold it

## Main results

* `Decimal.toInt_eq`: the whole part of a decimal
* `Decimal.exists_ofText?_of_intOfText?`: a text that is an integer is a decimal
* `narrowing_exact`: conversion of numbers and texts to integers
-/

namespace TableFilter

open Number Text

/-! ### Integer types -/

/-- The integer types that are words, with their numbers of bits. -/
inductive DataType.HasBits : DataType → ℕ → Prop
  | int32 : HasBits .int32 32
  | int64 : HasBits .int64 64

namespace Value

/-- The value of a type that stands for an integer, false being zero and true being one. -/
inductive IsInt : DataType → ℤ → Value → Prop
  | boolean (b : Bool) : IsInt .boolean (if b then 1 else 0) (.boolean b)
  | int32 (i : Int32) : IsInt .int32 i.toInt (.int32 i)
  | int64 (i : Int64) : IsInt .int64 i.toInt (.int64 i)

/-- An integer as a value of a word type if this holds it, and otherwise an error that shows the
value which was to be converted. -/
inductive Narrows (source : Value) (i : ℤ) (type : DataType) (bits : ℕ) : Result Value → Prop
  | value {v : Value} (least : -2 ^ (bits - 1) ≤ i) (greatest : i < 2 ^ (bits - 1))
      (exact : v.IsInt type i) : Narrows source i type bits (.ok v)
  | outOfRange (outside : i < -2 ^ (bits - 1) ∨ 2 ^ (bits - 1) ≤ i) :
      Narrows source i type bits (source.outOfRange type)

variable {source v : Value} {i : ℤ} {type : DataType} {bits : ℕ} {r : Result Value}

theorem isInt_ofInt32 (least : -2 ^ 31 ≤ i) (greatest : i < 2 ^ 31) :
    IsInt .int32 i (.int32 (Int32.ofInt i)) := by
  have exact := IsInt.int32 (Int32.ofInt i)
  rwa [Int32.toInt_ofInt_of_le least greatest] at exact

theorem isInt_ofInt64 (least : -2 ^ 63 ≤ i) (greatest : i < 2 ^ 63) :
    IsInt .int64 i (.int64 (Int64.ofInt i)) := by
  have exact := IsInt.int64 (Int64.ofInt i)
  rwa [Int64.toInt_ofInt_of_le least greatest] at exact

theorem narrow_narrows (htype : type.HasBits bits) (source : Value) (i : ℤ) :
    source.Narrows i type bits (source.narrow i type) := by
  cases htype with
  | int32 =>
    dsimp only [narrow]
    split
    · next hfits =>
      obtain ⟨least, greatest⟩ := fitsInt32_iff.1 hfits
      exact .value least greatest (isInt_ofInt32 least greatest)
    · next hfits =>
      rw [fitsInt32_iff] at hfits
      exact .outOfRange (by omega)
  | int64 =>
    dsimp only [narrow]
    split
    · next hfits =>
      obtain ⟨least, greatest⟩ := fitsInt64_iff.1 hfits
      exact .value least greatest (isInt_ofInt64 least greatest)
    · next hfits =>
      rw [fitsInt64_iff] at hfits
      exact .outOfRange (by omega)

/-- An integer has one value in a type. -/
theorem IsInt.unique {w : Value} (hv : v.IsInt type i) (hw : w.IsInt type i) : v = w := by
  cases hv with
  | boolean b =>
    generalize hi : (if b then 1 else 0 : ℤ) = i at hw
    cases hw with
    | boolean c => cases b <;> cases c <;> first | rfl | exact absurd hi (by decide)
  | int32 k =>
    generalize hi : k.toInt = i at hw
    cases hw with
    | int32 l => exact congrArg _ (Int32.toInt_inj.1 hi)
  | int64 k =>
    generalize hi : k.toInt = i at hw
    cases hw with
    | int64 l => exact congrArg _ (Int64.toInt_inj.1 hi)

/-- Narrowing one integer gives the same value whatever is to be converted. -/
theorem Narrows.eq_ok_iff {source' : Value} {r' : Result Value} (h : source.Narrows i type bits r)
    (h' : source'.Narrows i type bits r') : r = .ok v ↔ r' = .ok v := by
  cases h with
  | value least greatest exact =>
    cases h' with
    | value _ _ exact' => rw [exact.unique exact']
    | outOfRange outside => omega
  | outOfRange outside =>
    cases h' with
    | value least greatest => omega
    | outOfRange => exact ⟨nofun, nofun⟩

end Value

/-! ### Whole parts -/

/-- A number without what it has beyond its whole part. -/
def towardZero (q : ℚ) : ℤ := if q < 0 then ⌈q⌉ else ⌊q⌋

theorem towardZero_intCast (i : ℤ) : towardZero i = i := by
  unfold towardZero
  split
  · exact Int.ceil_intCast i
  · exact Int.floor_intCast i

theorem towardZero_natCast_div (n d : ℕ) : towardZero (n / d) = (n / d : ℕ) := by
  have hnonneg : ¬ ((n : ℚ) / d < 0) := not_lt.2 (by positivity)
  rw [towardZero, if_neg hnonneg, Rat.floor_natCast_div_natCast, Int.natCast_ediv]

theorem towardZero_neg (q : ℚ) : towardZero (-q) = -towardZero q := by
  unfold towardZero
  rcases lt_trichotomy q 0 with h | rfl | h
  · rw [if_neg (neg_pos.2 h).not_gt, if_pos h, Int.floor_neg]
  · simp
  · rw [if_pos (neg_lt_zero.2 h), if_neg h.not_gt, Int.ceil_neg]

/-- The integer that is made of a decimal is its number without the places. -/
theorem Decimal.toInt_eq (d : Decimal) : d.toInt = towardZero d.number := by
  have hwhole : towardZero (d.coefficient / (10 : ℚ) ^ d.scale) = d.whole := by
    rw [← tenTo_eq_pow, towardZero_natCast_div]
    rfl
  rw [toInt, number_eq, numberOf]
  cases d.negative with
  | true => rw [if_pos rfl, if_pos rfl, neg_div, towardZero_neg, hwhole]
  | false => rw [if_neg Bool.false_ne_true, if_neg Bool.false_ne_true, hwhole]

/-! ### Texts -/

/-- Digits after a plus sign are read like those without a sign. -/
theorem Decimal.ofText?_plus {digits : List Char} (h : IsDigits digits) :
    ofText? ('+' :: digits) = readDigits ⟨false, false, false, 0, 0⟩ digits := by
  have hmark : ∀ c ∈ '+' :: digits, isExponentMark c = false := by
    intro c hc
    rcases List.mem_cons.1 hc with rfl | hc
    · rfl
    · exact isDigit_isExponentMark (h.2 c hc)
  rw [ofText?_plain hmark, ofPlainText?]
  dsimp only
  rw [h.isEmpty, if_neg Bool.false_ne_true]

/-- Digits after a sign or without one. -/
theorem Decimal.ofText?_of_takeSign {cs digits : List Char} {negative : Bool}
    (hsign : takeSign cs = (negative, digits)) (h : IsDigits digits) :
    ofText? cs = readDigits ⟨negative, false, false, 0, 0⟩ digits := by
  unfold takeSign at hsign
  split at hsign
  · cases hsign
    exact ofText?_signed true h
  · cases hsign
    exact ofText?_plus h
  · cases hsign
    exact ofText?_signed false h

/-- A text that is an integer is a decimal of the same number. -/
theorem Decimal.exists_ofText?_of_intOfText? {cs : List Char} {i : ℤ} (h : intOfText? cs = some i) :
    ∃ d, ofText? cs = some d ∧ d.number = i := by
  rcases hsign : takeSign cs with ⟨negative, digits⟩
  unfold intOfText? at h
  rw [hsign] at h
  dsimp only at h
  split at h
  · cases h
  · next hdigits =>
    rw [Bool.or_eq_true, not_or, List.isEmpty_iff, Bool.not_eq_true', Bool.not_eq_false,
      List.all_eq_true] at hdigits
    change (if fitsInt64 (signedNat negative (natOfDigits digits)) = true then
      some (signedNat negative (natOfDigits digits)) else none) = some i at h
    split at h
    · next hfits =>
      obtain rfl := Option.some.inj h
      have hbound : natOfDigits digits < coefficientBound := by
        have habs := natAbs_signedNat negative (natOfDigits digits)
        obtain ⟨least, greatest⟩ := fitsInt64_iff.1 hfits
        unfold coefficientBound
        omega
      obtain ⟨d, hd, hnumber⟩ := exists_ofParts? negative hbound (Nat.zero_le 28)
      refine ⟨d, ?_, hnumber.trans ?_⟩
      · rw [ofText?_of_takeSign hsign hdigits, ← List.append_nil digits,
          readDigits_start negative hdigits hbound]
        exact hd
      · rw [numberOf, signedNat, pow_zero, div_one]
        push_cast
        rfl
    · cases h

namespace Value

variable {text : String} {d : Decimal} {type : DataType} {bits : ℕ}

/-! ### Conversions -/

theorem convertDecimal_narrows (htype : type.HasBits bits) (source : Value) (d : Decimal) :
    source.Narrows (towardZero d.number) type bits (source.convertDecimal d type) := by
  have h := narrow_narrows htype source d.toInt
  rw [d.toInt_eq] at h
  cases htype <;> rwa [convertDecimal, d.toInt_eq]

theorem convert_eq_parseInteger (htype : type.HasBits bits) :
    (Value.string text).convert type = parseInteger text (trim text.toList) type := by
  cases htype <;> exact convert_eq_parse text nofun

/-- A text that is a decimal is converted like its decimal. -/
theorem convert_text_narrows (htype : type.HasBits bits)
    (h : Decimal.ofText? (trim text.toList) = some d) :
    (Value.string text).Narrows (towardZero d.number) type bits
      ((Value.string text).convert type) := by
  rw [convert_eq_parseInteger htype, parseInteger]
  cases hint : intOfText? (trim text.toList) with
  | none =>
    dsimp only
    rw [h]
    exact convertDecimal_narrows htype _ d
  | some i =>
    obtain ⟨e, he, hnumber⟩ := Decimal.exists_ofText?_of_intOfText? hint
    obtain rfl : d = e := Option.some.inj (h.symm.trans he)
    rw [hnumber, towardZero_intCast]
    cases htype
    · exact narrow_narrows .int32 _ i
    · exact narrow_narrows .int64 _ i

/-- An exact value is converted to its number without what this has beyond its whole part. -/
theorem IsExact.convert_narrows {v : Value} (h : v.IsExact) (htype : type.HasBits bits) :
    v.Narrows (towardZero v.number) type bits (v.convert type) := by
  cases h with
  | boolean b =>
    have hnumber : number (.boolean b) = ((if b then 1 else 0 : ℤ) : ℚ) := by cases b <;> rfl
    rw [hnumber, towardZero_intCast]
    cases htype
    · exact narrow_narrows .int32 _ _
    · exact narrow_narrows .int64 _ _
  | int32 i =>
    rw [number, towardZero_intCast]
    cases htype
    · exact .value i.le_toInt i.toInt_lt (.int32 i)
    · exact narrow_narrows .int64 _ _
  | int64 i =>
    rw [number, towardZero_intCast]
    cases htype
    · exact narrow_narrows .int32 _ _
    · exact .value i.le_toInt i.toInt_lt (.int64 i)
  | decimal d =>
    have hconvert : (Value.decimal d).convert type = (Value.decimal d).convertDecimal d type := by
      cases htype <;> rfl
    rw [hconvert]
    exact convertDecimal_narrows htype _ d

end Value

/-- **Conversion to integers cuts off and then checks the range.** A truth value, an integer or a
decimal is converted to its number without what this has beyond its whole part, exactly if the type
holds it, and otherwise there is a conversion error. A text that is an integer of 64 bits is a
decimal of the same number. A text that is a decimal is converted to what the decimal is converted
to, with the same bounds, and any other text is a conversion error. -/
theorem narrowing_exact {type : DataType} {bits : ℕ} (htype : type.HasBits bits) :
    (∀ v : Value, v.IsExact → v.Narrows (towardZero v.number) type bits (v.convert type)) ∧
    ∀ text : String,
      (∀ i, intOfText? (trim text.toList) = some i →
        ∃ d, Decimal.ofText? (trim text.toList) = some d ∧ d.number = i) ∧
      (∀ d, Decimal.ofText? (trim text.toList) = some d →
        (Value.string text).Narrows (towardZero d.number) type bits
          ((Value.string text).convert type) ∧
        ∀ v, (Value.string text).convert type = .ok v ↔ (Value.decimal d).convert type = .ok v) ∧
      (Decimal.ofText? (trim text.toList) = none →
        (Value.string text).convert type = .error (.conversion (.unreadable text type))) := by
  refine ⟨fun v h => h.convert_narrows htype, fun text =>
    ⟨fun i => Decimal.exists_ofText?_of_intOfText?, fun d h => ?_, fun h => ?_⟩⟩
  · have htext := Value.convert_text_narrows htype h
    have hdecimal := (Value.IsExact.decimal d).convert_narrows htype
    exact ⟨htext, fun v => htext.eq_ok_iff hdecimal⟩
  · have hint : intOfText? (trim text.toList) = none := by
      cases hint : intOfText? (trim text.toList) with
      | none => rfl
      | some i =>
        obtain ⟨d, hd, -⟩ := Decimal.exists_ofText?_of_intOfText? hint
        exact nomatch h.symm.trans hd
    rw [Value.convert_eq_parseInteger htype, Value.parseInteger, hint]
    dsimp only
    rw [h]
    rfl

/-- Nine tenths beyond the least integer of 32 bits. -/
def Decimal.beyondLeast : Decimal := ⟨true, 21474836489, 1, by decide, Nat.succ_pos _⟩

/-- A fraction beyond a bound is cut off before the range is checked. A text that is an integer,
with a sign and zeros before its digits, is one more than the type holds. -/
theorem beyond_least_narrows :
    DataType.HasBits .int32 32 ∧ (Value.decimal .beyondLeast).IsExact ∧
      (Value.decimal .beyondLeast).Narrows (towardZero Decimal.beyondLeast.number) .int32 32
        ((Value.decimal .beyondLeast).convert .int32) ∧
      (Value.string " -2147483648.9").convert .int32 = .ok (.int32 (-2147483648)) ∧
      intOfText? (trim "+002147483648".toList) = some 2147483648 ∧
      ∃ d, Decimal.ofText? (trim "+002147483648".toList) = some d ∧
        d.number = (2147483648 : ℤ) := by
  obtain ⟨numbers, texts⟩ := narrowing_exact .int32
  have read : Decimal.ofText? (trim " -2147483648.9".toList) = some .beyondLeast := by rfl
  have converted : (Value.decimal .beyondLeast).convert .int32 = .ok (.int32 (-2147483648)) := by
    rfl
  have integer : intOfText? (trim "+002147483648".toList) = some 2147483648 := by rfl
  exact ⟨.int32, .decimal _, numbers _ (.decimal _), (((texts _).2.1 _ read).2 _).2 converted,
    integer, (texts _).1 _ integer⟩

end TableFilter
