import Mathlib.Data.Nat.Basic
import TableFilter.Literal
import TableFilter.Proofs.Token.Spelling

/-!
# Written naturals and integers

The digits that are written for a number are read as this number, with zeros before them or not.

## Main results

* `natOfDigits_natText`, `natOfDigits_padded`: what the digits of a natural are read as
* `pointAt_eq`: digits with a point are the digits of the whole part and of the places
* `intOfText?_intText`: an integer of 64 bits reads back
* `lexes_signed`, `lexes_intText`: the tokens of a number after a sign and of an integer
-/

namespace TableFilter

open TableFilter.Number TableFilter.Text

/-! ### The number that digits stand for -/

theorem natOfDigits_eq (cs : List Char) : natOfDigits cs = Nat.ofDigitChars 10 cs 0 := by
  rw [natOfDigits, Nat.ofDigitChars]
  congr 1
  funext n c
  rw [Nat.mul_comm]
  rfl

theorem natOfDigits_append (cs ds : List Char) :
    natOfDigits (cs ++ ds) = natOfDigits cs * tenTo ds.length + natOfDigits ds := by
  rw [natOfDigits_eq, natOfDigits_eq, natOfDigits_eq, Nat.ofDigitChars_append,
    Nat.ofDigitChars_eq_ofDigitChars_zero, Nat.mul_comm]
  rfl

@[simp] theorem natOfDigits_natText (n : Nat) : natOfDigits (natText n) = n := by
  rw [natOfDigits_eq, natText, Nat.ofDigitChars_ten_toDigits]

theorem isDigits_natText (n : Nat) : IsDigits (natText n) :=
  ⟨Nat.toDigits_ne_nil, fun _ hc => Nat.isDigit_of_mem_toDigits (by decide) (by decide) hc⟩

theorem length_natText_le {n k : Nat} (hk : 0 < k) : (natText n).length ≤ k ↔ n < tenTo k :=
  Nat.length_toDigits_le_iff (by decide) hk

/-! ### Padded digits -/

theorem length_padded (width n : Nat) :
    (padded width n).length = max width (natText n).length := by
  simp only [padded, List.length_append, List.length_replicate]
  omega

@[simp] theorem natOfDigits_padded (width n : Nat) : natOfDigits (padded width n) = n := by
  rw [padded, natOfDigits_eq, Nat.ofDigitChars_append, Nat.ofDigitChars_replicate_zero,
    Nat.mul_zero, ← natOfDigits_eq, natOfDigits_natText]

theorem isDigits_padded (width n : Nat) : IsDigits (padded width n) := by
  refine ⟨List.append_ne_nil_of_right_ne_nil _ (isDigits_natText n).1, fun c hc => ?_⟩
  rcases List.mem_append.1 hc with hc | hc
  · rw [List.eq_of_mem_replicate hc]
    rfl
  · exact (isDigits_natText n).2 c hc

/-- Digits with a point are the digits of the whole part, the point, and a digit for each place. -/
theorem pointAt_eq {places : Nat} (h : places ≠ 0) (n : Nat) :
    ∃ whole fraction, pointAt places n = whole ++ '.' :: fraction ∧ IsDigits whole ∧
      IsDigits fraction ∧ fraction.length = places ∧ natOfDigits (whole ++ fraction) = n := by
  have hdigits := (isDigits_padded (places + 1) n).2
  have hlength := length_padded (places + 1) n
  generalize hds : padded (places + 1) n = digits at hdigits hlength
  refine ⟨digits.take (digits.length - places), digits.drop (digits.length - places), ?_, ?_, ?_,
    ?_, ?_⟩
  · rw [pointAt, if_neg (by simpa using h), hds]
  · exact ⟨List.ne_nil_of_length_pos (by rw [List.length_take]; omega),
      fun c hc => hdigits c (List.mem_of_mem_take hc)⟩
  · exact ⟨List.ne_nil_of_length_pos (by rw [List.length_drop]; omega),
      fun c hc => hdigits c (List.mem_of_mem_drop hc)⟩
  · rw [List.length_drop]
    omega
  · rw [List.take_append_drop, ← hds, natOfDigits_padded]

/-! ### Signs -/

section Signs

variable {digits rest : List Char} {ts : List Token} {t : Token}

/-- The tokens of a number with a sign. -/
def signedTokens (negative : Bool) (t : Token) : List Token :=
  if negative then [.symbol .minus, t] else [t]

theorem lexes_signed (negative : Bool) {c : Char} (hhead : digits.head? = some c) (hc : c ≠ '-')
    (h : Spells digits t rest) (next : Lexes rest ts) :
    Lexes (signed negative digits ++ rest) (signedTokens negative t ++ ts) := by
  have hlexes := h.cons next
  obtain ⟨more, rfl⟩ := List.head?_eq_some_iff.1 hhead
  cases negative with
  | false => exact hlexes
  | true =>
    have hminus : Spells ['-'] (.symbol .minus) (c :: more ++ rest) :=
      spells_minus fun heq => hc (Option.some.inj heq)
    exact hminus.cons hlexes

theorem takeSign_signed (negative : Bool) {c : Char} (hhead : digits.head? = some c)
    (hc : isDigit c = true ∨ c = '.') : takeSign (signed negative digits) = (negative, digits) := by
  cases negative with
  | true => rfl
  | false =>
    obtain ⟨more, rfl⟩ := List.head?_eq_some_iff.1 hhead
    rw [signed, if_neg Bool.false_ne_true]
    unfold takeSign
    split
    · next heq => cases heq; exact absurd hc (by decide)
    · next heq => cases heq; exact absurd hc (by decide)
    · rfl

end Signs

theorem IsDigits.all {digits : List Char} (h : IsDigits digits) : digits.all isDigit = true :=
  List.all_eq_true.2 h.2

theorem IsDigits.exists_head {digits : List Char} (h : IsDigits digits) :
    ∃ c, digits.head? = some c ∧ isDigit c = true := by
  obtain ⟨c, more, rfl⟩ := List.exists_cons_of_ne_nil h.1
  exact ⟨c, rfl, h.2 c (.head _)⟩

theorem toList_signedText (negative : Bool) (text : String) :
    (signedText negative text).toList = signed negative text.toList := by
  unfold signedText signed
  split
  · rw [String.toList_append]
    rfl
  · rfl

/-! ### Integers -/

theorem intText_eq (i : Int) : intText i = signed (i < 0) (natText i.natAbs) := by
  unfold intText signed
  split <;> simp [*]

/-- An integer of 64 bits reads back. -/
theorem intOfText?_intText {i : Int} (h : fitsInt64 i = true) :
    intOfText? (intText i) = some i := by
  have hdigits := isDigits_natText i.natAbs
  obtain ⟨c, hhead, hc⟩ := hdigits.exists_head
  have hvalue : (if decide (i < 0) = true then -(i.natAbs : Int) else i.natAbs) = i := by
    split
    · next hneg =>
      have := of_decide_eq_true hneg
      omega
    · next hneg =>
      have := of_decide_eq_false (Bool.not_eq_true _ ▸ hneg)
      omega
  rw [intText_eq, intOfText?, takeSign_signed _ hhead (.inl hc)]
  dsimp only
  rw [hdigits.isEmpty, hdigits.all, natOfDigits_natText, hvalue, h]
  rfl

/-- The tokens of an integer. -/
def intTokens (i : Int) : List Token :=
  signedTokens (i < 0) (.integer (String.ofList (natText i.natAbs)))

theorem lexes_intText (i : Int) {rest : List Char} {ts : List Token} (hrest : Separated rest)
    (next : Lexes rest ts) : Lexes (intText i ++ rest) (intTokens i ++ ts) := by
  have hdigits := isDigits_natText i.natAbs
  obtain ⟨c, hhead, hc⟩ := hdigits.exists_head
  rw [intText_eq]
  exact lexes_signed _ hhead (hdigits.ne_of_head hhead (by decide))
    (spells_integer hdigits hrest) next

end TableFilter
