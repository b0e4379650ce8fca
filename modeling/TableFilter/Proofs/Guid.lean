import Mathlib.Tactic.Ring
import TableFilter.Literal
import TableFilter.Proofs.Token.Spelling

/-!
# Identifiers read back

## Main results

* `Guid.ofText?_text`: the hyphenated form of an identifier reads back
* `Guid.spells_braced`: the token of the form in braces
-/

namespace TableFilter.Guid

open TableFilter.Number TableFilter.Text

/-! ### Digits of base sixteen -/

theorem hexValue_digitChar : ∀ d < 16, hexValue (Nat.digitChar d) = d := by decide

theorem isHexDigit_digitChar : ∀ d < 16, isHexDigit (Nat.digitChar d) = true := by decide

theorem hexDigits_succ (count n : Nat) :
    hexDigits (count + 1) n =
      Nat.digitChar (n / twoTo (4 * count) % 16) :: hexDigits count n := by
  rw [hexDigits, List.range_succ, List.reverse_append, List.reverse_singleton, List.map_append]
  rfl

theorem length_hexDigits (count n : Nat) : (hexDigits count n).length = count := by
  simp [hexDigits]

theorem isHexDigit_of_mem {count n : Nat} {c : Char} (h : c ∈ hexDigits count n) :
    isHexDigit c = true := by
  obtain ⟨k, -, rfl⟩ := List.mem_map.1 h
  exact isHexDigit_digitChar _ (Nat.mod_lt _ (by decide))

theorem foldl_hex (cs : List Char) (n : Nat) :
    cs.foldl (fun n c => n * 16 + hexValue c) n = n * 16 ^ cs.length + natOfHex cs := by
  induction cs generalizing n with
  | nil => simp [natOfHex]
  | cons c cs ih =>
    rw [natOfHex, List.foldl_cons, List.foldl_cons, ih, ih (0 * 16 + hexValue c), List.length_cons]
    ring

theorem natOfHex_hexDigits (count n : Nat) : natOfHex (hexDigits count n) = n % 16 ^ count := by
  induction count with
  | zero => simp [hexDigits, natOfHex, Nat.mod_one]
  | succ count ih =>
    have hpower : twoTo (4 * count) = 16 ^ count := Nat.pow_mul 2 4 count
    rw [hexDigits_succ, natOfHex, List.foldl_cons, foldl_hex, ih, length_hexDigits,
      hexValue_digitChar _ (Nat.mod_lt _ (by decide)), hpower, Nat.mod_pow_succ]
    ring

/-! ### The hyphenated form -/

theorem isHyphenatedFrom_append (cs ds : List Char) (offset : Nat) :
    isHyphenatedFrom offset (cs ++ ds) =
      (isHyphenatedFrom offset cs && isHyphenatedFrom (offset + cs.length) ds) := by
  induction cs generalizing offset with
  | nil => simp [isHyphenatedFrom]
  | cons c cs ih =>
    rw [List.cons_append, isHyphenatedFrom, isHyphenatedFrom, ih, Bool.and_assoc, List.length_cons,
      Nat.add_right_comm, Nat.add_assoc]

/-- Digits where the hyphenated form has no hyphen. -/
theorem isHyphenatedFrom_digits {cs : List Char} : ∀ {offset : Nat},
    (∀ c ∈ cs, isHexDigit c = true) → (∀ k < cs.length, isHyphenAt (offset + k) = false) →
    isHyphenatedFrom offset cs = true := by
  induction cs with
  | nil => exact fun _ _ => rfl
  | cons c cs ih =>
    intro offset hdigits hat
    have hhere : isHyphenAt offset = false := hat 0 (Nat.succ_pos _)
    rw [isHyphenatedFrom, hhere, if_neg Bool.false_ne_true, hdigits c (.head _), Bool.true_and]
    refine ih (fun d hd => hdigits d (.tail _ hd)) fun k hk => ?_
    rw [Nat.add_assoc, Nat.add_comm 1]
    exact hat (k + 1) (Nat.succ_lt_succ hk)

/-- A group of digits after a hyphen, where the hyphenated form has them. -/
theorem isHyphenatedFrom_group {cs : List Char} {offset : Nat} (hhyphen : isHyphenAt offset = true)
    (hdigits : ∀ c ∈ cs, isHexDigit c = true)
    (hat : ∀ k < cs.length, isHyphenAt (offset + 1 + k) = false) :
    isHyphenatedFrom offset ('-' :: cs) = true := by
  rw [isHyphenatedFrom, if_pos hhyphen, beq_self_eq_true, Bool.true_and]
  exact isHyphenatedFrom_digits hdigits hat

section Hyphenated

variable {digits : List Char} (hdigits : ∀ c ∈ digits, isHexDigit c = true)

theorem groups_append (digits : List Char) :
    digits.take 8 ++ ((digits.drop 8).take 4 ++ ((digits.drop 12).take 4 ++
      ((digits.drop 16).take 4 ++ digits.drop 20))) = digits := by
  have hgroup (n : Nat) : (digits.drop n).take 4 ++ digits.drop (n + 4) = digits.drop n := by
    rw [← List.drop_drop, List.take_append_drop]
  rw [hgroup 16, hgroup 12, hgroup 8, List.take_append_drop]

include hdigits

theorem filter_hyphenated : ((hyphenated digits).filter fun c => c != '-') = digits := by
  have hkeep {cs : List Char} (h : cs ⊆ digits) : (cs.filter fun c => c != '-') = cs := by
    refine List.filter_eq_self.2 fun c hc => ?_
    rw [bne_iff_ne]
    rintro rfl
    exact absurd (hdigits _ (h hc)) (by decide)
  have hpart (n : Nat) : (digits.drop n).take 4 ⊆ digits := fun _ hc =>
    List.mem_of_mem_drop (List.mem_of_mem_take hc)
  simp only [hyphenated, List.filter_append, List.filter_cons, bne_self_eq_false,
    Bool.false_eq_true, if_false, hkeep (List.take_subset 8 digits), hkeep (hpart 8),
    hkeep (hpart 12), hkeep (hpart 16), hkeep (List.drop_subset 20 digits), List.append_assoc]
  exact groups_append digits

theorem isHyphenated_hyphenated (hlength : digits.length = digitCount) :
    isHyphenated (hyphenated digits) = true := by
  have hpart (n : Nat) : ∀ c ∈ (digits.drop n).take 4, isHexDigit c = true := fun c hc =>
    hdigits c (List.mem_of_mem_drop (List.mem_of_mem_take hc))
  rw [digitCount] at hlength
  have htake : (digits.take 8).length = 8 := by rw [List.length_take]; omega
  have hgroup (n : Nat) (hn : n ≤ 28) : ((digits.drop n).take 4).length = 4 := by
    rw [List.length_take, List.length_drop]
    omega
  have hlast : (digits.drop 20).length = 12 := by rw [List.length_drop]; omega
  rw [isHyphenated, Bool.and_eq_true, beq_iff_eq]
  constructor
  · simp only [hyphenated, List.length_append, List.length_cons, htake, hgroup 8 (by decide),
      hgroup 12 (by decide), hgroup 16 (by decide), hlast]
    rfl
  · simp only [hyphenated, isHyphenatedFrom_append, List.length_append, List.length_cons, htake,
      hgroup 8 (by decide), hgroup 12 (by decide), hgroup 16 (by decide), Bool.and_eq_true]
    refine ⟨⟨⟨⟨isHyphenatedFrom_digits (fun c hc => hdigits c (List.mem_of_mem_take hc)) ?_,
      isHyphenatedFrom_group rfl (hpart 8) ?_⟩, isHyphenatedFrom_group rfl (hpart 12) ?_⟩,
      isHyphenatedFrom_group rfl (hpart 16) ?_⟩, isHyphenatedFrom_group rfl
      (fun c hc => hdigits c (List.mem_of_mem_drop hc)) ?_⟩
    · rw [htake]
      decide
    · rw [hgroup 8 (by decide)]
      decide
    · rw [hgroup 12 (by decide)]
      decide
    · rw [hgroup 16 (by decide)]
      decide
    · rw [hlast]
      decide

end Hyphenated

/-! ### Reading -/

/-- The characters of the hyphenated form. -/
theorem mem_text {g : Guid} {c : Char} (h : c ∈ g.text) : isHexDigit c = true ∨ c = '-' := by
  by_cases hc : c = '-'
  · exact .inr hc
  · have hkept : c ∈ (hyphenated (hexDigits digitCount g.bits.toNat)).filter fun c => c != '-' :=
      List.mem_filter.2 ⟨h, bne_iff_ne.2 hc⟩
    rw [filter_hyphenated fun _ => isHexDigit_of_mem] at hkept
    exact .inl (isHexDigit_of_mem hkept)

theorem text_ne {g : Guid} {d : Char} (hd : isHexDigit d = false) (hne : d ≠ '-') : d ∉ g.text :=
  fun h => (mem_text h).elim (fun hhex => Bool.false_ne_true (hd.symm.trans hhex)) hne

theorem unwrap_eq_self {first last : Char} {cs : List Char} (h : first ∉ cs) :
    unwrap first last cs = cs := by
  unfold unwrap
  split
  · next c rest =>
    rw [if_neg]
    rw [Bool.and_eq_true, beq_iff_eq]
    exact fun hc => h (hc.1 ▸ .head _)
  · rfl

theorem trim_text (g : Guid) : trim g.text = g.text := by
  refine trim_eq_self_of_forall fun c hc => ?_
  rcases mem_text hc with h | rfl
  · exact isHexDigit_isBlank h
  · rfl

/-- The hyphenated form of an identifier reads back. -/
theorem ofText?_text (g : Guid) : ofText? g.text = some g := by
  have hdigits : ∀ c ∈ hexDigits digitCount g.bits.toNat, isHexDigit c = true := fun _ =>
    isHexDigit_of_mem
  rw [ofText?, trim_text, unwrap_eq_self (text_ne (by decide) (by decide)),
    unwrap_eq_self (text_ne (by decide) (by decide)), text,
    if_pos (isHyphenated_hyphenated hdigits (length_hexDigits _ _)), filter_hyphenated hdigits,
    natOfHex_hexDigits]
  have hsize : (16 : Nat) ^ digitCount = 2 ^ 128 := by decide
  rw [hsize, Nat.mod_eq_of_lt g.bits.isLt, BitVec.ofNat_toNat, BitVec.setWidth_eq]

theorem guidLiteral_text (g : Guid) : guidLiteral (String.ofList g.text) = .ok g := by
  rw [guidLiteral, String.toList_ofList, ofText?_text]

theorem spells_braced (g : Guid) (rest : List Char) :
    Spells g.braced (.guid (String.ofList g.text)) rest :=
  spells_guid (text_ne (by decide) (by decide)) rest

end TableFilter.Guid
