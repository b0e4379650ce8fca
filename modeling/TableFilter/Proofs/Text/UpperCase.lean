import Mathlib.Data.List.Infix
import TableFilter.Like

/-!
# The upper form of a text

The upper form of a text is put together from those of its characters, each of which has at least
one character. So a text that occurs in another still does so in upper form, though places and
lengths may differ.

Wildcards stay as they are, and nothing else becomes one. So the upper form of a pattern is open at
the same ends, and a text that is of the form of a pattern still is where both are taken in upper
form.

## Main results

* `startsWith_iff`, `endsWith_iff`, `contains_iff`: the tests of one text for another
* `startsWith_upper`, `endsWith_upper`, `contains_upper`: the tests in upper form
* `isWildcard_of_mem_upperChar`: the wildcards in the upper form of a character
* `LikePattern.ofText_upper`: the parts of a pattern in upper form
* `isLike_of_isLike_exact`: what is of a form exactly is so in any case
-/

namespace TableFilter

open CaseTables Text

namespace Text

/-! ### Tests of one text for another -/

section Tests

variable {wanted text : List Char}

theorem startsWith_iff : startsWith (· == ·) wanted text = true ↔ wanted <+: text := by
  induction wanted generalizing text with
  | nil => simp [startsWith]
  | cons w wanted ih =>
    cases text with
    | nil => simp [startsWith]
    | cons c text => rw [startsWith, Bool.and_eq_true, ih, beq_iff_eq, List.cons_prefix_cons]

theorem endsWith_iff : endsWith (· == ·) wanted text = true ↔ wanted <:+ text := by
  rw [endsWith, startsWith_iff, List.reverse_prefix]

theorem contains_iff : contains (· == ·) wanted text = true ↔ wanted <:+: text := by
  induction text with
  | nil => simp [contains]
  | cons c text ih =>
    rw [contains, Bool.or_eq_true, startsWith_iff, ih, List.infix_cons_iff]

theorem startsWith_upper (h : startsWith (· == ·) wanted text = true) :
    startsWith (· == ·) (upper wanted) (upper text) = true :=
  startsWith_iff.2 ((startsWith_iff.1 h).flatMap upperChar)

theorem endsWith_upper (h : endsWith (· == ·) wanted text = true) :
    endsWith (· == ·) (upper wanted) (upper text) = true :=
  endsWith_iff.2 ((endsWith_iff.1 h).flatMap upperChar)

theorem contains_upper (h : contains (· == ·) wanted text = true) :
    contains (· == ·) (upper wanted) (upper text) = true :=
  contains_iff.2 ((contains_iff.1 h).flatMap upperChar)

end Tests

/-! ### Wildcards in upper form -/

theorem isWildcard_eq_false_iff {c : Char} :
    isWildcard c = false ↔ c.toNat ≠ 37 ∧ c.toNat ≠ 42 := by
  rw [isWildcard, Bool.or_eq_false_iff, beq_eq_false_iff_ne, beq_eq_false_iff_ne, Ne, Ne,
    ← Char.toNat_inj, ← Char.toNat_inj]
  exact Iff.rfl

theorem isWildcard_of_lt {c : Char} (h : 42 < c.toNat) : isWildcard c = false :=
  isWildcard_eq_false_iff.2 ⟨by omega, by omega⟩

/-- The character of a number above those of the wildcards is none. If there is no character of this
number, the null character stands for it. -/
theorem isWildcard_ofNat {n : Nat} (h : 42 < n) : isWildcard (Char.ofNat n) = false := by
  by_cases hvalid : n.isValidChar
  · rw [Char.ofNat, dif_pos hvalid]
    exact isWildcard_of_lt h
  · rw [Char.ofNat, dif_neg hvalid]
    rfl

/-- No letter has a wildcard as its upper form. -/
theorem lt_image_of_mem_upperRuns {r : CaseRun} (hr : r ∈ upperRuns) {n : Nat}
    (hn : r.covers n = true) : 42 < r.image n := by
  -- A run shifts all of its code points alike, so that its first one is the least afterwards too.
  have above : ∀ r ∈ upperRuns, (42 : Int) < r.first + r.shift := by decide +kernel
  have hfirst : r.first ≤ n := by
    simp only [CaseRun.covers, Bool.and_eq_true, decide_eq_true_eq] at hn
    exact hn.1.1
  have hr := above r hr
  rw [CaseRun.image]
  omega

/-- The characters of the upper form of a character are wildcards exactly if it is one. -/
theorem isWildcard_of_mem_upperChar {c d : Char} (h : d ∈ upperChar c) :
    isWildcard d = isWildcard c := by
  by_cases hascii : c.toNat < 128
  · rw [upperChar, if_pos hascii] at h
    split at h
    case isTrue hletter =>
      simp only [Bool.and_eq_true, decide_eq_true_eq] at hletter
      rw [List.mem_singleton.1 h, isWildcard_ofNat (by omega), isWildcard_of_lt (by omega)]
    case isFalse => rw [List.mem_singleton.1 h]
  · rw [upperChar, if_neg hascii] at h
    rw [isWildcard_of_lt (c := c) (by omega)]
    cases hexpansion : upperExpansions.find? (·.1 == c.toNat) with
    | some e =>
      rw [hexpansion] at h
      have above : ∀ e ∈ upperExpansions, ∀ n ∈ e.2, 42 < n := by decide +kernel
      obtain ⟨n, hn, rfl⟩ := List.mem_map.1 h
      exact isWildcard_ofNat (above e (List.mem_of_find?_eq_some hexpansion) n hn)
    | none =>
      rw [hexpansion] at h
      rw [List.mem_singleton.1 h, alongRuns]
      split
      case h_1 r hr =>
        have covers : r.covers c.toNat = true := by simpa using List.find?_some hr
        exact isWildcard_ofNat (lt_image_of_mem_upperRuns (List.mem_of_find?_eq_some hr) covers)
      case h_2 => exact isWildcard_of_lt (by omega)

theorem upperChar_ne_nil (c : Char) : upperChar c ≠ [] := by
  unfold upperChar
  split
  · split <;> exact List.cons_ne_nil _ _
  · split
    case h_1 e he =>
      have nonempty : ∀ e ∈ upperExpansions, e.2 ≠ [] := by decide +kernel
      exact fun h => nonempty e (List.mem_of_find?_eq_some he) (List.map_eq_nil_iff.1 h)
    case h_2 => exact List.cons_ne_nil _ _

theorem upperChar_of_isWildcard {c : Char} (h : isWildcard c = true) : upperChar c = [c] := by
  rw [isWildcard, Bool.or_eq_true, beq_iff_eq, beq_iff_eq] at h
  rcases h with rfl | rfl <;> rfl

/-! ### Wildcards at the ends of a text -/

theorem upper_append (text text' : List Char) : upper (text ++ text') = upper text ++ upper text' :=
  List.flatMap_append

theorem upper_singleton (c : Char) : upper [c] = upperChar c := List.flatMap_singleton ..

theorem head?_any_upper (text : List Char) :
    (upper text).head?.any isWildcard = text.head?.any isWildcard := by
  cases text with
  | nil => rfl
  | cons c text =>
    obtain ⟨d, ds, hd⟩ := List.exists_cons_of_ne_nil (upperChar_ne_nil c)
    rw [upper, List.flatMap_cons, hd]
    exact isWildcard_of_mem_upperChar (hd ▸ List.mem_cons_self ..)

theorem getLast?_any_upper (text : List Char) :
    (upper text).getLast?.any isWildcard = text.getLast?.any isWildcard := by
  cases text using List.reverseRecOn with
  | nil => rfl
  | append_singleton text c =>
    obtain ⟨ds, d, hd⟩ := (List.eq_nil_or_concat' (upperChar c)).resolve_left (upperChar_ne_nil c)
    rw [upper_append, upper_singleton, hd, ← List.append_assoc, List.getLast?_concat,
      List.getLast?_concat]
    exact isWildcard_of_mem_upperChar (hd ▸ List.mem_append_right _ (List.mem_singleton_self _))

/-- Leaving out a wildcard at the start, if there is one. -/
theorem upper_tail (text : List Char) :
    (if text.head?.any isWildcard then (upper text).tail else upper text) =
      upper (if text.head?.any isWildcard then text.tail else text) := by
  split
  case isTrue h =>
    cases text with
    | nil => rfl
    | cons c text =>
      rw [upper, List.flatMap_cons, upperChar_of_isWildcard h]
      rfl
  case isFalse => rfl

/-- Leaving out a wildcard at the end, if there is one. -/
theorem upper_dropLast (text : List Char) :
    (if text.getLast?.any isWildcard then (upper text).dropLast else upper text) =
      upper (if text.getLast?.any isWildcard then text.dropLast else text) := by
  split
  case isTrue h =>
    cases text using List.reverseRecOn with
    | nil => rfl
    | append_singleton text c =>
      rw [List.getLast?_concat] at h
      rw [upper_append, upper_singleton, upperChar_of_isWildcard h, List.dropLast_concat,
        List.dropLast_concat]
  case isFalse => rfl

end Text

/-! ### Patterns in upper form -/

namespace LikePattern

/-- A pattern in upper form is open at the same ends. -/
theorem ofText_upper (pattern : List Char) :
    ofText (upper pattern) = { ofText pattern with core := upper (ofText pattern).core } := by
  simp only [ofText, head?_any_upper, upper_tail, getLast?_any_upper, upper_dropLast]

/-- A text of a pattern's form is so in upper form. -/
theorem accepts_upper {p : LikePattern} {text : List Char} (h : p.accepts text = true) :
    { p with core := upper p.core }.accepts (upper text) = true := by
  obtain ⟨openStart, core, openEnd⟩ := p
  cases openStart <;> cases openEnd
  · rw [accepts, beq_iff_eq] at h ⊢
    exact congrArg upper h
  · exact startsWith_upper h
  · exact endsWith_upper h
  · exact contains_upper h

end LikePattern

/-- A text that is of a pattern's form exactly is so in any case. -/
theorem isLike_of_isLike_exact {text pattern : String} (h : isLike true text pattern = true) :
    isLike false text pattern = true := by
  change (LikePattern.ofText (upper pattern.toList)).accepts (upper text.toList) = true
  rw [LikePattern.ofText_upper]
  exact LikePattern.accepts_upper h

end TableFilter
