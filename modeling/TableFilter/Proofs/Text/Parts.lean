import TableFilter.Proofs.Text.Search
import TableFilter.Proofs.Text.UpperCase

/-!
# Cutting and replacing

A scan, a cut and a replacement each go through a text on their own, with the same rule for where an
occurrence is met: from left to right, each after the end of the one before. So they meet the same
occurrences. A replacement gives the parts of the cut joined anew, and there is one part more than
there are occurrences.

All proofs are by induction on what is left of the text. What was read of the current part, and how
much of an occurrence is still to be left out, are arbitrary in them.

## Main definitions

* `ReadClear`: a part of which no occurrence has started, up to where it was read

## Main results

* `intercalate_split`: the parts of a text with something else between them
* `length_split`, `length_split_le`: how many parts there are
* `replace_self`: an occurrence replaced by itself
* `not_isInfix_of_mem_split`: no part has the pattern in it
-/

namespace TableFilter.Text

section Steps

variable {same : Char → Char → Bool} {pattern replacement part text : List Char} {skip : ℕ}

theorem splitFrom_ne_nil : splitFrom same pattern part skip text ≠ [] := by
  induction text generalizing part skip with
  | nil => exact List.cons_ne_nil _ _
  | cons c text ih =>
    rw [splitFrom]
    split
    · exact ih
    · split
      · exact List.cons_ne_nil _ _
      · exact ih

/-- The parts that are left, the current one included, with the replacement between them. -/
theorem intercalate_splitFrom :
    replacement.intercalate (splitFrom same pattern part skip text) =
      part.reverse ++ replaceFrom same pattern replacement skip text := by
  induction text generalizing part skip with
  | nil => rw [splitFrom, replaceFrom, List.intercalate_singleton, List.append_nil]
  | cons c text ih =>
    rw [splitFrom, replaceFrom]
    split
    · exact ih
    · split
      · rw [List.intercalate_cons_of_ne_nil splitFrom_ne_nil, ih, List.reverse_nil, List.nil_append,
          List.append_assoc]
      · rw [ih, List.reverse_cons, List.append_assoc, List.singleton_append]

/-- Each occurrence that a scan meets ends a part, and the end of the text ends the last one. -/
theorem length_splitFrom (hpattern : pattern ≠ []) (offset : ℕ) :
    (splitFrom same pattern part skip text).length =
      (scanFrom same pattern offset skip text).length + 1 := by
  induction text generalizing part skip offset with
  | nil =>
    rw [splitFrom, scanFrom_nil hpattern]
    rfl
  | cons c text ih =>
    rw [splitFrom, scanFrom]
    split
    · exact ih _
    · split
      · rw [List.length_cons, List.length_cons, ih]
      · exact ih _

theorem length_splitFrom_le : (splitFrom same pattern part skip text).length ≤ text.length + 1 := by
  induction text generalizing part skip with
  | nil => exact le_rfl
  | cons c text ih =>
    rw [splitFrom, List.length_cons]
    split
    · exact ih.trans (Nat.le_succ _)
    · split
      · rw [List.length_cons]
        exact Nat.succ_le_succ ih
      · exact ih.trans (Nat.le_succ _)

end Steps

/-! ### Occurrences that are equal to the pattern -/

section Equal

variable {pattern part text : List Char} {skip : ℕ}

theorem replaceFrom_self (hpattern : pattern ≠ []) :
    replaceFrom (· == ·) pattern pattern skip text = text.drop skip := by
  induction text generalizing skip with
  | nil => rw [replaceFrom, List.drop_nil]
  | cons c text ih =>
    rw [replaceFrom]
    split
    case isTrue hskip =>
      obtain ⟨n, rfl⟩ := Nat.exists_eq_add_one.2 hskip
      exact ih
    case isFalse hskip =>
      obtain rfl := Nat.eq_zero_of_not_pos hskip
      rw [List.drop_zero]
      split
      case isTrue hstarts =>
        obtain ⟨rest, hrest⟩ := startsWith_iff.1 hstarts
        rw [ih, ← hrest]
        cases pattern with
        | nil => exact absurd rfl hpattern
        | cons p pattern =>
          rw [List.cons_append, List.cons.injEq] at hrest
          rw [← hrest.2, List.length_cons, Nat.add_sub_cancel, List.drop_left]
      case isFalse => rw [ih, List.drop_zero]

/-- The pattern does not occur from a character of the current part on, not even where it would go
on beyond what was read. `part` is what was read, in reverse. -/
def ReadClear (pattern part text : List Char) : Prop :=
  ∀ before after, part.reverse = before ++ after → after ≠ [] → ¬pattern <+: after ++ text

theorem ReadClear.nil (pattern text : List Char) : ReadClear pattern [] text :=
  fun _ _ hread hafter => absurd (List.append_eq_nil_iff.1 hread.symm).2 hafter

/-- One more character is read, at which the pattern does not occur. -/
theorem ReadClear.cons {c : Char} (h : ReadClear pattern part (c :: text))
    (hstarts : ¬pattern <+: c :: text) : ReadClear pattern (c :: part) text := by
  intro before after hread hafter
  obtain ⟨after, d, rfl⟩ := (List.eq_nil_or_concat' after).resolve_left hafter
  rw [List.reverse_cons, ← List.append_assoc] at hread
  obtain ⟨hbefore, rfl⟩ := List.append_singleton_inj.1 hread
  rw [List.append_assoc, List.singleton_append]
  cases after with
  | nil => exact hstarts
  | cons a after => exact h before _ hbefore (List.cons_ne_nil _ _)

/-- Where the current part ends, the pattern is not in it. -/
theorem ReadClear.not_isInfix (h : ReadClear pattern part text) (hpattern : pattern ≠ []) :
    ¬pattern <:+: part.reverse := by
  rintro ⟨before, after, hread⟩
  refine h before (pattern ++ after) (by rw [← hread, List.append_assoc]) ?_ ?_
  · exact List.append_ne_nil_of_left_ne_nil hpattern _
  · rw [List.append_assoc]
    exact List.prefix_append _ _

/-- No part has the pattern in it. -/
theorem not_isInfix_of_mem_splitFrom (hpattern : pattern ≠ []) (hskip : 0 < skip → part = [])
    (hclear : ReadClear pattern part text) {p : List Char}
    (hp : p ∈ splitFrom (· == ·) pattern part skip text) : ¬pattern <:+: p := by
  induction text generalizing part skip with
  | nil =>
    rw [splitFrom, List.mem_singleton] at hp
    rw [hp]
    exact hclear.not_isInfix hpattern
  | cons c text ih =>
    rw [splitFrom] at hp
    split at hp
    case isTrue h =>
      obtain rfl := hskip h
      exact ih (fun _ => rfl) (.nil _ _) hp
    case isFalse =>
      split at hp
      case isTrue =>
        rcases List.mem_cons.1 hp with rfl | hp
        · exact hclear.not_isInfix hpattern
        · exact ih (fun _ => rfl) (.nil _ _) hp
      case isFalse hstarts =>
        rw [startsWith_iff] at hstarts
        exact ih (fun h => absurd h (Nat.lt_irrefl 0)) (hclear.cons hstarts) hp

end Equal

/-! ### Texts as a whole -/

section Whole

variable {pattern replacement text : List Char}

/-- A text with its occurrences replaced is its parts with the replacement between them. -/
theorem intercalate_split (same : Char → Char → Bool) :
    replacement.intercalate (split same pattern text) = replace same pattern replacement text := by
  rw [split, intercalate_splitFrom, List.reverse_nil, List.nil_append, replace]

theorem split_ne_nil (same : Char → Char → Bool) : split same pattern text ≠ [] := splitFrom_ne_nil

/-- There is one part more than there are occurrences. -/
theorem length_split (same : Char → Char → Bool) (hpattern : pattern ≠ []) :
    (split same pattern text).length = (scan same pattern text).length + 1 :=
  length_splitFrom hpattern 0

theorem length_split_le (same : Char → Char → Bool) :
    (split same pattern text).length ≤ text.length + 1 := length_splitFrom_le

theorem replace_self (hpattern : pattern ≠ []) :
    replace (· == ·) pattern pattern text = text := by
  rw [replace, replaceFrom_self hpattern, List.drop_zero]

theorem not_isInfix_of_mem_split (hpattern : pattern ≠ []) {p : List Char}
    (hp : p ∈ split (· == ·) pattern text) : ¬pattern <:+: p :=
  not_isInfix_of_mem_splitFrom hpattern (fun _ => rfl) (.nil _ _) hp

end Whole

end TableFilter.Text
