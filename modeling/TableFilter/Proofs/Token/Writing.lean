import TableFilter.Proofs.Token.Spelling

/-!
# Texts that are put together

A text is written part by part. A part has the same tokens wherever it stands, as long as a
separator comes after it, so the tokens of a text are those of its parts one after the other. Blanks
are written where no other separator is.

## Main definitions

* `Writes`: the tokens that a text has wherever a separator comes after it

## Main results

* `spells_symbol`: signs before a separator
* `Writes.append`, `Writes.cons`, `Writes.blank`, `Writes.parentheses`: texts from their parts
-/

namespace TableFilter

/-! ### Signs -/

theorem spells_rightParen (rest : List Char) : Spells [')'] (.symbol .rightParen) rest :=
  ⟨⟨_, _, rfl, rfl⟩, rfl⟩

theorem spells_comma (rest : List Char) : Spells [','] (.symbol .comma) rest :=
  ⟨⟨_, _, rfl, rfl⟩, rfl⟩

/-- A sign before a separator. None of the separators makes a longer sign of it. -/
theorem spells_symbol {rest : List Char} (s : Symbol) (hrest : Separated rest) :
    Spells s.text.toList (.symbol s) rest := by
  cases rest with
  | nil => cases s <;> exact ⟨⟨_, _, rfl, rfl⟩, rfl⟩
  | cons c rest =>
    have hc := mem_of_isSeparator (hrest c rfl)
    simp only [List.mem_cons, List.not_mem_nil, or_false] at hc
    rcases hc with rfl | rfl | rfl | rfl | rfl <;> cases s <;> exact ⟨⟨_, _, rfl, rfl⟩, rfl⟩

/-! ### Parts of texts -/

/-- A text with the tokens that it has wherever a separator comes after it, or nothing. -/
def Writes (cs : List Char) (ts : List Token) : Prop :=
  ∀ ⦃rest : List Char⦄ ⦃us : List Token⦄, Separated rest → Lexes rest us →
    Lexes (cs ++ rest) (ts ++ us)

namespace Writes

variable {c : Char} {cs ds : List Char} {t : Token} {ts us : List Token}

theorem nil : Writes [] [] := fun _ _ _ next => next

/-- The tokens of a text that nothing comes after. -/
theorem lexes (h : Writes cs ts) : Lexes cs (ts ++ [.eof]) := by
  have hlexes := h separated_nil (.done rfl)
  rwa [List.append_nil] at hlexes

/-- A text that is one token before a separator. -/
theorem of_spells (h : ∀ {rest}, Separated rest → Spells cs t rest) : Writes cs [t] :=
  fun _ _ hrest next => (h hrest).cons next

/-- A text goes on with another one that starts with a separator. -/
theorem append (h : Writes cs ts) (separator : isSeparator c = true) (hds : Writes (c :: ds) us) :
    Writes (cs ++ c :: ds) (ts ++ us) := by
  intro rest vs hrest next
  rw [List.append_assoc, List.append_assoc]
  exact h (separated_cons separator _) (hds hrest next)

/-- A character that is a token before any text. -/
theorem cons (spells : ∀ rest, Spells [c] t rest) (h : Writes cs ts) :
    Writes (c :: cs) (t :: ts) :=
  fun _ _ hrest next => (spells _).cons (h hrest next)

theorem blank (h : Writes cs ts) : Writes (' ' :: cs) ts :=
  fun _ _ hrest next => .cons_blank (by decide) (h hrest next)

theorem rightParen : Writes [')'] [.symbol .rightParen] := .cons spells_rightParen .nil

/-- A text in parentheses. -/
theorem parentheses (h : Writes cs ts) :
    Writes ('(' :: (cs ++ [')'])) (.symbol .leftParen :: (ts ++ [.symbol .rightParen])) :=
  .cons spells_leftParen (h.append rfl .rightParen)

/-- Two texts with a blank between them. -/
theorem spaced (h : Writes cs ts) (hds : Writes ds us) : Writes (cs ++ ' ' :: ds) (ts ++ us) :=
  h.append rfl hds.blank

theorem keyword (k : Keyword) : Writes k.text.toList [.keyword k] := .of_spells (spells_keyword k)

theorem symbol (s : Symbol) : Writes s.text.toList [.symbol s] := .of_spells (spells_symbol s)

theorem name {name : String} (h : IsName name) : Writes name.toList [.identifier name] :=
  .of_spells h.spells

end Writes

end TableFilter
