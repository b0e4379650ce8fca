import Mathlib
import TableFilter.Proofs.Statement.Reading
import TableFilter.Proofs.Token.Joining

/-!
# Filters on lines of their own

A filter is put together from the tokens up. Two texts with a line end between them have the tokens
of both, and two filters with a line end and a semicolon between them are the statements of both. A
comment at the end of the first text does not reach into the second, and no statement reads past
the semicolon.

## Main results

* `statement_listOfText_iff`, `orderItem_listOfText_iff`, `term_ofText_iff`: texts and the grammar
* `listOfText_lines`: tokens and statements of two texts
-/

namespace TableFilter

open Grammar

variable {text : String} {ts : List Token}

/-! ### Texts and the grammar -/

/-- The end is the last token of a text and comes nowhere else. -/
theorem Lexes.eq_beforeEnd {cs : List Char} (h : Lexes cs ts) : ts = beforeEnd ts ++ [.eof] := by
  induction h with
  | done => rfl
  | token _ scan _ ih => rw [beforeEnd_cons (scanToken_ne_eof (scan 0)), List.cons_append, ← ih]

theorem Lexes.dropLast_eq {cs : List Char} (h : Lexes cs ts) : ts.dropLast = beforeEnd ts := by
  conv_lhs => rw [h.eq_beforeEnd]
  exact List.dropLast_concat

theorem statement_listOfText_iff {ss : List Statement} :
    Statement.listOfText text = .ok ss ↔
      ∃ ts, Lexes text.toList ts ∧ DerivesStatements (beforeEnd ts) ss := by
  simp only [Statement.listOfText, Result.bind_eq_ok, listOfText_eq_ok, statements_run'_iff]

theorem orderItem_listOfText_iff {items : List OrderItem} :
    OrderItem.listOfText text = .ok items ↔
      ∃ ts, Lexes text.toList ts ∧ DerivesItems (beforeEnd ts) items := by
  simp only [OrderItem.listOfText, Result.bind_eq_ok, listOfText_eq_ok, orderItems_run'_iff]

theorem term_ofText_iff {e : Term} :
    Term.ofText text = .ok e ↔
      ∃ ts, Lexes text.toList ts ∧ Derives .disjunction (beforeEnd ts) e := by
  simp only [Term.ofText, Result.bind_eq_ok, listOfText_eq_ok, reader_run'_iff]

/-! ### Two texts -/

/-- The tokens of two texts with a line end between them. -/
theorem Lexes.beforeEnd_line {f g : List Char} {us : List Token} (hf : Lexes f ts)
    (hg : Lexes g us) : Lexes (f ++ '\n' :: g) (beforeEnd ts ++ us) :=
  hf.dropLast_eq ▸ hf.line hg

/-- A semicolon before a text. -/
theorem Lexes.cons_semicolon {cs : List Char} (h : Lexes cs ts) :
    Lexes (';' :: cs) (.symbol .semicolon :: ts) :=
  (spells_semicolon cs).cons h

/-- **Filters are put together line by line.** Of two texts with a line end between them the tokens
are those of the first without its end and then those of the second. Of two filters with a line end
and a semicolon between them the statements are those of the first and then those of the second. -/
theorem listOfText_lines (f g : String) :
    (∀ a b, Token.listOfText f = .ok a → Token.listOfText g = .ok b →
      ∃ shown, a = shown ++ [.eof] ∧ Token.listOfText (f ++ "\n" ++ g) = .ok (shown ++ b)) ∧
    ∀ ss rs, Statement.listOfText f = .ok ss → Statement.listOfText g = .ok rs →
      Statement.listOfText (f ++ "\n;" ++ g) = .ok (ss ++ rs) := by
  constructor
  · intro a b ha hb
    have hf := listOfText_eq_ok.1 ha
    refine ⟨beforeEnd a, hf.eq_beforeEnd, listOfText_eq_ok.2 ?_⟩
    simpa using hf.beforeEnd_line (listOfText_eq_ok.1 hb)
  · intro ss rs hss hrs
    obtain ⟨a, hf, hfirst⟩ := statement_listOfText_iff.1 hss
    obtain ⟨b, hg, hsecond⟩ := statement_listOfText_iff.1 hrs
    refine statement_listOfText_iff.2 ⟨_, by simpa using hf.beforeEnd_line hg.cons_semicolon, ?_⟩
    rw [beforeEnd_append (eof_notMem_beforeEnd a), beforeEnd_cons (by decide)]
    exact hfirst.append hsecond

/-- A filter that ends with a comment. -/
def commentedFilter : String := "Name = 'it''s' -- all"

/-- A filter that is an identifier without braces. -/
def bareFilter : String := "0f9c3a4b-1111-2222-3333-444455556666"

/-- A comment ends with the line it stands in, and an identifier without braces is found in the
line after it. -/
theorem commentedFilter_bareFilter_lines :
    (Token.listOfText commentedFilter =
        .ok [.identifier "Name", .symbol .equal, .string "it's", .eof] ∧
      Token.listOfText bareFilter = .ok [.guid bareFilter, .eof] ∧
      Token.listOfText (commentedFilter ++ "\n" ++ bareFilter) =
        .ok [.identifier "Name", .symbol .equal, .string "it's", .guid bareFilter, .eof]) ∧
    ∃ named identified, Statement.listOfText commentedFilter = .ok [named] ∧
      Statement.listOfText bareFilter = .ok [identified] ∧
      Statement.listOfText (commentedFilter ++ "\n;" ++ bareFilter) =
        .ok [named, identified] := by
  have hfirst : Token.listOfText commentedFilter =
      .ok [.identifier "Name", .symbol .equal, .string "it's", .eof] := by cbv
  have hsecond : Token.listOfText bareFilter = .ok [.guid bareFilter, .eof] := by cbv
  have hnamed : Statement.listOfText commentedFilter = .ok [.condition
      (.binary (.comparison (.equal false)) (.column "Name") (.literal (.string "it's")))] := by cbv
  have hidentified : Statement.listOfText bareFilter =
      .ok [.identifier (.guid ⟨0x0f9c3a4b111122223333444455556666⟩)] := by cbv
  obtain ⟨tokens, statements⟩ := listOfText_lines commentedFilter bareFilter
  obtain ⟨shown, hshown, hlines⟩ := tokens _ _ hfirst hsecond
  obtain rfl : [.identifier "Name", .symbol .equal, .string "it's"] = shown :=
    List.append_cancel_right hshown
  exact ⟨⟨hfirst, hsecond, hlines⟩, _, _, hnamed, hidentified,
    statements _ _ hnamed hidentified⟩

end TableFilter
