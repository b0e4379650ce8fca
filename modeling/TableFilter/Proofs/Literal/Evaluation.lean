import TableFilter.Proofs.Number.Digits
import TableFilter.Proofs.Statement.Joining
import TableFilter.Selection

/-!
# Texts of a single literal

A text whose tokens are those of one literal is evaluated to the value of the literal, or fails with
the error of the literal. Nothing else of the text is looked at: no level of binding goes on with
the end of the text.

A number after a minus sign is one literal, which the sign belongs to.

## Main results

* `Grammar.reader_of_signed`: a term of the tightest level that is all of a text
* `evalText_literal`: a text of one literal token
* `evalText_number`: a text of a number, after a minus sign or not
-/

namespace TableFilter

open Grammar Result TokenReader

/-! ### Operands on their own -/

namespace Grammar

variable {nested : TokenReader Term} {level tighter : Level} {t : Token} {ts : List Token}
  {r : Result Term}

/-- No level goes on with the end. -/
theorem nextRank_eof (level : Level) : nextRank [.eof] < level.rank := by
  cases level <;> decide

/-- Before the end, a term of a level without operators is that of the next tighter one. -/
theorem Chain.reader_operand (h : Chain level tighter)
    (hr : readerAt nested tighter ts = r.map fun e => (e, [.eof])) :
    readerAt nested level ts = r.map fun e => (e, [.eof]) := by
  rw [h.reader_eq, chain_apply, hr]
  cases r with
  | error e => rfl
  | ok e => exact chainFrom_of_none (operator?_eq_none (nextRank_eof level)) 1 e

theorem predicate_operand (hr : bitOperation nested ts = r.map fun e => (e, [.eof])) :
    predicate nested ts = r.map fun e => (e, [.eof]) := by
  rw [predicate_apply, hr]
  cases r with
  | error e => rfl
  | ok e =>
    have hnone := predicateStart?_eq_none (nextRank_eof .predicate) .eof
    have hend : predicateFrom nested 1 e [.eof] = .ok (e, [.eof]) := predicateFrom_of_none hnone 1 e
    exact hend

/-- A term of the tightest level that is all of a text, without a negation at its start. -/
theorem reader_of_signed (hnegation : isNegation t = false)
    (h : ∀ nested, signed (primary nested) (t :: ts) = r.map fun e => (e, [.eof])) :
    Term.reader.toEnd.run' (t :: ts) = r := by
  have hbits : ∀ nested, bitOperation nested (t :: ts) = r.map fun e => (e, [.eof]) := fun nested =>
    Chain.bits.reader_operand (Chain.sum.reader_operand (Chain.product.reader_operand (h nested)))
  have hnegated : ∀ nested, negation (predicate nested) (t :: ts) = r.map fun e => (e, [.eof]) := by
    intro nested
    rw [negation, hnegation, if_neg Bool.false_ne_true]
    exact predicate_operand (hbits nested)
  have hread : Term.reader (t :: ts) = r.map fun e => (e, [.eof]) :=
    Chain.disjunction.reader_operand (Chain.conjunction.reader_operand (hnegated _))
  change (Term.reader.toEnd (t :: ts)).map Prod.fst = r
  rw [toEnd, bind_apply, hread]
  cases r <;> rfl

end Grammar

/-! ### Evaluating -/

variable {text : String} {t : Token} {ts : List Token} {value : Result Value}

/-- A literal needs no row and no column. -/
theorem evalText_of_ofText (clock : Clock) (h : Term.ofText text = value.map .literal) :
    evalText clock text = value := by
  rw [evalText, h]
  cases value <;> rfl

theorem evalText_of_signed (clock : Clock) (h : Lexes text.toList (t :: ts))
    (hnegation : isNegation t = false)
    (hsigned : ∀ nested, signed (primary nested) (t :: ts) =
      value.map fun v => (.literal v, [.eof])) : evalText clock text = value := by
  refine evalText_of_ofText clock ?_
  rw [Term.ofText, listOfText_eq_ok.2 h, ok_bind]
  refine reader_of_signed hnegation fun nested => ?_
  rw [hsigned]
  cases value <;> rfl

/-- A token with a value is no sign and no negation. -/
theorem prefixOperator?_of_literalValue? (h : literalValue? t = some value) :
    prefixOperator? t = none := by
  cases hop : prefixOperator? t with
  | none => rfl
  | some op => cases prefixOperator?_eq_some_iff.1 hop <;> cases h

/-- What negates a predicate is a sign too. -/
theorem isNegation_of_prefixOperator? (h : prefixOperator? t = none) : isNegation t = false := by
  rw [isNegation, Bool.or_eq_false_iff, beq_eq_false_iff_ne, beq_eq_false_iff_ne]
  constructor <;> rintro rfl <;> cases h

/-- A text of one literal token has the value of the token. -/
theorem evalText_literal (clock : Clock) (h : Lexes text.toList [t, .eof])
    (hvalue : literalValue? t = some value) : evalText clock text = value := by
  have hprefix := prefixOperator?_of_literalValue? hvalue
  refine evalText_of_signed clock h (isNegation_of_prefixOperator? hprefix) fun nested => ?_
  rw [signed_of_none hprefix, primary_of_literal hvalue]

/-- A text of a number, after a minus sign or not, has the value of the number with this sign. -/
theorem evalText_number (clock : Clock) {negative : Bool}
    (h : Lexes text.toList (signedTokens negative t ++ [.eof]))
    (hvalue : numberValue? negative t = some value) : evalText clock text = value := by
  cases negative with
  | false =>
    refine evalText_literal clock h ?_
    cases t <;> first | exact hvalue | cases hvalue
  | true => exact evalText_of_signed clock h rfl fun nested => signed_number hvalue _

end TableFilter
