import TableFilter.Proofs.Evaluation.Soundness
import TableFilter.Proofs.Rereading.Basic

/-!
# What is read back is bound again

The term that the text of an expression is read as stands for the expression which it reads back as,
on the table that the expression was bound on. Columns are written by the names that they have in
the table, which may differ in case from those in the term that the expression was bound from.

## Main results

* `Table.Resolves.own_name`: a column is found by the name that it has in the table
* `Table.Binds.reread`: an expression that was bound is bound again as what it reads back as
-/

namespace TableFilter

open Text

namespace Table

variable {t : Table}

/-- A column is found by its own name too, which may differ in case. -/
theorem columnIndex?_name {name : String} {k : Nat} {c : Column} (hk : t.columnIndex? name = some k)
    (hc : t.columns[k]? = some c) : t.columnIndex? c.name = some k := by
  obtain ⟨hlength, found, -⟩ := List.findIdx?_eq_some_iff_getElem.1 hk
  obtain rfl : t.columns[k] = c := (List.getElem_eq_iff hlength).2 hc
  have same : ∀ other, sameAsciiCase other t.columns[k].name = sameAsciiCase other name := by
    intro other
    rw [sameAsciiCase, sameAsciiCase, eq_of_beq found]
  simpa only [columnIndex?, same] using hk

theorem Resolves.own_name {name : String} {b : BoundColumn} (h : t.Resolves name b) :
    t.Resolves b.head.name b := by
  cases h with
  | stored hk hc hf => exact .stored (columnIndex?_name hk hc) hc hf
  | computed hk hc hf hread hbinds =>
    exact .computed (columnIndex?_name hk hc) hc hf hread hbinds

theorem binds_literal (v : Value) : t.Binds v.reread.term v.reread := by
  cases v with
  | double x =>
    rw [Value.reread]
    split
    · exact .literal _
    · exact .call rfl (.cons (.literal _) (.cons (.literal _) .nil))
  | _ => exact .literal _

theorem binds_column {name : String} {c : BoundColumn} (h : t.Resolves name c) :
    t.Binds c.toExpr.reread.term c.toExpr.reread := by
  have hown := Binds.column h.own_name
  obtain ⟨head, _ | e⟩ := c
  · exact hown
  · exact hown

theorem length_terms_rereadAll : ∀ es : List Expr,
    (Expr.terms (Expr.rereadAll es)).length = es.length
  | [] => rfl
  | _ :: es => congrArg (· + 1) (length_terms_rereadAll es)

mutual

/-- What the written form of an expression reads back as is bound from it. -/
theorem Binds.reread {a : Term} {e : Expr} : t.Binds a e → t.Binds e.reread.term e.reread
  | .literal v => binds_literal v
  | .column h => binds_column h
  | .unary h => .unary h.reread
  | @Binds.binary _ op _ _ e f ha hb => by
    have left := ha.reread
    have right := hb.reread
    by_cases hstart : e.isNegation = true → op.isLogical = true
    · rw [Expr.reread_binary hstart]
      exact .binary left right
    · obtain ⟨hneg, hlogical⟩ := Classical.not_imp.1 hstart
      obtain hplain | ⟨x, rfl⟩ := e.isNegation_cases
      · cases hplain.symm.trans hneg
      · rw [Expr.reread, if_neg hlogical]
        cases left with
        | unary left => exact .unary (.binary left right)
  | @Binds.nullTest _ _ _ e h => by
    have operand := h.reread
    obtain hplain | ⟨x, rfl⟩ := e.isNegation_cases
    · rw [Expr.reread_nullTest hplain]
      exact .nullTest operand
    · cases operand with
      | unary operand => exact .unary (.nullTest operand)
  | @Binds.inList _ _ _ _ _ e _ h hs => by
    have probe := h.reread
    obtain hplain | ⟨x, rfl⟩ := e.isNegation_cases
    · rw [Expr.reread_inList hplain]
      exact .inList probe hs.reread
    · cases probe with
      | unary probe => exact .unary (.inList probe hs.reread)
  | .call hf hs => by
    refine .call ?_ hs.reread
    rw [length_terms_rereadAll, hs.length_eq]
    exact hf

theorem BindsAll.reread {as : List Term} {es : List Expr} :
    t.BindsAll as es → t.BindsAll (Expr.terms (Expr.rereadAll es)) (Expr.rereadAll es)
  | .nil => .nil
  | .cons h hs => .cons h.reread hs.reread

end

end Table

end TableFilter
