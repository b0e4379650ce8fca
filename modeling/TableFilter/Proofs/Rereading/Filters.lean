import TableFilter.Proofs.Catalog.DataSets
import TableFilter.Proofs.Literal.ReadBack
import TableFilter.Proofs.Rereading.Meaning
import TableFilter.Proofs.Rereading.Statements
import TableFilter.Tree.Rows

/-!
# Written filters are read back

The texts of the bound statements of a filter, with semicolons between them, are a filter again. It
is bound as what the statements read back as. A bound statement whose expression keeps its meaning
selects the rows that it selected, in the same order.

## Main results

* `Tree.reread_rows`: what a bound statement reads back as selects the same rows
* `Request.trees_read_back`: bound statements are written, read and bound again
-/

namespace TableFilter

open Grammar

/-! ### Rows -/

namespace Tree

variable {tree : Tree}

/-- A limit that is not written keeps all rows. -/
theorem limited_reread (limit : Int) (places : List Nat) :
    limited (if 0 ≤ limit then limit else noLimit) places = limited limit places := by
  split
  · rfl
  · next hneg =>
    rw [limited, limited, if_pos (by decide), if_pos (by omega)]

/-- What a bound statement reads back as selects the rows that the statement selects, in the same
order, if its expression keeps its meaning. -/
theorem reread_rows (h : tree.root.KeepsMeaning) (clock : Clock) (rows : List Row) :
    tree.reread.rows clock rows = tree.rows clock rows := by
  have hselects (row : Row) : tree.reread.selects clock row = tree.selects clock row := by
    rw [selects, selects, Expr.evalOn, Expr.evalOn, reread, h.eval_eq]
  have hmatching : tree.reread.matching clock rows = tree.matching clock rows := by
    simp only [matching, hselects]
  rw [Tree.rows, hmatching]
  exact limited_reread tree.limit _

end Tree

/-! ### Texts of filters -/

section Texts

variable {ss : List Statement} {ts : List Token}

theorem Writes.listOfText {text : String} (h : Writes text.toList ts)
    (hd : DerivesStatements ts ss) : Statement.listOfText text = .ok ss :=
  statement_listOfText_iff.2 ⟨_, h.lexes, List.append_cancel_right h.lexes.eq_beforeEnd ▸ hd⟩

/-- Each statement of a filter was read. -/
theorem Grammar.DerivesStatements.exists_derives (h : DerivesStatements ts ss) :
    ∀ s ∈ ss, ∃ us, DerivesStatement us s := by
  induction h with
  | done => exact List.forall_mem_nil _
  | empty _ ih => exact ih
  | last h => exact List.forall_mem_singleton.2 ⟨_, h⟩
  | cons h _ ih => exact List.forall_mem_cons.2 ⟨⟨_, h⟩, ih⟩

/-- The texts of bound statements with semicolons between them. -/
theorem exists_filterTokens {trees : List Tree} (h : ∀ tree ∈ trees,
      ∃ ts, Writes tree.text.toList ts ∧ DerivesStatement ts (.filter tree.statement)) :
    ∃ ts, Writes (";".intercalate (trees.map Tree.text)).toList ts ∧
      DerivesStatements ts (trees.map fun tree => .filter tree.statement) := by
  induction trees with
  | nil => exact ⟨[], .nil, .done⟩
  | cons tree trees ih =>
    obtain ⟨⟨ts, writes, derives⟩, hrest⟩ := List.forall_mem_cons.1 h
    cases trees with
    | nil => exact ⟨ts, by simpa using writes, .last derives⟩
    | cons next trees =>
      obtain ⟨us, hwrites, all⟩ := ih hrest
      refine ⟨_, ?_, .cons derives all⟩
      simpa [String.intercalate_cons_cons] using
        writes.append rfl (.cons spells_semicolon hwrites)

end Texts

/-! ### Filters -/

/-- The bound statements of a filter were all read. -/
theorem Request.exists_parsed {r : Request} {ds : DataSet} {trees : List Tree}
    (h : (r.trees ds).1.result = .ok trees) :
    ∃ statements, Statement.listOfText r.filter = .ok statements := by
  unfold Request.trees withStatements at h
  cases hparsed : Statement.listOfText r.filter with
  | ok statements => exact ⟨statements, rfl⟩
  | error e =>
    rw [hparsed] at h
    cases h

/-- **Bound statements are written, read and bound again.** Where the names of tables and columns
are names, the texts of the bound statements of a filter, with semicolons between them, are read,
and bound as what the statements read back as: as many statements, on the same tables and with the
same columns to sort by. A statement selects the same rows as before, from whatever rows there are,
if its literals read back and no negation is at the start of anything but an operation on truth
values. -/
theorem Request.trees_read_back {r : Request} {ds : DataSet} {trees : List Tree}
    (reachable : ds.Reachable)
    (named : ∀ t ∈ ds.tables, IsName t.name ∧ ∀ c ∈ t.columns, IsName c.name)
    (h : (r.trees ds).1.result = .ok trees) :
    (Request.trees { r with filter := ";".intercalate (trees.map Tree.text) }
        (r.trees ds).2).1.result = .ok (trees.map Tree.reread) ∧
      ∀ tree ∈ trees, tree.root.KeepsMeaning →
        ∀ clock rows, tree.reread.rows clock rows = tree.rows clock rows := by
  refine ⟨?_, fun tree _ keeps => tree.reread_rows keeps⟩
  obtain ⟨statements, parsed⟩ := exists_parsed h
  obtain ⟨hresult, like⟩ := trees_of_isLike reachable.tables ⟨rfl, reachable.tables⟩ parsed
  obtain ⟨ts, -, derives⟩ := statement_listOfText_iff.1 parsed
  have bound : ∀ tree ∈ trees, ∃ k, ∃ t ∈ ds.tables, ds.table t.name = .ok (k, t) ∧
      tree.IsOver t := by
    intro tree htree
    obtain ⟨s, hs, htreeOn⟩ := (Result.mem_of_mapM_eq_ok (hresult.symm.trans h)).1 htree
    obtain ⟨us, hderives⟩ := derives.exists_derives s hs
    exact isOver_of_treeOn reachable.tables (fun t ht => (named t ht).2) hderives htreeOn
  have tokens : ∀ tree ∈ trees, ∃ us, Writes tree.text.toList us ∧
      DerivesStatement us (.filter tree.statement) := by
    intro tree htree
    obtain ⟨-, t, ht, -, isOver⟩ := bound tree htree
    exact isOver.exists_tokens (named t ht).1 (named t ht).2
  obtain ⟨us, writes, all⟩ := exists_filterTokens tokens
  have parsedBack := writes.listOfText all
  generalize ";".intercalate (trees.map Tree.text) = text at parsedBack ⊢
  have hreread := (trees_of_isLike (r := { r with filter := text }) reachable.tables like
    parsedBack).1
  rw [hreread, List.mapM_map]
  refine Result.mapM_eq_ok_map fun tree htree => ?_
  obtain ⟨k, t, ht, found, isOver⟩ := bound tree htree
  exact isOver.treeOn_eq found (reachable.tables t ht).coherent

/-- A table of three numbers. -/
def Table.numbers : Table where
  name := "T"
  columns := [⟨"A", .int32, none⟩]
  rows := [[.int32 5], [.int32 (-6)], [.int32 1]]
  bound := []

theorem Table.numbers_reachable : numbers.Reachable := by
  have column := Reachable.empty "T" |>.change (.addColumn (c := ⟨"A", .int32, none⟩) rfl)
  exact column
    |>.change (.addRow (show Table.addRow _ [.int32 5] = .ok _ from rfl))
    |>.change (.addRow (show Table.addRow _ [.int32 (-6)] = .ok _ from rfl))
    |>.change (.addRow (show Table.addRow _ [.int32 1] = .ok _ from rfl))

/-- The data set of this table. -/
def numbersSet : DataSet := ⟨[Table.numbers]⟩

theorem numbersSet_reachable : numbersSet.Reachable :=
  .change .empty (.addTable Table.numbers_reachable rfl)

theorem numbersSet_named :
    ∀ t ∈ numbersSet.tables, IsName t.name ∧ ∀ c ∈ t.columns, IsName c.name := by
  have table : IsName Table.numbers.name := by cbv
  have column : IsName "A" := by cbv
  exact List.forall_mem_singleton.2 ⟨table, List.forall_mem_singleton.2 column⟩

/-- The column of the table. -/
def numberColumn : ColumnHead := ⟨0, "A", .int32⟩

/-- A filter of two statements: a negation on the left of `AND`, and a complement on the left of a
comparison. -/
def negations : String := "FILTER TOP 2 T WHERE NOT (A = 1) AND A <> -6 ORDER BY A DESC; ~A = 5"

/-- What the bound statements of the filter are written as. -/
def writtenNegations : String :=
  "FILTER TOP 2 T WHERE (NOT ((A = 1)) AND (A <> -6)) ORDER BY A DESC;" ++
    "FILTER T WHERE (NOT (A) = 5)"

/-- The first bound statement of the filter. -/
def keptNegation : Tree where
  table := "T"
  root := .binary (.logical .and)
    (.unary .not
      (.binary (.comparison (.equal false)) (.column numberColumn) (.literal (.int32 1))))
    (.binary (.comparison (.notEqual false)) (.column numberColumn) (.literal (.int32 (-6))))
  limit := 2
  order := [⟨⟨numberColumn, none⟩, false, false⟩]

/-- The second bound statement of the filter. -/
def movedNegation : Tree :=
  .ofRoot "T" (.binary (.comparison (.equal false)) (.unary .not (.column numberColumn))
    (.literal (.int32 5)))

/-- The first of the statements keeps its meaning. In the second one the complement of a number
becomes the negation of a comparison. -/
theorem negations_trees_read_back :
    (numbersSet.Reachable ∧
      ∀ t ∈ numbersSet.tables, IsName t.name ∧ ∀ c ∈ t.columns, IsName c.name) ∧
    (Request.trees { filter := negations, primary := "T" } numbersSet).1.result =
      .ok [keptNegation, movedNegation] ∧
    (Request.trees { filter := writtenNegations, primary := "T" }
        (Request.trees { filter := negations, primary := "T" } numbersSet).2).1.result =
      .ok [keptNegation.reread, movedNegation.reread] ∧
    (keptNegation.root.KeepsMeaning ∧
      ∀ clock rows, keptNegation.reread.rows clock rows = keptNegation.rows clock rows) ∧
    movedNegation.reread.root = .unary .not (.binary (.comparison (.equal false))
      (.column numberColumn) (.literal (.int32 5))) := by
  have bound : (Request.trees { filter := negations, primary := "T" } numbersSet).1.result =
      .ok [keptNegation, movedNegation] := by
    cbv
  have written : ";".intercalate ([keptNegation, movedNegation].map Tree.text) =
      writtenNegations := by
    cbv
  obtain ⟨back, same⟩ := Request.trees_read_back numbersSet_reachable numbersSet_named bound
  rw [written] at back
  simp only [List.map_cons, List.map_nil] at back
  have literal (i : Int32) : (Value.int32 i).ReadsBack := fun clock => by
    rw [evalText_literal_eq, Value.reread, Value.ofInt_toInt32]
    rfl
  have plain : (Expr.column numberColumn).isNegation = true → false = true := id
  have keeps : keptNegation.root.KeepsMeaning := by
    refine .binary (fun _ => rfl)
      (.unary .not (.binary plain (.column _) (.literal (literal 1)))) ?_
    exact .binary plain (.column _) (.literal (literal (-6)))
  exact ⟨⟨numbersSet_reachable, numbersSet_named⟩, bound, back,
    ⟨keeps, same _ (.head _) keeps⟩, rfl⟩

/-- A filter whose one statement has a complement on the left of a comparison. -/
def complement : String := "FILTER T WHERE ~A = 5"

/-- The complement of a number is not read back as one: the bound statement that its text stands for
selects other rows of the table. -/
theorem not_trees_read_back :
    (numbersSet.Reachable ∧
      ∀ t ∈ numbersSet.tables, IsName t.name ∧ ∀ c ∈ t.columns, IsName c.name) ∧
    (Request.trees { filter := complement } numbersSet).1.result = .ok [movedNegation] ∧
    (∀ row ∈ Table.numbers.rows, row.Fits Table.numbers.columns) ∧
    ¬ ∃ back,
      (Request.trees { filter := ";".intercalate ([movedNegation].map Tree.text) }
        (Request.trees { filter := complement } numbersSet).2).1.result = .ok back ∧
      List.Forall₂ (fun tree again => ∀ clock,
        again.rows clock Table.numbers.rows = tree.rows clock Table.numbers.rows)
          [movedNegation] back := by
  have bound : (Request.trees { filter := complement } numbersSet).1.result =
      .ok [movedNegation] := by
    cbv
  refine ⟨⟨numbersSet_reachable, numbersSet_named⟩, bound, Table.numbers_reachable.fits, ?_⟩
  rintro ⟨back, hback, same⟩
  have written : ";".intercalate ([movedNegation].map Tree.text) =
      "FILTER T WHERE (NOT (A) = 5)" := by
    cbv
  have moved : (Request.trees { filter := "FILTER T WHERE (NOT (A) = 5)" }
      (Request.trees { filter := complement } numbersSet).2).1.result =
        .ok [movedNegation.reread] := by
    cbv
  rw [written] at hback
  obtain rfl := Except.ok.inj (moved.symm.trans hback)
  obtain ⟨same, -⟩ := List.forall₂_cons.1 same
  have before : movedNegation.rows ⟨default, default⟩ Table.numbers.rows = [1] := by
    cbv
  have after : movedNegation.reread.rows ⟨default, default⟩ Table.numbers.rows = [1, 2] := by
    cbv
  cases after.symm.trans ((same _).trans before)

end TableFilter
