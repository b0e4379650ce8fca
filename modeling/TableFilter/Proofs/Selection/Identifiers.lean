import TableFilter.Proofs.Selection.Single

/-!
# Identifiers looked up directly

A statement that is an identifier is planned as the comparison of a column with a literal, and run
as a search for the first row that holds the identifier. The search takes what the column holds as
it is, the comparison converts it first. Both find the same row where the column is declared with
the type of the identifier. In a column of another type the search finds none.

## Main results

* `IdLiteral.firstRow?_eq_head?`, `IdLiteral.firstRow?_eq_none`: the search in a column of the type
  of the identifier and of another type
* `Statement.plan_identifier`: an identifier is planned as a comparison
* `Request.run_identifier`: what an identifier selects
-/

namespace TableFilter

open Result

variable {clock : Clock} {r : Request} {tracking : Tracking} {ds : DataSet} {k : Nat} {t : Table}
  {id : IdLiteral} {c : BoundColumn} {rows : List Row}

/-! ### The comparison -/

theorem Guid.order_eq_eq {a b : Guid} : a.order b = .eq ↔ a = b := by
  rw [order, compare_eq_iff_eq, ← BitVec.toNat_eq]
  exact ⟨congrArg Guid.mk, congrArg Guid.bits⟩

namespace IdLiteral

/-- The comparison of a column with an identifier. -/
def comparison (id : IdLiteral) (c : BoundColumn) : Expr :=
  .binary (.comparison (.equal false)) c.toExpr (.literal id.toValue)

/-- A value that is an identifier is of its type. -/
theorem dataType_of_isValue {v : Value} (h : id.isValue v = true) :
    v.dataType = id.toValue.dataType := by
  cases id <;> cases v <;> first | rfl | exact nomatch h

/-- A value of the type of an identifier equals it exactly if it is the identifier. -/
theorem apply_toValue {v : Value} (htype : v.dataType = id.toValue.dataType) :
    ∃ w, (BinaryOperator.comparison (.equal false)).apply v id.toValue = .ok w ∧
      w.isTrue = id.isValue v := by
  cases id with
  | guid g =>
    cases v with
    | null type => exact ⟨_, by cases htype; rfl, rfl⟩
    | guid h =>
      refine ⟨.boolean (some (h.order g) == some .eq), rfl, ?_⟩
      change (some (h.order g) == some .eq) = (g == h)
      rw [Bool.eq_iff_iff, beq_iff_eq, beq_iff_eq, Option.some_inj, Guid.order_eq_eq, eq_comm]
    | _ => exact nomatch htype
  | measurementKey s | pointTag s =>
    cases v with
    | null type => exact ⟨_, by cases htype; rfl, rfl⟩
    | string t => exact ⟨.boolean (some (compareText false t s) == some .eq), rfl, rfl⟩
    | _ => exact nomatch htype

/-- The comparison selects the rows whose value is the identifier. -/
theorem selects_comparison {name : String} {row : Row}
    (htype : HasType id.toValue.dataType (c.valueOn clock row)) :
    (Tree.ofRoot name (id.comparison c)).selects clock row =
      match c.valueOn clock row with
      | .ok v => id.isValue v
      | .error _ => false := by
  have hroot : (id.comparison c).evalOn ⟨clock, some row⟩ =
      c.valueOn clock row >>= fun v =>
        (BinaryOperator.comparison (.equal false)).apply v id.toValue := by
    unfold BoundColumn.valueOn Expr.evalOn comparison
    rw [Expr.eval, run_bind]
    rcases (c.toExpr.eval ⟨clock, some row⟩).run [] with ⟨e | v, known⟩ <;> rfl
  rw [Tree.selects, Tree.ofRoot, hroot]
  cases hv : c.valueOn clock row with
  | error e => rfl
  | ok v =>
    obtain ⟨w, hw, htrue⟩ := apply_toValue (htype v hv)
    rw [ok_bind, hw]
    exact htrue

/-! ### The search -/

/-- The first of the places of rows with a property. -/
theorem head?_places (p : Row → Bool) :
    ((rows.zipIdx.filter fun r => p r.1).map (·.2)).head? = rows.findIdx? p := by
  rw [List.head?_map, List.head?_filter, List.findIdx?_eq_fst_find?_zipIdx]

/-- In a column of the type of an identifier, the search finds the first row that the comparison
selects. -/
theorem firstRow?_eq_head? (name : String)
    (htype : ∀ row ∈ rows, HasType id.toValue.dataType (c.valueOn clock row)) :
    c.firstRow? clock id.isValue rows =
      ((Tree.ofRoot name (id.comparison c)).rows clock rows).head? := by
  have hrows : (Tree.ofRoot name (id.comparison c)).rows clock rows =
      (rows.zipIdx.filter fun r => (Tree.ofRoot name (id.comparison c)).selects clock r.1).map
        (·.2) := rfl
  rw [hrows, BoundColumn.firstRow?, ← head?_places, List.filter_congr]
  exact fun place hplace =>
    (selects_comparison (htype _ (List.fst_mem_of_mem_zipIdx hplace))).symm

/-- In a column of another type than that of an identifier, the search finds nothing. -/
theorem firstRow?_eq_none {type : DataType} (hne : type ≠ id.toValue.dataType)
    (htype : ∀ row ∈ rows, HasType type (c.valueOn clock row)) :
    c.firstRow? clock id.isValue rows = none := by
  rw [BoundColumn.firstRow?, List.findIdx?_eq_none_iff]
  intro row hrow
  cases hv : c.valueOn clock row with
  | error e => rfl
  | ok v =>
    rw [← Bool.not_eq_true]
    intro h
    exact hne ((htype row hrow v hv).symm.trans (dataType_of_isValue h))

end IdLiteral

/-! ### The column of an identifier -/

/-- A column that is found by name is found as the column of an identifier. -/
theorem Table.remembering_idColumn {field : String}
    (h : (t.remembering (·.lookUp field)).1 = .ok c) :
    (t.remembering (·.idColumn field)).1 = .ok c := by
  change ((t.lookUp field).run t.bound).1 = .ok c at h
  change ((t.idColumn field).run t.bound).1 = .ok c
  rw [idColumn, run_tryCatch, h]

/-- An identifier is planned as the comparison of its column in the primary table. -/
theorem Statement.plan_identifier (reachable : ∀ t ∈ ds.tables, t.Reachable) {tree : Tree}
    (h : (((Statement.identifier id).plan r).run ds).1 = .ok tree) :
    ∃ k t c, ds.find? r.primary = some (k, t) ∧ r.primaryOn ds = .ok (k, t) ∧
      (t.remembering (·.lookUp (id.field r.idFields))).1 = .ok c ∧
      tree = .ofRoot t.name (id.comparison c) := by
  have hplan : (((Statement.identifier id).plan r).run ds).1 = treeOn r ds (.identifier id) :=
    (plan_eq_treeOn reachable (.identifier id) ds ⟨rfl, reachable⟩).1
  obtain ⟨⟨k, t⟩, hprimary, hbind⟩ := bind_eq_ok.1 (hplan.symm.trans h)
  obtain ⟨c, hc, htree⟩ := run_bind_eq_ok.1
    (show ((Statement.bindOn r (.identifier id) t).run t.bound).1 = .ok tree from hbind)
  refine ⟨k, t, c, (Request.primaryOn_eq_ok.1 hprimary).2, hprimary, ?_,
    (Except.ok.inj htree).symm⟩
  rw [orElseFault, run_tryCatch] at hc
  change ((t.lookUp (id.field r.idFields)).run t.bound).1 = .ok c
  cases hlook : ((t.lookUp (id.field r.idFields)).run t.bound).1 with
  | error e =>
    rw [hlook] at hc
    cases hc
  | ok d =>
    rw [hlook] at hc
    exact hc

namespace Request

/-- An identifier finds the row that is looked for. It always finds it if only rows are wanted. -/
theorem found_identifier (reachable : ∀ t ∈ ds.tables, t.Reachable)
    (hprimary : r.primaryOn ds = .ok (k, t))
    (hcolumn : (t.remembering (·.lookUp (id.field r.idFields))).1 = .ok c) :
    r.found clock ⟨true, false⟩ ds (.identifier id) =
        .ok ⟨((c.firstRow? clock id.isValue t.rows).map (RowRef.mk k)).toList, []⟩ ∧
      ∀ f, r.found clock ⟨true, true⟩ ds (.identifier id) = .ok f →
        f.rows = ((c.firstRow? clock id.isValue t.rows).map (RowRef.mk k)).toList := by
  have hplace : r.placeOn clock ds id = .ok (k, t, c.firstRow? clock id.isValue t.rows) :=
    placeOn_eq_ok.2 ⟨c, hprimary, Table.remembering_idColumn hcolumn, rfl⟩
  simp only [found_eq reachable, foundOn]
  cases id with
  | guid g =>
    simp only [identifierOn, hplace]
    exact ⟨rfl, fun f hf => Except.ok.inj hf ▸ rfl⟩
  | measurementKey s | pointTag s =>
    simp only [identifierOn, hplace, ok_bind]
    cases c.firstRow? clock _ t.rows with
    | none => exact ⟨rfl, fun f hf => Except.ok.inj hf ▸ rfl⟩
    | some place =>
      refine ⟨rfl, fun f hf => ?_⟩
      obtain ⟨idColumn, -, hf⟩ := bind_eq_ok.1 hf
      exact Except.ok.inj hf ▸ rfl

/-- **Looking an identifier up directly agrees with the comparison it is planned as**, if the column
that holds such identifiers in the primary table is declared with their type: the identifier selects
the first row that the comparison selects, and none if there is none. In a column of another type it
selects no row. -/
theorem run_identifier (clock : Clock) (reachable : ∀ t ∈ ds.tables, t.Reachable) (r : Request)
    (id : IdLiteral) {tree : Tree}
    (planned : (((Statement.identifier id).plan r).run ds).1 = .ok tree) :
    ∃ k t i column definition, ds.find? r.primary = some (k, t) ∧
      t.columnIndex? (id.field r.idFields) = some i ∧ t.columns[i]? = some column ∧
      tree = .ofRoot t.name (id.comparison ⟨⟨i, column.name, column.type⟩, definition⟩) ∧
      let place :=
        if column.type = id.toValue.dataType then (tree.rows clock t.rows).head? else none
      (r.run clock ⟨true, false⟩ ds [.identifier id]).map (·.rows) =
          .ok (place.map (RowRef.mk k)).toList ∧
        ∀ s, r.run clock ⟨true, true⟩ ds [.identifier id] = .ok s →
          s.rows = (place.map (RowRef.mk k)).toList := by
  obtain ⟨k, t, c, hfind, hprimary, hcolumn, rfl⟩ :=
    Statement.plan_identifier reachable planned
  have ht : t.Reachable := reachable t (List.mem_of_getElem? (DataSet.find?_eq_some.1 hfind).1)
  have hresolves : t.Resolves (id.field r.idFields) c :=
    (Table.lookUp_yields _).remembering ht.coherent hcolumn
  have htype : ∀ row ∈ t.rows, HasType c.head.type (c.valueOn clock row) :=
    fun row hrow => hresolves.hasType (ht.fits row hrow)
  obtain ⟨i, column, hi, hcolumns, hhead⟩ := hresolves.head_eq
  have hfirst : c.firstRow? clock id.isValue t.rows =
      if column.type = id.toValue.dataType then
        ((Tree.ofRoot t.name (id.comparison c)).rows clock t.rows).head?
      else none := by
    rw [hhead] at htype
    split
    · next heq => exact id.firstRow?_eq_head? t.name (heq ▸ htype)
    · next hne => exact id.firstRow?_eq_none hne htype
  obtain ⟨only, also⟩ := found_identifier reachable hprimary hcolumn
  rw [hfirst] at only also
  refine ⟨k, t, i, column, c.definition, hfind, hi, hcolumns, by rw [← hhead], ?_, fun s hs => ?_⟩
  · rw [run_singleton reachable, only]
    exact congrArg Except.ok Selection.rows_ofFound
  · rw [run_singleton reachable] at hs
    obtain ⟨f, hf, rfl⟩ := map_eq_ok.1 hs
    exact Selection.rows_ofFound.trans (also f hf)

/-- Of two rows with an identifier the first is selected. -/
theorem repeatedId_run :
    (∀ t ∈ repeatingSet.tables, t.Reachable) ∧
      ∃ tree, (((Statement.identifier (.guid repeatedId)).plan allTwice).run repeatingSet).1 =
          .ok tree ∧
        tree.rows ⟨default, default⟩ repeating.rows = [0, 1] ∧
        (allTwice.run ⟨default, default⟩ ⟨true, false⟩ repeatingSet
          [.identifier (.guid repeatedId)]).map (·.rows) = .ok [⟨0, 0⟩] := by
  obtain ⟨k, t, i, column, definition, hfind, hi, hcolumn, htree, only, -⟩ :=
    run_identifier ⟨default, default⟩ repeatingSet_reachable.tables allTwice (.guid repeatedId) rfl
  cases (show some (0, repeating) = some (k, t) from hfind)
  cases (show some 0 = some i from hi)
  cases (show some ⟨"SignalID", .guid, none⟩ = some column from hcolumn)
  exact ⟨repeatingSet_reachable.tables, _, rfl, by decide +kernel, only.trans (by decide +kernel)⟩

/-- A table with an identifier in a column of texts. -/
def labelled : Table where
  name := "T"
  columns := [⟨"SignalID", .string, none⟩]
  rows := [[.string "0f9c3a4b-1111-2222-3333-444455556666"]]
  bound := []

/-- The data set of this table. -/
def labelledSet : DataSet := ⟨[labelled]⟩

theorem labelledSet_reachable : labelledSet.Reachable := by
  have columns := Table.Reachable.empty "T"
    |>.change (.addColumn (c := ⟨"SignalID", .string, none⟩) rfl)
  have rows := columns |>.change (.addRow (show Table.addRow _
    [.string "0f9c3a4b-1111-2222-3333-444455556666"] = .ok _ from rfl))
  exact DataSet.Reachable.empty.change (.addTable rows rfl)

/-- In a column of texts the comparison selects a row that looking up the identifier does not. -/
theorem not_run_identifier :
    ¬ ∀ (clock : Clock) (ds : DataSet) (r : Request) (id : IdLiteral) (tree : Tree) (k : Nat)
        (t : Table), ds.Reachable → (((Statement.identifier id).plan r).run ds).1 = .ok tree →
      ds.find? r.primary = some (k, t) →
      (r.run clock ⟨true, false⟩ ds [.identifier id]).map (·.rows) =
        .ok ((tree.rows clock t.rows).head?.map (RowRef.mk k)).toList := by
  intro h
  have hrun : (allTwice.run ⟨default, default⟩ ⟨true, false⟩ labelledSet
      [.identifier (.guid repeatedId)]).map (·.rows) = .ok [] := by decide +kernel
  have hrows : ((Tree.ofRoot "T" (IdLiteral.comparison (.guid repeatedId)
      ⟨⟨0, "SignalID", .string⟩, none⟩)).rows ⟨default, default⟩ labelled.rows).head? = some 0 := by
    cbv
  have agree := h ⟨default, default⟩ labelledSet allTwice (.guid repeatedId) _ 0 labelled
    labelledSet_reachable rfl rfl
  have places (place : Option Nat) (hplace : place = some 0) :
      (Except.ok (place.map (RowRef.mk 0)).toList : Result (List RowRef)) = .ok [⟨0, 0⟩] := by
    rw [hplace]
    rfl
  cases hrun.symm.trans (agree.trans (places _ hrows))

end Request

end TableFilter
