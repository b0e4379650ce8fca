import TableFilter.Proofs.Planning
import TableFilter.Proofs.Selection.Merging
import TableFilter.Proofs.Selection.Rows

/-!
# Statements add to a selection

A statement adds to a selection what it finds, and what it finds does not depend on the selection.

## Main definitions

* `rowsFound`, `identifierFound`, `Statement.found`: what statements find

## Main results

* `selectStatement_eq`: a statement adds what it finds
* `found_nodup`: it finds no row twice
-/

namespace TableFilter

variable {clock : Clock} {r : Request} {tracking : Tracking} {ds : DataSet} {s : Selection}

/-! ### What statements find -/

/-- What is found where a statement selects a row: the row and its signal id, as far as they are
wanted. -/
def foundOn (clock : Clock) (tracking : Tracking) (table : Nat) (idColumn : Option BoundColumn)
    (rows : List Row) (place : Nat) : Found where
  rows := if tracking.rows then [⟨table, place⟩] else []
  ids := (idColumn.bind fun c => rows[place]?.bind (c.signalId? clock)).toList

theorem addFound_eq_add {table : Nat} {idColumn : Option BoundColumn} {rows : List Row}
    {place : Nat} : s.addFound clock tracking table idColumn rows place =
      s.add (foundOn clock tracking table idColumn rows place) := by
  unfold Selection.addFound foundOn
  rw [Selection.ite_addRow_eq_add]
  cases idColumn with
  | none => simp
  | some c =>
    cases rows[place]? with
    | none => simp
    | some row =>
      cases hid : c.signalId? clock row <;>
        simp [hid, Selection.addId_eq_add, Selection.add_add]

/-- The column of signal ids of a table, if they are wanted. -/
def wantedIdColumn (r : Request) (tracking : Tracking) (k : Nat) (t : Table) :
    Planning (Option BoundColumn) :=
  if tracking.ids then some <$> Planning.onTable k t fun t => t.idColumn r.idFields.signalId
  else pure none

/-- What a statement on a table finds. -/
def rowsFound (clock : Clock) (r : Request) (tracking : Tracking) (statement : Statement) :
    Planning Found := do
  let tree ← statement.plan r
  let (k, t) ← Planning.table tree.table
  let idColumn ← wantedIdColumn r tracking k t
  return .all ((tree.rows clock t.rows).map (foundOn clock tracking k idColumn t.rows))

/-- The signal id of a row of the table of a name. -/
def idsFound (clock : Clock) (r : Request) (k place : Nat) (name : String) :
    Planning (List Guid) := do
  let (_, t) ← Planning.table name
  let column ← Planning.onTable k t fun t => t.idColumn r.idFields.signalId
  return (foundOn clock ⟨false, true⟩ k (some column) t.rows place).ids

/-- What an identifier finds. -/
def identifierFound (clock : Clock) (r : Request) (tracking : Tracking) (id : IdLiteral) :
    Planning Found := do
  match id with
  | .guid g =>
    let ids := if tracking.ids then [g] else []
    if tracking.rows then
      let (k, _, place) ← findIdentifier clock r id
      return ⟨(place.map (RowRef.mk k)).toList, ids⟩
    else return ⟨[], ids⟩
  | _ =>
    let (k, t, place) ← findIdentifier clock r id
    match place with
    | none => return ⟨[], []⟩
    | some place =>
      let rows := if tracking.rows then [⟨k, place⟩] else []
      if tracking.ids then return ⟨rows, ← idsFound clock r k place t.name⟩
      else return ⟨rows, []⟩

/-- What a statement finds. -/
def Statement.found (clock : Clock) (r : Request) (tracking : Tracking) :
    Statement → Planning Found
  | .identifier id => identifierFound clock r tracking id
  | statement => rowsFound clock r tracking statement

theorem foldl_addFound {table : Nat} {idColumn : Option BoundColumn} {rows : List Row}
    {places : List Nat} :
    places.foldl (fun s k => s.addFound clock tracking table idColumn rows k) s =
      s.add (.all (places.map (foundOn clock tracking table idColumn rows))) := by
  simp only [addFound_eq_add, ← Selection.foldl_add, List.foldl_map]

theorem selectRows_eq {statement : Statement} : selectRows clock r tracking statement s =
    rowsFound clock r tracking statement >>= fun f => pure (s.add f) := by
  unfold selectRows rowsFound wantedIdColumn
  simp only [foldl_addFound, bind_assoc]
  refine bind_congr fun tree => bind_congr fun found => ?_
  split <;> simp only [pure_bind]

theorem selectIdentifier_eq {id : IdLiteral} : selectIdentifier clock r tracking id s =
    identifierFound clock r tracking id >>= fun f => pure (s.add f) := by
  -- Both look up the same, so they are compared where a row was found or not.
  unfold selectIdentifier identifierFound
  cases id with
  | guid g =>
    simp only [Selection.ite_addId_eq_add]
    split
    · simp only [bind_assoc]
      refine bind_congr fun found => ?_
      cases found.2.2 <;> simp [Selection.addRow_eq_add, Selection.add_add]
    · simp only [pure_bind]
  | _ =>
    simp only [bind_assoc]
    refine bind_congr fun found => ?_
    cases found.2.2 with
    | none => simp only [pure_bind, Selection.add_nothing]
    | some place =>
      dsimp only
      split
      · simp only [idsFound, bind_assoc, pure_bind, Selection.ite_addRow_eq_add, addFound_eq_add,
          Selection.add_add]
        simp [foundOn]
      · simp only [pure_bind, Selection.ite_addRow_eq_add]

/-- A statement adds to a selection what it finds. -/
theorem selectStatement_eq (statement : Statement) :
    selectStatement clock r tracking s statement =
      statement.found clock r tracking >>= fun f => pure (s.beginStatement.add f) := by
  cases statement with
  | identifier id => exact selectIdentifier_eq
  | _ => exact selectRows_eq

/-! ### What is found holds no row twice -/

theorem nodup_treeRows (tree : Tree) (rows : List Row) : (tree.rows clock rows).Nodup := by
  have hsorted : (sorted clock tree.order rows (tree.matching clock rows)).Nodup :=
    sorted_perm.nodup_iff.2 (matching_increasing.imp Nat.ne_of_lt)
  unfold Tree.rows limited
  split
  · exact hsorted
  · exact hsorted.sublist (List.take_sublist _ _)

/-- The rows that are found are those that a statement selects, if they are wanted. -/
theorem rows_all_foundOn {k : Nat} {c : Option BoundColumn} {rows : List Row} (places : List Nat) :
    (Found.all (places.map (foundOn clock tracking k c rows))).rows =
      if tracking.rows then places.map (RowRef.mk k) else [] := by
  change (places.map _).flatMap Found.rows = _
  rw [List.flatMap_map]
  cases htracking : tracking.rows with
  | false => simp [foundOn, htracking]
  | true =>
    rw [if_pos rfl, List.map_eq_flatMap]
    simp [foundOn, htracking]

theorem nodup_foundOn {k : Nat} {c : Option BoundColumn} {rows : List Row} {places : List Nat}
    (h : places.Nodup) : (Found.all (places.map (foundOn clock tracking k c rows))).rows.Nodup := by
  rw [rows_all_foundOn]
  split
  · exact h.map fun i j hij => (RowRef.mk.inj hij).2
  · exact .nil

theorem rowsFound_nodup (statement : Statement) :
    AlwaysGives (rowsFound clock r tracking statement) fun f => f.rows.Nodup :=
  .bind fun tree => .bind fun (_, t) => .bind fun _ =>
    .pure (nodup_foundOn (nodup_treeRows tree t.rows))

theorem identifierFound_nodup (id : IdLiteral) :
    AlwaysGives (identifierFound clock r tracking id) fun f => f.rows.Nodup := by
  unfold identifierFound
  cases id with
  | guid g =>
    dsimp only
    split
    · refine .bind fun (k, _, place) => .pure ?_
      cases place with
      | none => exact .nil
      | some place => exact List.nodup_singleton _
    · exact .pure .nil
  | _ =>
    refine .bind fun (k, t, place) => ?_
    cases place with
    | none => exact .pure .nil
    | some place =>
      have single : (if tracking.rows then [RowRef.mk k place] else []).Nodup := by
        split
        · exact List.nodup_singleton _
        · exact .nil
      dsimp only
      split
      · exact .bind fun _ => .pure single
      · exact .pure single

/-- A statement finds no row twice. -/
theorem found_nodup : ∀ statement : Statement,
    AlwaysGives (statement.found clock r tracking) fun f => f.rows.Nodup
  | .identifier id => identifierFound_nodup id
  | .filter f => rowsFound_nodup (.filter f)
  | .condition term => rowsFound_nodup (.condition term)

end TableFilter
