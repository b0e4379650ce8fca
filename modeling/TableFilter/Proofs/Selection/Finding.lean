import TableFilter.Proofs.Selection.Statements

/-!
# What is found, without remembering

What a statement finds on a data set, read off the tables as they stand: no table is replaced by one
that remembers more. This is what the statement finds when it is run, as long as the tables are
reachable.

## Main definitions

* `Request.rowsOn`, `Request.identifierOn`, `Request.foundOn`: what statements find

## Main results

* `found_eq_foundOn`: what a statement finds when it is run
-/

namespace TableFilter

open Result

/-! ### What statements find -/

/-- The column of signal ids of a table, if they are wanted. -/
def Request.wantedColumn (r : Request) (tracking : Tracking) (t : Table) :
    Result (Option BoundColumn) :=
  if tracking.ids then (t.remembering (·.idColumn r.idFields.signalId)).1.map some else .ok none

namespace Request

variable (clock : Clock) (r : Request) (tracking : Tracking) (ds : DataSet)

/-- What a statement finds on a table. -/
def rowsOf (s : Statement) (k : Nat) (t : Table) : Result Found := do
  let tree ← (t.remembering (s.bindOn r)).1
  let idColumn ← r.wantedColumn tracking t
  .ok (.all ((tree.rows clock t.rows).map (TableFilter.foundOn clock tracking k idColumn t.rows)))

/-- What a statement on a table finds. -/
def rowsOn (s : Statement) : Result Found :=
  s.targetOn r ds >>= fun (k, t) => r.rowsOf clock tracking s k t

/-- The place of the row that carries an identifier, with its table. -/
def placeOn (id : IdLiteral) : Result (Nat × Table × Option Nat) := do
  let (k, t) ← r.primaryOn ds
  let column ← (t.remembering (·.idColumn (id.field r.idFields))).1
  .ok (k, t, column.firstRow? clock id.isValue t.rows)

variable {clock r ds} in
theorem placeOn_eq_ok {id : IdLiteral} {k : Nat} {t : Table} {place : Option Nat} :
    r.placeOn clock ds id = .ok (k, t, place) ↔
      ∃ c, r.primaryOn ds = .ok (k, t) ∧
        (t.remembering (·.idColumn (id.field r.idFields))).1 = .ok c ∧
        c.firstRow? clock id.isValue t.rows = place := by
  simp only [placeOn, bind_eq_ok, Except.ok.injEq, Prod.mk.injEq, Prod.exists]
  constructor
  · rintro ⟨_, _, hprimary, c, hc, rfl, rfl, hplace⟩
    exact ⟨c, hprimary, hc, hplace⟩
  · rintro ⟨c, hprimary, hc, hplace⟩
    exact ⟨k, t, hprimary, c, hc, rfl, rfl, hplace⟩

/-- What an identifier finds. A signal id is found whether or not a row carries it. -/
def identifierOn (id : IdLiteral) : Result Found :=
  match id with
  | .guid g =>
    let ids := if tracking.ids then [g] else []
    if tracking.rows then
      (r.placeOn clock ds id).map fun (k, _, place) => ⟨(place.map (RowRef.mk k)).toList, ids⟩
    else .ok ⟨[], ids⟩
  | _ => do
    let (k, t, place) ← r.placeOn clock ds id
    match place with
    | none => .ok ⟨[], []⟩
    | some place =>
      let idColumn ← r.wantedColumn tracking t
      .ok (TableFilter.foundOn clock tracking k idColumn t.rows place)

/-- What a statement finds. -/
def foundOn : Statement → Result Found
  | .identifier id => r.identifierOn clock tracking ds id
  | statement => r.rowsOn clock tracking ds statement

variable {clock r tracking ds} in
theorem foundOn_of_ne {s : Statement} (hs : ∀ id, s ≠ .identifier id) :
    r.foundOn clock tracking ds s = r.rowsOn clock tracking ds s := by
  cases s with
  | identifier id => exact absurd rfl (hs id)
  | _ => rfl

end Request

/-! ### What is found when statements are run -/

section Run

variable {clock : Clock} {r : Request} {tracking : Tracking} {ds : DataSet} {k : Nat} {t u : Table}
  (reachable : ∀ t ∈ ds.tables, t.Reachable)

include reachable

open Planning

theorem wantedIdColumn_eq {name : String} (hfind : ds.find? name = some (k, t)) (hu : u.IsLike t) :
    Maintains (fun ds' => ds'.IsLike ds) (wantedIdColumn r tracking k u)
      (· = r.wantedColumn tracking t) := by
  unfold wantedIdColumn Request.wantedColumn
  split
  · rw [map_eq_pure_bind, map_eq_bind]
    exact (onTable_eq reachable hfind hu (.idColumn _)).bind_eq fun c _ => .pure rfl
  · exact .pure rfl

theorem rowsFound_eq (s : Statement) :
    Maintains (fun ds' => ds'.IsLike ds) (rowsFound clock r tracking s)
      (· = r.rowsOn clock tracking ds s) := by
  have onTarget {name : String} {k : Nat} {t : Table} (hfind : ds.find? name = some (k, t))
      {u : Table} (hu : u.IsLike t) : Maintains (fun ds' => ds'.IsLike ds)
        (onTable k u (s.bindOn r) >>= fun tree => Planning.table tree.table >>= fun (k, t) =>
          wantedIdColumn r tracking k t >>= fun idColumn => pure (Found.all
            ((tree.rows clock t.rows).map (foundOn clock tracking k idColumn t.rows))))
        (· = r.rowsOf clock tracking s k t) := by
    refine (onTable_eq reachable hfind hu s.looksUp_bindOn).bind_eq fun tree htree => ?_
    -- The table is looked up again by its own name, by which it is found as before.
    have hname : tree.table = t.name := s.table_bindOn t t.bound tree htree
    rw [hname]
    refine table_bind_of_find (DataSet.find?_name hfind) fun u' hu' => ?_
    refine (wantedIdColumn_eq reachable hfind hu').bind_eq fun c _ => .pure ?_
    rw [hu'.rows_eq]
  unfold rowsFound Request.rowsOn
  rw [s.plan_eq, bind_assoc]
  cases s with
  | filter f => exact table_bind_eq fun k t hfind u hu => onTarget hfind hu
  | condition _ | identifier _ =>
    exact primaryTable_bind_eq fun k t hfind u hu => onTarget hfind hu

/-- Going on with the row that carries an identifier. -/
theorem findIdentifier_bind_eq {id : IdLiteral} {α : Type}
    {f : Nat × Table × Option Nat → Planning α} {g : Nat × Table × Option Nat → Result α}
    (h : ∀ k t, ds.find? r.primary = some (k, t) → ∀ u, u.IsLike t → ∀ place,
      Maintains (fun ds' => ds'.IsLike ds) (f (k, u, place)) (· = g (k, t, place))) :
    Maintains (fun ds' => ds'.IsLike ds) (findIdentifier clock r id >>= f)
      (· = r.placeOn clock ds id >>= g) := by
  simp only [findIdentifier, Request.placeOn, bind_assoc, pure_bind]
  refine primaryTable_bind_eq fun k t hfind u hu => ?_
  refine (onTable_eq reachable hfind hu (.idColumn _)).bind_eq fun c _ => ?_
  dsimp only
  rw [hu.rows_eq]
  exact h k t hfind u hu _

theorem identifierFound_eq (id : IdLiteral) :
    Maintains (fun ds' => ds'.IsLike ds) (identifierFound clock r tracking id)
      (· = r.identifierOn clock tracking ds id) := by
  unfold identifierFound Request.identifierOn
  cases id with
  | guid g =>
    dsimp only
    split
    · rw [map_eq_bind]
      exact findIdentifier_bind_eq reachable fun k t _ u _ place => .pure rfl
    · exact .pure rfl
  | measurementKey _ | pointTag _ =>
    refine findIdentifier_bind_eq reachable fun k t hfind u hu place => ?_
    cases place with
    | none => exact .pure rfl
    | some place =>
      dsimp only [Request.wantedColumn]
      split
      · rw [idsFound, hu.name_eq, map_eq_bind]
        simp only [bind_assoc, pure_bind]
        refine table_bind_of_find (DataSet.find?_name hfind) fun u' hu' => ?_
        refine (onTable_eq reachable hfind hu' (.idColumn _)).bind_eq fun c _ => .pure ?_
        rw [hu'.rows_eq]
        rfl
      · exact .pure rfl

/-- A statement finds what it finds on the data set as it is at the start. -/
theorem found_eq_foundOn : ∀ s : Statement, Maintains (fun ds' => ds'.IsLike ds)
    (s.found clock r tracking) (· = r.foundOn clock tracking ds s)
  | .identifier id => identifierFound_eq reachable id
  | .filter f => rowsFound_eq reachable (.filter f)
  | .condition term => rowsFound_eq reachable (.condition term)

end Run

end TableFilter
