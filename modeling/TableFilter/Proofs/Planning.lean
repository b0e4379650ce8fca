import TableFilter.Proofs.Binding.Remembering
import TableFilter.Proofs.Catalog.DataSets

/-!
# Planning does not depend on what is remembered

While statements are planned and run, tables remember more and more. The data set stays like the one
it was at the start: its tables are reachable still, and differ in what they remember only. What is
planned on any data set like it can be read off its tables as they stand, so no statement notices
those before it.

## Main definitions

* `Table.IsLike`, `DataSet.IsLike`: equality up to what is remembered
* `DataSet.table`, `Request.primaryOn`, `Statement.targetOn`: tables by name, with their places
* `Statement.treeOn`: a statement as a bound one

## Main results

* `DataSet.IsLike.find?_eq_some`: like data sets have like tables at one place
* `Planning.table_bind_eq`, `Planning.onTable_eq`: looking up a table, and binding on it
* `plan_eq_treeOn`, `Request.trees_of_isLike`: binding a statement, and all those of a filter
-/

namespace TableFilter

open TableFilter.Text

/-! ### Tables -/

namespace Table

/-- A table without what it remembers. -/
def forget (t : Table) : Table := { t with bound := [] }

/-- A table is like another if it is reachable, and the same up to what is remembered. -/
structure IsLike (u t : Table) : Prop where
  /-- Without what they remember the tables are the same. -/
  forget_eq : u.forget = t.forget
  /-- The table comes about by changes. -/
  reachable : u.Reachable

namespace IsLike

variable {u t : Table} {α : Type} {binding : Table → Binding α}

theorem name_eq (h : u.IsLike t) : u.name = t.name := (Table.mk.inj h.forget_eq).1

theorem columns_eq (h : u.IsLike t) : u.columns = t.columns := (Table.mk.inj h.forget_eq).2.1

theorem rows_eq (h : u.IsLike t) : u.rows = t.rows := (Table.mk.inj h.forget_eq).2.2.1

/-- Binding gives what it gives where nothing is remembered. -/
theorem result_eq (h : u.IsLike t) (hbinding : LooksUp binding) :
    (u.remembering binding).1 = (t.forget.remembering binding).1 :=
  hbinding.run_eq h.name_eq.symm h.columns_eq.symm rfl h.reachable.coherent

/-- After binding, the table is like it was. -/
theorem remembering (h : u.IsLike t) (hbinding : LooksUp binding) :
    (u.remembering binding).2.IsLike t :=
  ⟨h.forget_eq, h.reachable.change (.binds (hbinding.looks u))⟩

end IsLike

end Table

/-! ### Data sets -/

namespace DataSet

variable {ds ds' : DataSet} {k : Nat} {t u : Table} {name : String}

/-- The table of a name is found by its own name too, which may differ in case. -/
theorem find?_name (h : ds.find? name = some (k, t)) : ds.find? t.name = some (k, t) := by
  obtain ⟨-, named, -⟩ := find?_eq_some.1 h
  have same : ∀ other, sameAsciiCase other t.name = sameAsciiCase other name := by
    intro other
    rw [sameAsciiCase, sameAsciiCase, eq_of_beq named]
  simpa only [find?, tableIndex?, same] using h

/-- A data set is like another if its tables are reachable, and the same up to what they
remember. -/
structure IsLike (ds' ds : DataSet) : Prop where
  /-- Without what they remember the tables are the same. -/
  forget_eq : ds'.tables.map Table.forget = ds.tables.map Table.forget
  /-- The tables come about by changes. -/
  reachable : ∀ t ∈ ds'.tables, t.Reachable

namespace IsLike

theorem getElem? (h : ds'.IsLike ds) (ht : ds.tables[k]? = some t) :
    ∃ u, ds'.tables[k]? = some u ∧ u.IsLike t := by
  have hforget : (ds'.tables[k]?).map Table.forget = some t.forget := by
    rw [← List.getElem?_map, h.forget_eq, List.getElem?_map, ht]
    rfl
  obtain ⟨u, hu, heq⟩ := Option.map_eq_some_iff.1 hforget
  exact ⟨u, hu, heq, h.reachable u (List.mem_of_getElem? hu)⟩

theorem tableIndex?_eq (h : ds'.IsLike ds) : ds'.tableIndex? name = ds.tableIndex? name := by
  have byForget (tables : List Table) : (tables.findIdx? fun t => sameAsciiCase t.name name) =
      (tables.map Table.forget).findIdx? fun t => sameAsciiCase t.name name := by
    rw [List.findIdx?_map]
    rfl
  rw [tableIndex?, tableIndex?, byForget, h.forget_eq, ← byForget]

/-- A name that stands for a table stands for a like one in a like data set. -/
theorem find?_eq_some (h : ds'.IsLike ds) (hfind : ds.find? name = some (k, t)) :
    ∃ u, ds'.find? name = some (k, u) ∧ u.IsLike t := by
  simp only [find?, Option.bind_eq_bind, Option.bind_eq_some_iff] at hfind
  obtain ⟨i, hi, s, hs, heq⟩ := hfind
  obtain ⟨rfl, rfl⟩ := Prod.mk.inj (Option.some.inj heq)
  obtain ⟨u, hu, like⟩ := h.getElem? hs
  refine ⟨u, ?_, like⟩
  simp [find?, h.tableIndex?_eq, hi, hu]

/-- A name that stands for no table stands for none in a like data set. -/
theorem find?_eq_none (h : ds'.IsLike ds) (hfind : ds.find? name = none) :
    ds'.find? name = none := by
  cases hindex : ds.tableIndex? name with
  | none => simp [find?, h.tableIndex?_eq, hindex]
  | some k =>
    have hlength : k < ds.tables.length := (List.findIdx?_eq_some_iff_getElem.1 hindex).1
    simp [find?, hindex, hlength] at hfind

/-- Putting a like table in its place leaves the data set like it was. -/
theorem setTable (h : ds'.IsLike ds) (ht : ds.tables[k]? = some t) (hu : u.IsLike t) :
    (ds'.setTable k u).IsLike ds := by
  constructor
  · obtain ⟨v, hv, like⟩ := h.getElem? ht
    exact (map_set_of_eq hv (hu.forget_eq.trans like.forget_eq.symm)).trans h.forget_eq
  · intro s hs
    rcases List.mem_or_eq_of_mem_set hs with hs | rfl
    · exact h.reachable s hs
    · exact hu.reachable

end IsLike

end DataSet

/-! ### Tables by name -/

/-- The table of a name, with its place. -/
def DataSet.table (ds : DataSet) (name : String) : Result (Nat × Table) :=
  match ds.find? name with
  | some found => .ok found
  | none => .error (.resolution (.unknownTable name))

theorem DataSet.table_eq_ok {ds : DataSet} {name : String} {k : Nat} {t : Table} :
    ds.table name = .ok (k, t) ↔ ds.find? name = some (k, t) := by
  unfold table
  cases ds.find? name <;> simp

theorem DataSet.mem_of_table {ds : DataSet} {name : String} {k : Nat} {t : Table}
    (h : ds.table name = .ok (k, t)) : t ∈ ds.tables :=
  List.mem_of_getElem? (find?_eq_some.1 (table_eq_ok.1 h)).1

/-- The table for statements that name none, with its place. -/
def Request.primaryOn (r : Request) (ds : DataSet) : Result (Nat × Table) :=
  if r.primary.isEmpty then .error (.resolution .noPrimaryTable) else ds.table r.primary

theorem Request.primaryOn_eq_ok {r : Request} {ds : DataSet} {k : Nat} {t : Table} :
    r.primaryOn ds = .ok (k, t) ↔
      r.primary.isEmpty = false ∧ ds.find? r.primary = some (k, t) := by
  unfold primaryOn
  split <;> simp [*, DataSet.table_eq_ok]

theorem Request.mem_of_primaryOn {r : Request} {ds : DataSet} {k : Nat} {t : Table}
    (h : r.primaryOn ds = .ok (k, t)) : t ∈ ds.tables :=
  List.mem_of_getElem? (DataSet.find?_eq_some.1 (primaryOn_eq_ok.1 h).2).1

namespace Planning

variable {ds : DataSet} {k : Nat} {t u : Table} {name : String} {α : Type}
  {f : Nat × Table → Planning α} {g : Nat × Table → Result α}

theorem table_run_eq (name : String) (ds : DataSet) :
    (Planning.table name).run ds = (ds.table name, ds) := by
  change (match ds.find? name with
    | some found => pure found
    | none => throw (.resolution (.unknownTable name)) : Planning (Nat × Table)).run ds = _
  unfold DataSet.table
  cases ds.find? name <;> rfl

theorem table_run (hfind : ds.find? name = some (k, t)) :
    (Planning.table name).run ds = (.ok (k, t), ds) := by
  rw [table_run_eq, DataSet.table_eq_ok.2 hfind]

/-- Going on with the table that a name stands for, on data sets like a given one. -/
theorem table_bind_of_find {result : Result α} (hfind : ds.find? name = some (k, t))
    (h : ∀ u, u.IsLike t → Maintains (fun ds' => ds'.IsLike ds) (f (k, u)) (· = result)) :
    Maintains (fun ds' => ds'.IsLike ds) (table name >>= f) (· = result) := by
  intro ds' like
  obtain ⟨u, hu, hlike⟩ := like.find?_eq_some hfind
  rw [run_bind, table_run hu]
  exact h u hlike ds' like

/-- Going on with the table of a name, if there is one. -/
theorem table_bind_eq
    (h : ∀ k t, ds.find? name = some (k, t) → ∀ u, u.IsLike t →
      Maintains (fun ds' => ds'.IsLike ds) (f (k, u)) (· = g (k, t))) :
    Maintains (fun ds' => ds'.IsLike ds) (table name >>= f) (· = ds.table name >>= g) := by
  unfold DataSet.table
  cases hfind : ds.find? name with
  | none =>
    intro ds' like
    rw [run_bind, table_run_eq, DataSet.table, like.find?_eq_none hfind]
    exact ⟨rfl, like⟩
  | some found => exact table_bind_of_find hfind fun u hu => h found.1 found.2 hfind u hu

/-- Going on with the primary table, on data sets like a given one. -/
theorem primaryTable_bind_eq {r : Request}
    (h : ∀ k t, ds.find? r.primary = some (k, t) → ∀ u, u.IsLike t →
      Maintains (fun ds' => ds'.IsLike ds) (f (k, u)) (· = g (k, t))) :
    Maintains (fun ds' => ds'.IsLike ds) (r.primaryTable >>= f) (· = r.primaryOn ds >>= g) := by
  unfold Request.primaryTable Request.primaryOn
  split
  · exact .throw rfl
  · exact table_bind_eq h

/-- Binding on a table like one of a data set gives what it gives on that one. -/
theorem onTable_eq (reachable : ∀ t ∈ ds.tables, t.Reachable)
    (hfind : ds.find? name = some (k, t)) (hu : u.IsLike t) {binding : Table → Binding α}
    (hbinding : LooksUp binding) :
    Maintains (fun ds' => ds'.IsLike ds) (onTable k u binding) (· = (t.remembering binding).1) := by
  have ht : ds.tables[k]? = some t := (DataSet.find?_eq_some.1 hfind).1
  have like : t.IsLike t := ⟨rfl, reachable t (List.mem_of_getElem? ht)⟩
  exact fun ds' hds => ⟨(hu.result_eq hbinding).trans (like.result_eq hbinding).symm,
    hds.setTable ht (hu.remembering hbinding)⟩

end Planning

/-! ### The column of an identifier -/

/-- The error that is told where the column of an identifier cannot be looked up. -/
def Table.idColumnFault (t : Table) (field : String) : Error → Error
  | .resolution cause =>
    if (t.columnIndex? field).isNone then .resolution (.noIdField t.name field)
    else .resolution cause
  | e => e

theorem Table.idColumn_eq (t : Table) (field : String) :
    t.idColumn field = tryCatch (t.lookUp field) fun e => throw (t.idColumnFault field e) := by
  unfold idColumn
  refine congrArg (tryCatch _) (funext fun e => ?_)
  cases e with
  | resolution cause =>
    dsimp only [idColumnFault]
    split <;> rfl
  | _ => rfl

/-- Looking up the column of an identifier. -/
theorem LooksUp.idColumn (field : String) : LooksUp fun t => t.idColumn field := by
  simp only [Table.idColumn_eq]
  refine (LooksUp.lookUp field).tryCatch fun e => .lift fun {t u} hname hcolumns => ?_
  have hindex : u.columnIndex? field = t.columnIndex? field := by
    rw [Table.columnIndex?, Table.columnIndex?, hcolumns]
  have hfault : u.idColumnFault field e = t.idColumnFault field e := by
    cases e <;> simp only [Table.idColumnFault, hindex, hname]
  exact congrArg Except.error hfault

/-! ### Statements -/

theorem LooksUp.orElseFault {α : Type} {binding : Table → Binding α} (h : LooksUp binding)
    (fault : String → Error) : LooksUp fun t => orElseFault (binding t) (fault t.name) :=
  h.tryCatch fun _ => .lift fun hname _ => congrArg (Except.error ∘ fault) hname

namespace Statement

/-- The table that a statement is bound on. -/
def target (r : Request) : Statement → Planning (Nat × Table)
  | .filter f => Planning.table f.table
  | .condition _ | .identifier _ => r.primaryTable

/-- The table that a statement is bound on, with its place. -/
def targetOn (r : Request) (ds : DataSet) : Statement → Result (Nat × Table)
  | .filter f => ds.table f.table
  | .condition _ | .identifier _ => r.primaryOn ds

/-- A statement as a bound one on its table. -/
def bindOn (r : Request) : Statement → Table → Binding Tree
  | .filter f, t => do
    let root ← t.bindTerm f.condition
    let order ← t.bindOrder f.order
    return { table := t.name, root, limit := f.limit.getD noLimit, order }
  | .condition term, t => do return .ofRoot t.name (← t.bindTerm term)
  | .identifier id, t => do
    let field := id.field r.idFields
    let column ← orElseFault (t.lookUp field) (.resolution (.noPrimaryIdField t.name field))
    return .ofRoot t.name
      (.binary (.comparison (.equal false)) column.toExpr (.literal id.toValue))

/-- A statement as a bound one. -/
def treeOn (r : Request) (ds : DataSet) (s : Statement) : Result Tree :=
  s.targetOn r ds >>= fun (_, t) => (t.remembering (s.bindOn r)).1

variable {ds : DataSet} {r : Request} {k : Nat} {t : Table}

theorem mem_of_targetOn {s : Statement} (h : s.targetOn r ds = .ok (k, t)) : t ∈ ds.tables := by
  cases s with
  | filter f => exact DataSet.mem_of_table h
  | condition _ | identifier _ => exact Request.mem_of_primaryOn h

/-- All kinds of statements are bound in the same way. -/
theorem plan_eq (s : Statement) :
    s.plan r = s.target r >>= fun (k, t) => Planning.onTable k t (s.bindOn r) := by
  cases s <;> rfl

theorem looksUp_bindOn (s : Statement) : LooksUp (s.bindOn r) := by
  cases s with
  | filter f =>
    exact (LooksUp.bindTerm f.condition).bind fun root =>
      (LooksUp.bindOrder f.order).bind fun order =>
        .named fun name => (⟨name, root, f.limit.getD noLimit, order⟩ : Tree)
  | condition term =>
    exact (LooksUp.bindTerm term).bind fun root => .named fun name => Tree.ofRoot name root
  | identifier id =>
    exact ((LooksUp.lookUp (id.field r.idFields)).orElseFault fun name =>
      .resolution (.noPrimaryIdField name (id.field r.idFields))).bind fun column =>
        .named fun name => Tree.ofRoot name
          (.binary (.comparison (.equal false)) column.toExpr (.literal id.toValue))

/-- A bound statement is one on the table it was bound on. -/
theorem table_bindOn (s : Statement) (t : Table) :
    AlwaysGives (s.bindOn r t) fun tree => tree.table = t.name := by
  cases s with
  | filter f => exact .bind fun root => .bind fun order => .pure rfl
  | condition term => exact .bind fun root => .pure rfl
  | identifier id => exact .bind fun column => .pure rfl

end Statement

section Reachable

variable {r : Request} {ds : DataSet} (reachable : ∀ t ∈ ds.tables, t.Reachable)

include reachable

open Planning in
/-- A statement is bound as on the data set as it is at the start, whatever is remembered. -/
theorem plan_eq_treeOn (s : Statement) :
    Maintains (fun ds' => ds'.IsLike ds) (s.plan r) (· = s.treeOn r ds) := by
  have onTarget {name : String} {k : Nat} {t : Table} (hfind : ds.find? name = some (k, t))
      {u : Table} (hu : u.IsLike t) : Maintains (fun ds' => ds'.IsLike ds)
        (onTable k u (s.bindOn r)) (· = (t.remembering (s.bindOn r)).1) :=
    onTable_eq reachable hfind hu s.looksUp_bindOn
  unfold Statement.treeOn
  rw [s.plan_eq]
  cases s with
  | filter f => exact table_bind_eq fun k t hfind u hu => onTarget hfind hu
  | condition _ | identifier _ =>
    exact primaryTable_bind_eq fun k t hfind u hu => onTarget hfind hu

/-- The statements of a filter are bound as each of them is on the data set as it is at the start,
and the data set stays like it was. -/
theorem Request.trees_of_isLike {ds' : DataSet} (like : ds'.IsLike ds) {statements : List Statement}
    (parsed : Statement.listOfText r.filter = .ok statements) :
    (r.trees ds').1.result = statements.mapM (Statement.treeOn r ds) ∧
      (r.trees ds').2.IsLike ds := by
  have all : Maintains (fun ds' => ds'.IsLike ds) (statements.mapM (Statement.plan r))
      (· = statements.mapM (Statement.treeOn r ds)) := by
    clear parsed
    induction statements with
    | nil => exact .pure rfl
    | cons s statements ih =>
      rw [List.mapM_cons, List.mapM_cons]
      exact (plan_eq_treeOn reachable s).bind_eq fun tree _ => ih.bind_eq fun trees _ => .pure rfl
  unfold trees withStatements
  rw [parsed]
  exact all ds' like

theorem Request.trees_eq {statements : List Statement}
    (parsed : Statement.listOfText r.filter = .ok statements) :
    (r.trees ds).1.result = statements.mapM (Statement.treeOn r ds) :=
  (trees_of_isLike reachable ⟨rfl, reachable⟩ parsed).1

end Reachable

end TableFilter
