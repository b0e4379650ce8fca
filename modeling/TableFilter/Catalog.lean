import TableFilter.Error
import TableFilter.Expr

/-!
# Tables and data sets

Tables have typed columns and rows with a value for each. Tables and columns are found by name, in
any case of ASCII letters.

A table remembers the expressions of its computed columns once they are bound. What is remembered
depends on the columns only, so adding a column forgets it.

## Main definitions

* `Column`, `Row`, `Table`, `DataSet`: the data
* `Table.columnIndex?`, `DataSet.tableIndex?`: places by name
* `Changing`: what changes a table or a data set, and can fail on the way
* `Table.appendColumn`, `Table.appendRow`, `Table.replaceValue`, `DataSet.appendTable`: changes, one
  step after the other
* `Table.addColumn`, `Table.addRow`, `Table.setValue`, `DataSet.addTable`: what comes of them
* `IdFields`: the columns that hold the identifiers of rows
-/

namespace TableFilter

open TableFilter.Text

/-- A column. The values of a computed one come from a formula. -/
structure Column where
  name : String
  type : DataType
  formula : Option String
deriving DecidableEq, Repr

/-- The values of a row in the order of columns. -/
abbrev Row := List Value

/-- A table, and the bound expressions of its computed columns by place. -/
structure Table where
  name : String
  columns : List Column
  rows : List Row
  bound : List (Nat × Expr)

/-- Tables in the order in which they were added. -/
structure DataSet where
  tables : List Table

/-- The place of a row in a data set. -/
structure RowRef where
  table : Nat
  row : Nat
deriving DecidableEq, Repr

/-- The names of the columns that hold the identifiers of rows. -/
structure IdFields where
  signalId : String := "SignalID"
  measurementKey : String := "ID"
  pointTag : String := "PointTag"
deriving DecidableEq, Repr

/-- The value at a place of a row. -/
def Row.value (r : Row) (index : Nat) : Result Value :=
  match r[index]? with
  | some v => .ok v
  | none => .error (.resolution (.valueOutOfRange index r.length))

/-- What changes something and can fail. What was changed before a failure stays changed. -/
abbrev Changing (σ : Type) := ExceptT Error (StateM σ)

/-- What something becomes by a change that does not fail. -/
def Changing.result {σ α : Type} (change : Changing σ α) (s : σ) : Result σ :=
  match change.run s with
  | (.ok _, after) => .ok after
  | (.error e, _) => .error e

namespace Table

/-- A table without columns and rows. -/
def empty (name : String) : Table := { name, columns := [], rows := [], bound := [] }

/-- The place of a column. -/
def columnIndex? (t : Table) (name : String) : Option Nat :=
  t.columns.findIdx? fun c => sameAsciiCase c.name name

/-! ### Changes -/

/-- Appends a column and gives its place. Each row is given a null for it, and what was remembered
is forgotten. -/
def appendColumn (c : Column) : Changing Table Nat := do
  let t ← get
  if (t.columnIndex? c.name).isSome then throw (.resolution (.repeatedColumn c.name t.name))
  else
    modify fun t => { t with rows := t.rows.map fun r => r ++ [.null c.type] }
    modify fun t => { t with columns := t.columns ++ [c] }
    modify fun t => { t with bound := [] }
    return (← get).columns.length - 1

/-- A table with one column more. -/
def addColumn (t : Table) (c : Column) : Result Table := (appendColumn c).result t

/-- A table with columns one after the other. -/
def addColumns (t : Table) : List Column → Result Table
  | [] => .ok t
  | c :: cs => do (← t.addColumn c).addColumns cs

/-- A value as a column stores it. A null takes the type of the column. -/
def checkValue (t : Table) (c : Column) (v : Value) : Result Value :=
  if v.isNull then .ok (.null c.type)
  else if v.dataType == c.type then .ok v
  else .error (.typing (.cell c.name t.name c.type v.dataType))

/-- Values as columns store them. -/
def checkValues (t : Table) : List Column → List Value → Result Row
  | c :: cs, v :: vs => do
    let v ← t.checkValue c v
    .ok (v :: (← checkValues t cs vs))
  | _, _ => .ok []

/-- Appends a row and gives its place. All values are checked before. -/
def appendRow (values : List Value) : Changing Table Nat := do
  let t ← get
  if values.length != t.columns.length then
    throw (.evaluation (.rowWidth t.name t.columns.length values.length))
  else
    let row ← t.checkValues t.columns values
    modify fun t => { t with rows := t.rows ++ [row] }
    return (← get).rows.length - 1

/-- A table with one row more. -/
def addRow (t : Table) (values : List Value) : Result Table := (appendRow values).result t

/-- Replaces one value. The value is checked before the row is looked for. -/
def replaceValue (row column : Nat) (v : Value) : Changing Table Unit := do
  let t ← get
  match t.columns[column]? with
  | none => throw (.resolution (.columnOutOfRange column t.name))
  | some c =>
    let v ← t.checkValue c v
    match t.rows[row]? with
    | none => throw (.resolution (.rowOutOfRange row t.name))
    | some r =>
      if column < r.length then
        modify fun t => { t with rows := t.rows.set row (r.set column v) }
      else throw (.resolution (.valueOutOfRange column r.length))

/-- A table with one value replaced. -/
def setValue (t : Table) (row column : Nat) (v : Value) : Result Table :=
  (replaceValue row column v).result t

end Table

namespace DataSet

/-- The data set without tables. -/
def empty : DataSet := { tables := [] }

/-- The place of a table. -/
def tableIndex? (ds : DataSet) (name : String) : Option Nat :=
  ds.tables.findIdx? fun t => sameAsciiCase t.name name

/-- A table by name, with its place. -/
def find? (ds : DataSet) (name : String) : Option (Nat × Table) := do
  let k ← ds.tableIndex? name
  some (k, ← ds.tables[k]?)

/-- Appends a table and gives its place. -/
def appendTable (t : Table) : Changing DataSet Nat := do
  if ((← get).tableIndex? t.name).isSome then throw (.resolution (.repeatedTable t.name))
  else
    modify fun ds => { tables := ds.tables ++ [t] }
    return (← get).tables.length - 1

/-- A data set with one table more. -/
def addTable (ds : DataSet) (t : Table) : Result DataSet := (appendTable t).result ds

/-- A data set with a table replaced. -/
def setTable (ds : DataSet) (k : Nat) (t : Table) : DataSet := { tables := ds.tables.set k t }

/-- Changes a table in its place. -/
def onTable {α : Type} (k : Nat) (t : Table) (change : Changing Table α) : Changing DataSet α :=
  fun ds =>
    let (result, after) := change.run t
    (result, ds.setTable k after)

/-- The row at a place. -/
def row? (ds : DataSet) (r : RowRef) : Option Row := do (← ds.tables[r.table]?).rows[r.row]?

end DataSet

end TableFilter
