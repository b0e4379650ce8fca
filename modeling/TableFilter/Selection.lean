import TableFilter.Planning
import TableFilter.Selection.Gathered
import TableFilter.Tree.Rows

/-!
# Selections

What a filter selects: rows and the signal ids they carry. A single statement gives them as they
come. From the second statement on they are merged: what is there already is not added again.

Identifiers are looked up directly, statements on tables run as bound statements.

## Main definitions

* `Selection`: rows and ids selected so far
* `Tracking`: whether rows and ids are wanted
* `Request.select`: what a filter selects
* `Table.select`: rows of one table by a term, columns to sort by and a limit
-/

namespace TableFilter

/-- Rows and signal ids selected so far, and the number of statements begun. -/
structure Selection where
  gatheredRows : Gathered RowRef
  gatheredIds : Gathered Guid
  statements : Nat
deriving DecidableEq

namespace Selection

/-- Nothing selected. -/
def empty : Selection := { gatheredRows := .empty, gatheredIds := .empty, statements := 0 }

/-- The rows in the order in which they were selected. -/
def rows (s : Selection) : List RowRef := s.gatheredRows.list

/-- The signal ids in the order in which they were selected. -/
def ids (s : Selection) : List Guid := s.gatheredIds.list

/-- Begins another statement. The second one turns to merging. -/
def beginStatement (s : Selection) : Selection :=
  let s := { s with statements := s.statements + 1 }
  if s.statements == 2 then
    { s with gatheredRows := s.gatheredRows.merge, gatheredIds := s.gatheredIds.merge }
  else s

/-- Adds a row. -/
def addRow (s : Selection) (r : RowRef) : Selection :=
  { s with gatheredRows := s.gatheredRows.add r }

/-- Adds a signal id. -/
def addId (s : Selection) (g : Guid) : Selection :=
  { s with gatheredIds := s.gatheredIds.add g }

/-- The set of the signal ids, listed in their order. -/
def idSet (s : Selection) : List Guid :=
  s.gatheredIds.members.elements.mergeSort fun a b => a.order b != .gt

end Selection

/-- Whether rows and signal ids are wanted. -/
structure Tracking where
  rows : Bool := true
  ids : Bool := true
deriving DecidableEq, Repr

/-! ### Rows of bound statements -/

/-- The column of an identifier. That there is none is told with the name of the field. -/
def Table.idColumn (t : Table) (field : String) : Binding BoundColumn :=
  tryCatch (t.lookUp field) fun e =>
    match e with
    | .resolution _ =>
      if (t.columnIndex? field).isNone then throw (.resolution (.noIdField t.name field))
      else throw e
    | _ => throw e

/-- The signal id that a row carries, if its value can be read as one. -/
def BoundColumn.signalId? (clock : Clock) (c : BoundColumn) (row : Row) : Option Guid :=
  match (c.valueOn clock row).bind (·.convert .guid) with
  | .ok (.guid g) => some g
  | _ => none

/-- Adds a row and its signal id, as far as they are wanted. -/
def Selection.addFound (s : Selection) (clock : Clock) (tracking : Tracking) (table : Nat)
    (idColumn : Option BoundColumn) (rows : List Row) (place : Nat) : Selection :=
  let s := if tracking.rows then s.addRow ⟨table, place⟩ else s
  match idColumn, rows[place]? with
  | some c, some row =>
    match c.signalId? clock row with
    | some g => s.addId g
    | none => s
  | _, _ => s

/-- Adds what a statement on a table selects. -/
def selectRows (clock : Clock) (r : Request) (tracking : Tracking) (statement : Statement)
    (s : Selection) : Planning Selection := do
  let tree ← statement.plan r
  let (k, t) ← Planning.table tree.table
  let idColumn ←
    if tracking.ids then
      some <$> Planning.onTable k t fun t => t.idColumn r.idFields.signalId
    else pure none
  let places := tree.rows clock t.rows
  return places.foldl (fun s k' => s.addFound clock tracking k idColumn t.rows k') s

/-! ### Identifiers -/

/-- Whether a value is an identifier, in any case. -/
def IdLiteral.isValue (id : IdLiteral) (v : Value) : Bool :=
  match id, v with
  | .guid g, .guid h => g == h
  | .measurementKey s, .string t | .pointTag s, .string t => compareText false t s == .eq
  | _, _ => false

/-- The place of the row that carries an identifier, with that of its table. -/
def findIdentifier (clock : Clock) (r : Request) (id : IdLiteral) :
    Planning (Nat × Table × Option Nat) := do
  let (k, t) ← r.primaryTable
  let column ← Planning.onTable k t fun t => t.idColumn (id.field r.idFields)
  return (k, t, column.firstRow? clock id.isValue t.rows)

/-- Adds what an identifier selects. A signal id is selected whether or not a row carries it. -/
def selectIdentifier (clock : Clock) (r : Request) (tracking : Tracking) (id : IdLiteral)
    (s : Selection) : Planning Selection := do
  match id with
  | .guid g =>
    let s := if tracking.ids then s.addId g else s
    if tracking.rows then
      let (k, _, place) ← findIdentifier clock r id
      match place with
      | some place => return s.addRow ⟨k, place⟩
      | none => return s
    else return s
  | _ =>
    let (k, t, place) ← findIdentifier clock r id
    match place with
    | none => return s
    | some place =>
      let s := if tracking.rows then s.addRow ⟨k, place⟩ else s
      if tracking.ids then
        let (_, t) ← Planning.table t.name
        let column ← Planning.onTable k t fun t => t.idColumn r.idFields.signalId
        return s.addFound clock ⟨false, true⟩ k (some column) t.rows place
      else return s

/-! ### Whole filters -/

/-- Adds what a statement selects. -/
def selectStatement (clock : Clock) (r : Request) (tracking : Tracking) (s : Selection)
    (statement : Statement) : Planning Selection :=
  match statement with
  | .identifier id => selectIdentifier clock r tracking id s.beginStatement
  | _ => selectRows clock r tracking statement s.beginStatement

/-- What the statements of a request select. -/
def Request.select (clock : Clock) (r : Request) (tracking : Tracking) (ds : DataSet) :
    Outcome Selection × DataSet :=
  r.withStatements ds fun statements =>
    statements.foldlM (selectStatement clock r tracking) .empty

/-- The rows that a filter selects. -/
def Request.selectRows (clock : Clock) (r : Request) (ds : DataSet) :
    Result (List RowRef) × DataSet :=
  let (outcome, ds) := r.select clock ⟨true, false⟩ ds
  (outcome.result.map (·.rows), ds)

/-- The signal ids that a filter selects. -/
def Request.selectIds (clock : Clock) (r : Request) (ds : DataSet) :
    Result (List Guid) × DataSet :=
  let (outcome, ds) := r.select clock ⟨false, true⟩ ds
  (outcome.result.map (·.ids), ds)

/-! ### One table -/

namespace Table

/-- A term, columns to sort by and a limit as a bound statement. Blank text sorts by nothing. -/
def bindSelection (t : Table) (condition : String) (order : Option String) (limit : Int) :
    Binding Tree := do
  let root ← t.bindTerm (← Term.ofText condition)
  let terms ←
    match order.filter fun text => !(Text.trim text.toList).isEmpty with
    | some text => t.bindOrder (← OrderItem.listOfText text)
    | none => pure []
  return { table := t.name, root, limit, order := terms }

/-- The places of the rows of a table that a term, columns to sort by and a limit select. -/
def select (clock : Clock) (t : Table) (condition : String) (order : Option String)
    (limit : Int) : Result (List Nat) × Table :=
  let (tree, t) := t.remembering fun t => t.bindSelection condition order limit
  (tree.map fun tree => tree.rows clock t.rows, t)

/-- The value of a text on a row. -/
def evalText (clock : Clock) (t : Table) (row : Row) (text : String) : Result Value × Table :=
  let (tree, t) := t.remembering fun t => t.bindText text
  (tree.bind fun tree => tree.root.evalOn ⟨clock, some row⟩, t)

end Table

/-- The value of a text without columns. -/
def evalText (clock : Clock) (text : String) : Result Value := do
  evalFree clock (← (← Term.ofText text).bindFree)

end TableFilter
