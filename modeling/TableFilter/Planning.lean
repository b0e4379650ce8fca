import TableFilter.Binding
import TableFilter.Statement.OfTokens

/-!
# Planning

Planning binds statements against the tables of a data set. Statements that name no table are bound
against the primary table.

## Main definitions

* `Request`: a filter and what is known besides
* `Planning`: what binds, keeping what tables remember even if it fails
* `Statement.plan`: a statement as a bound one
* `planFilter`, `planAll`: statements on named tables, and all statements of a text
-/

namespace TableFilter

/-- A filter, the table for statements that name none, and the columns of identifiers. -/
structure Request where
  filter : String
  primary : String := ""
  idFields : IdFields := {}

/-- What can fail and lets the tables of a data set remember. -/
abbrev Planning := ExceptT Error (StateM DataSet)

namespace Planning

/-- Runs what binds on one of the tables. -/
def onTable {α : Type} (k : Nat) (t : Table) (binding : Table → Binding α) : Planning α :=
  fun ds =>
    let (result, t) := t.remembering binding
    (result, ds.setTable k t)

/-- A table by name, with its place. -/
def table (name : String) : Planning (Nat × Table) := do
  match (← get).find? name with
  | some found => return found
  | none => throw (.resolution (.unknownTable name))

end Planning

/-- The table for statements that name none. -/
def Request.primaryTable (r : Request) : Planning (Nat × Table) :=
  if r.primary.isEmpty then throw (.resolution .noPrimaryTable) else Planning.table r.primary

namespace IdLiteral

/-- The column that holds identifiers of the kind. -/
def field (fields : IdFields) : IdLiteral → String
  | .guid _ => fields.signalId
  | .measurementKey _ => fields.measurementKey
  | .pointTag _ => fields.pointTag

/-- An identifier as a value. -/
def toValue : IdLiteral → Value
  | .guid g => .guid g
  | .measurementKey s => .string s
  | .pointTag s => .string s

end IdLiteral

/-- An action whose errors are all replaced by one. -/
def orElseFault {α : Type} (action : Binding α) (e : Error) : Binding α :=
  tryCatch action fun _ => throw e

/-- A statement on a named table as a bound one. -/
def planFilter (f : FilterStatement) : Planning Tree := do
  let (k, t) ← Planning.table f.table
  Planning.onTable k t fun t => do
    let root ← t.bindTerm f.condition
    let order ← t.bindOrder f.order
    return { table := t.name, root, limit := f.limit.getD noLimit, order }

/-- A term on the primary table as a bound statement. -/
def planCondition (r : Request) (term : Term) : Planning Tree := do
  let (k, t) ← r.primaryTable
  Planning.onTable k t fun t => do return .ofRoot t.name (← t.bindTerm term)

/-- An identifier as a bound statement: its column equals it. -/
def planIdentifier (r : Request) (id : IdLiteral) : Planning Tree := do
  let (k, t) ← r.primaryTable
  Planning.onTable k t fun t => do
    let field := id.field r.idFields
    let column ← orElseFault (t.lookUp field) (.resolution (.noPrimaryIdField t.name field))
    return .ofRoot t.name
      (.binary (.comparison (.equal false)) column.toExpr (.literal id.toValue))

/-- A statement as a bound one. -/
def Statement.plan (r : Request) : Statement → Planning Tree
  | .filter f => planFilter f
  | .condition t => planCondition r t
  | .identifier id => planIdentifier r id

/-- The outcome of something that reads a filter: the errors in the text of the filter that were
reported on the way, and the result. -/
structure Outcome (α : Type) where
  reported : List Error
  result : Result α

/-- Reads the statements of a request and goes on with them. An error in the text is reported. -/
def Request.withStatements {α : Type} (r : Request) (ds : DataSet)
    (action : List Statement → Planning α) : Outcome α × DataSet :=
  match Statement.listOfText r.filter with
  | .error e => (⟨if e.isMalformed then [e] else [], .error e⟩, ds)
  | .ok statements =>
    let (result, ds) := action statements ds
    (⟨[], result⟩, ds)

/-- The bound statements of a request. -/
def Request.trees (r : Request) (ds : DataSet) : Outcome (List Tree) × DataSet :=
  r.withStatements ds fun statements => statements.mapM (Statement.plan r)

end TableFilter
