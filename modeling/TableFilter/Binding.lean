import TableFilter.Catalog
import TableFilter.Statement
import TableFilter.Term.OfTokens
import TableFilter.Tree

/-!
# Binding

Binding looks up the columns of a term. A computed column is bound when it is first met, and its
expression remembered. A column whose formula leads back to itself is refused.

## Main definitions

* `Binding`: what binds terms, keeping what is remembered even if it fails
* `Term.bindWith`: a term bound by a way to look up columns
* `Table.lookUp`: columns of a table
* `Table.bindTerm`, `Table.bindOrder`, `Table.bindText`: terms, columns to sort by, and texts
* `Term.bindFree`: terms without columns
-/

namespace TableFilter

/-- The expressions of computed columns that are remembered, by place. -/
abbrev BoundColumns := List (Nat × Expr)

/-- What can fail and remembers expressions. -/
abbrev Binding := ExceptT Error (StateM BoundColumns)

/-! ### Terms -/

namespace Term

mutual

/-- A term bound by a way to look up columns. -/
def bindWith (lookUp : String → Binding BoundColumn) : Term → Binding Expr
  | .literal v => return .literal v
  | .column name => do return (← lookUp name).toExpr
  | .unary op e => do return .unary op (← e.bindWith lookUp)
  | .binary op a b => do
    let a ← a.bindWith lookUp
    let b ← b.bindWith lookUp
    return .binary op a b
  | .nullTest negated e => do return .nullTest negated (← e.bindWith lookUp)
  | .inList negated exact e es => do
    let e ← e.bindWith lookUp
    let es ← bindAllWith lookUp es
    return .inList negated exact e es
  | .call f es => do
    f.checkCount es.length
    return .call f (← bindAllWith lookUp es)

/-- Terms bound one after the other. -/
def bindAllWith (lookUp : String → Binding BoundColumn) : List Term → Binding (List Expr)
  | [] => return []
  | e :: es => do
    let e ← e.bindWith lookUp
    return e :: (← bindAllWith lookUp es)

end

/-- A term bound where there is no table. -/
def bindFree (t : Term) : Result Expr :=
  let lookUp (name : String) : Binding BoundColumn :=
    throw (.resolution (.columnWithoutTable name))
  ((t.bindWith lookUp).run []).1

end Term

/-! ### Columns of a table -/

/-- Remembers the expression of a computed column, unless one is remembered already. -/
def remember (index : Nat) (e : Expr) : Binding Expr := do
  match (← get).lookup index with
  | some known => return known
  | none => do
    modify ((index, e) :: ·)
    return e

namespace Table

/-- The expression of a computed column: the remembered one, or else its formula bound by a way to
look up columns. `resolving` holds the columns whose formulas led here. -/
def definitionOf (t : Table) (resolving : List Nat) (index : Nat) (c : Column)
    (formula : String) (lookUp : String → Binding BoundColumn) : Binding Expr := do
  match (← get).lookup index with
  | some known => return known
  | none =>
    if resolving.contains index then throw (.resolution (.selfReference c.name t.name))
    else
      let term ← Term.ofText formula
      remember index (← term.bindWith lookUp)

/-- A column by name. `inner` looks up the columns of the formula of a column. -/
def lookUpBy (t : Table) (resolving : List Nat)
    (inner : Nat → Column → String → Binding BoundColumn) (name : String) :
    Binding BoundColumn :=
  match t.columnIndex? name with
  | none => throw (.resolution (.unknownColumn name t.name))
  | some index =>
    match t.columns[index]? with
    | none => throw (.resolution (.unknownColumn name t.name))
    | some c =>
      let head : ColumnHead := ⟨index, c.name, c.type⟩
      match c.formula with
      | none => return ⟨head, none⟩
      | some formula => do
        return ⟨head, some (← t.definitionOf resolving index c formula (inner index c))⟩

/-- A column by name. `depth` bounds how many formulas may lead from one to the next; there are no
more than columns, as none may lead back. -/
def lookUpTo (t : Table) : Nat → List Nat → String → Binding BoundColumn
  | 0, resolving =>
    t.lookUpBy resolving fun _ c _ => throw (.resolution (.selfReference c.name t.name))
  | depth + 1, resolving =>
    t.lookUpBy resolving fun index _ => t.lookUpTo depth (index :: resolving)

/-- A column by name. -/
def lookUp (t : Table) (name : String) : Binding BoundColumn :=
  t.lookUpTo t.columns.length [] name

/-- A term over the columns of a table. -/
def bindTerm (t : Table) (term : Term) : Binding Expr := term.bindWith t.lookUp

/-- A column to sort by. -/
def bindOrderItem (t : Table) (item : OrderItem) : Binding OrderTerm := do
  return ⟨← t.lookUp item.column, item.ascending, item.exact⟩

/-- Columns to sort by. -/
def bindOrder (t : Table) (items : List OrderItem) : Binding (List OrderTerm) :=
  items.mapM t.bindOrderItem

/-- A text over the columns of a table as a bound statement. -/
def bindText (t : Table) (text : String) : Binding Tree := do
  return .ofRoot t.name (← t.bindTerm (← Term.ofText text))

/-- Runs what binds on a table, which keeps what is remembered. -/
def remembering {α : Type} (t : Table) (binding : Table → Binding α) : Result α × Table :=
  let (result, bound) := (binding t).run t.bound
  (result, { t with bound })

end Table

end TableFilter
