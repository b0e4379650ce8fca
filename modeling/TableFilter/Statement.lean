import TableFilter.Guid
import TableFilter.Term

/-!
# Statements

A filter is a list of statements. Each selects rows: the rows that carry an identifier, the rows of
a named table for which a term holds, or the rows of the primary table for which a term holds.

## Main definitions

* `IdLiteral`: the three kinds of identifiers of a row
* `OrderItem`, `FilterStatement`, `Statement`: statements
-/

namespace TableFilter

/-- An identifier of a row. -/
inductive IdLiteral where
  | guid (g : Guid)
  | measurementKey (text : String)
  | pointTag (text : String)
deriving DecidableEq

/-- A column to sort by. An exact one tells letters of different case apart. -/
structure OrderItem where
  column : String
  ascending : Bool
  exact : Bool
deriving DecidableEq, Repr

/-- A selection from a named table, sorted, and cut off after a number of rows. -/
structure FilterStatement where
  table : String
  limit : Option Int
  condition : Term
  order : List OrderItem

/-- A statement. -/
inductive Statement where
  | identifier (id : IdLiteral)
  | filter (f : FilterStatement)
  | condition (t : Term)

end TableFilter
