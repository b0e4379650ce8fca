import TableFilter.Catalog
import TableFilter.Conversion
import TableFilter.Json.Reading
import TableFilter.Json.Text

/-!
# Data sets as JSON documents

A document holds tables, a table holds columns and rows, and a row is an array of values in the
order of columns or an object with values by column. Values that are missing are nulls.

Each of these but a row may be written as an object with members by name, or as an array with
members in their order.

## Main definitions

* `RowDocument`, `TableDocument`: rows and tables as documents hold them
* `Datum.toValue`: the value that a column stores for a datum
* `Table.rowOf`: the row that a table stores for a written one
* `DataSet.ofDocument`, `DataSet.ofText`: data sets
* `IdFields.ofText?`: names of the columns of identifiers
* `DocumentFault`: what can be wrong with a document
-/

namespace TableFilter

/-! ### Records in documents -/

namespace Json

/-- The members of an object with a name. -/
def membersNamed (name : String) (members : List (Option String × Json)) : List Json :=
  members.filterMap fun (other, j) => if other == some name then some j else none

/-- A member by name, which may be missing but not repeat. -/
def member? (members : List (Option String × Json)) (name : String) : Option (Option Json) :=
  match membersNamed name members with
  | [] => some none
  | [j] => some (some j)
  | _ => none

/-- The fields of a record. An object has them by name, and may have members besides, with values
of any kind. An array has them in their order, where the last ones may be missing. -/
def fields? (names : List String) : Json → Option (List (Option Json))
  | .object members =>
    let members := members.map fun (name, j) => (textOf? name, j)
    if members.all fun (name, _) => name.isSome then names.mapM (member? members) else none
  | .array items =>
    if items.length ≤ names.length then
      some (items.map some ++ List.replicate (names.length - items.length) none)
    else none
  | _ => none

/-- A document that is a text. -/
def string? : Json → Option String
  | .string fs => textOf? fs
  | _ => none

/-- A document that is an array. -/
def array? : Json → Option (List Json)
  | .array items => some items
  | _ => none

/-- A field that may be missing, or null, or else has to be a text. -/
def optionalText? : Option Json → Option (Option String)
  | none | some .null => some none
  | some j => j.string?.map some

/-- The name of a type, alone or as the only member of an object, whose value is null. -/
def dataType? : Json → Option DataType
  | .string fs => (textOf? fs).bind DataType.ofName?
  | .object [(name, .null)] => (textOf? name).bind DataType.ofName?
  | _ => none

end Json

/-! ### Parts of a document -/

/-- A row as a document holds it. -/
inductive RowDocument where
  | values (items : List Datum)
  | named (members : List (String × Datum))

/-- A table as a document holds it. -/
structure TableDocument where
  name : String
  columns : List Column
  rows : List RowDocument

/-- The number of arrays and objects around a row. -/
def depthOfRows : Nat := 4

/-- A row. -/
def RowDocument.ofJson? (j : Json) : Option RowDocument :=
  if Json.depthLimit < depthOfRows + j.depth then none
  else
    match j.datum? with
    | some (.array items) => some (.values items)
    | some (.object members) => some (.named members)
    | _ => none

/-- A column. -/
def Column.ofJson? (j : Json) : Option Column := do
  match ← j.fields? ["name", "type", "expression"] with
  | [some name, some type, formula] =>
    let formula ← Json.optionalText? formula
    return { name := ← name.string?, type := ← type.dataType?, formula }
  | _ => none

/-- A table. It may have no rows. -/
def TableDocument.ofJson? (j : Json) : Option TableDocument := do
  match ← j.fields? ["name", "columns", "rows"] with
  | [some name, some columns, rows] =>
    let name ← name.string?
    let columns ← (← columns.array?).mapM Column.ofJson?
    let rows ←
      match rows with
      | none => some []
      | some rows => (← rows.array?).mapM RowDocument.ofJson?
    return { name, columns, rows }
  | _ => none

/-- The tables of a document. -/
def tablesOfJson? (j : Json) : Option (List TableDocument) := do
  match ← j.fields? ["tables"] with
  | [some tables] => (← tables.array?).mapM TableDocument.ofJson?
  | _ => none

/-! ### Faults -/

/-- Why a datum is no value for a column. -/
inductive DatumFault where
  | error (e : Error)
  | notScalar (d : Datum)

/-- The wording of why a datum is no value. -/
def DatumFault.message : DatumFault → String
  | .error e => e.message
  | .notScalar d => "expected a scalar, got " ++ String.ofList d.text

/-- Why a written row is no row of a table. -/
inductive RowFault where
  | tooManyValues (values columns : Nat)
  | unknownColumn (name : String)
  | column (name : String) (cause : DatumFault)

/-- The wording of why a written row is no row, outermost cause first. -/
def RowFault.causes : RowFault → List String
  | .tooManyValues values columns =>
    ["row has " ++ toString values ++ " values but the table has " ++ toString columns ++
      " columns"]
  | .unknownColumn name => ["unknown column " ++ quoted name]
  | .column name cause => ["column " ++ quoted name, cause.message]

/-- What is wrong with a document. -/
inductive DocumentFault where
  | unreadable
  | row (table : String) (index : Nat) (cause : RowFault)
  | error (e : Error)

/-- The wording of a document that is not what it has to be. -/
def unreadableText : String := "the text does not have the form of the document"

/-- The wording of what is wrong with a document, outermost cause first. -/
def DocumentFault.causes : DocumentFault → List String
  | .unreadable => ["Failed to parse data set JSON", unreadableText]
  | .row table index cause =>
    ("Table " ++ quoted table ++ " row " ++ toString index) :: cause.causes
  | .error e => [e.message]

/-! ### From documents to tables -/

/-- A number as a value: an integer of 64 bits, or else a double. -/
def Json.Number.toValue : Json.Number → Value
  | .natural n =>
    if fitsInt64 n.toNat then .int64 (Int64.ofInt n.toNat) else .double (Binary64.ofInt n.toNat)
  | .negative i => .int64 i
  | .double x => .double x

/-- A value as one of a type. -/
def valueIn (type : DataType) (v : Value) : Except DatumFault Value :=
  (v.convert type).mapError .error

/-- The value of a type that a datum stands for. -/
def Datum.toValue (type : DataType) : Datum → Except DatumFault Value
  | .null => .ok (.null type)
  | .boolean b => valueIn type (.boolean b)
  | .number n => valueIn type n.toValue
  | .string s => valueIn type (.string s)
  | d => .error (.notScalar d)

/-- The values of columns for data in their order. Where data are missing there are nulls. -/
def rowOfData : List Column → List Datum → Except RowFault Row
  | [], _ => .ok []
  | c :: cs, ds => do
    let v ← ((ds.headD .null).toValue c.type).mapError (.column c.name)
    .ok (v :: (← rowOfData cs ds.tail))

/-- The first member whose name is that of a column, and the members but this. -/
def takeMember (c : Column) : List (String × Datum) → Option Datum × List (String × Datum)
  | [] => (none, [])
  | (name, d) :: rest =>
    if Text.sameAsciiCase c.name name then (some d, rest)
    else
      let (found, rest) := takeMember c rest
      (found, (name, d) :: rest)

/-- Members in the order of columns, and the members that no column takes. -/
def arrange : List Column → List (String × Datum) → List Datum × List (String × Datum)
  | [], members => ([], members)
  | c :: cs, members =>
    let (found, rest) := takeMember c members
    let (ds, rest) := arrange cs rest
    (found.getD .null :: ds, rest)

/-- The row that a table stores for a written one. -/
def Table.rowOf (t : Table) : RowDocument → Except RowFault Row
  | .values items =>
    if t.columns.length < items.length then
      .error (.tooManyValues items.length t.columns.length)
    else rowOfData t.columns items
  | .named members =>
    match arrange t.columns members with
    | (_, (name, _) :: _) => .error (.unknownColumn name)
    | (ds, []) => rowOfData t.columns ds

/-- A table with written rows added, the first of which has a number. -/
def Table.addDocuments (t : Table) (index : Nat) : List RowDocument → Except DocumentFault Table
  | [] => .ok t
  | d :: ds => do
    let row ← (t.rowOf d).mapError (.row t.name index)
    let t ← (t.addRow row).mapError .error
    t.addDocuments (index + 1) ds

/-- The table that a document holds. -/
def Table.ofDocument (d : TableDocument) : Except DocumentFault Table := do
  let t ← ((Table.empty d.name).addColumns d.columns).mapError .error
  t.addDocuments 0 d.rows

namespace DataSet

/-- A data set with the tables of a document added. -/
def addDocuments (ds : DataSet) : List TableDocument → Except DocumentFault DataSet
  | [] => .ok ds
  | d :: rest => do
    let t ← Table.ofDocument d
    let ds ← (ds.addTable t).mapError .error
    ds.addDocuments rest

/-- The data set that a document holds. -/
def ofDocument (tables : List TableDocument) : Except DocumentFault DataSet :=
  empty.addDocuments tables

/-- The data set that a text holds. -/
def ofText (text : String) : Except DocumentFault DataSet :=
  match (Json.ofText? text).bind tablesOfJson? with
  | none => .error .unreadable
  | some tables => ofDocument tables

end DataSet

/-- The datum that a text holds, if it is not nested too deep. -/
def Datum.ofText? (text : String) : Option Datum := do
  let j ← Json.ofText? text
  if Json.depthLimit < j.depth then none else j.datum?

/-! ### Identifier fields -/

/-- A field that is a text, or missing and then has its usual value. -/
def textOr? (usual : String) : Option Json → Option String
  | none => some usual
  | some j => j.string?

/-- The names of identifier columns that a text holds. Those it leaves out are the usual ones. -/
def IdFields.ofText? (text : String) : Option IdFields := do
  let usual : IdFields := {}
  match ← (← Json.ofText? text).fields? ["signal_id", "measurement_key", "point_tag"] with
  | [signalId, measurementKey, pointTag] =>
    return {
      signalId := ← textOr? usual.signalId signalId
      measurementKey := ← textOr? usual.measurementKey measurementKey
      pointTag := ← textOr? usual.pointTag pointTag }
  | _ => none

end TableFilter
