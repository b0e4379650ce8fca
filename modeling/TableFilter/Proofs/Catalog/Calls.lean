import TableFilter.Proofs.Catalog.DataSets

/-!
# Calls on data sets

Data sets are built by calls that add tables to them, and columns and rows to their tables, or set
values. A call can fail, and the calls after it go on.

When a call succeeds, and what it then does, is said here without the algorithm. A call that does
nothing of this kind fails. Calls are changes, which could fail half-way, but make their checks
first.

## Main definitions

* `TableCall`, `Call`: calls on tables and on data sets
* `TableCall.change`, `Call.change`: calls as changes
* `TableCall.Does`, `Call.Does`: what calls do when they succeed
* `DataSet.perform`, `DataSet.performAll`: data sets after calls

## Main results

* `Call.run_eq_ok`: a call succeeds exactly if there is something that it does
* `Call.change_isAtomic`: a call that fails leaves the data set as it is
* `DataSet.calls_keep_wellFormed`: data sets stay well-formed, and calls that fail change nothing
-/

namespace TableFilter

open TableFilter.Text Result

/-! ### Tables -/

/-- A call on a table. -/
inductive TableCall where
  | addColumn (c : Column)
  | addRow (values : List Value)
  | setValue (row column : Nat) (v : Value)

namespace TableCall

/-- A call as a change of a table. -/
def change : TableCall → Changing Table Unit
  | addColumn c => discard (Table.appendColumn c)
  | addRow values => discard (Table.appendRow values)
  | setValue row column v => Table.replaceValue row column v

/-- What a call makes of a table. -/
def run (call : TableCall) (t : Table) : Result Table := call.change.result t

/-- What a call does when it succeeds. A new column gives each row one more value, a null of its
type. A new row comes after the others. A value that is set replaces one value of one row. -/
inductive Does : TableCall → Table → Table → Prop
  | addColumn {t : Table} {c : Column}
      (new : ∀ d ∈ t.columns, sameAsciiCase d.name c.name = false) :
      Does (addColumn c) t { t with
        columns := t.columns ++ [c]
        rows := t.rows.map (· ++ [.null c.type])
        bound := [] }
  | addRow {t : Table} {values : List Value}
      (accepted : List.Forall₂ Column.Accepts t.columns values) :
      Does (addRow values) t
        { t with rows := t.rows ++ [List.zipWith Column.stored t.columns values] }
  | setValue {t : Table} {row column : Nat} {v : Value} {c : Column} {r : Row}
      (hc : t.columns[column]? = some c) (accepted : c.Accepts v) (hr : t.rows[row]? = some r)
      (hcolumn : column < r.length) :
      Does (setValue row column v) t
        { t with rows := t.rows.set row (r.set column (c.stored v)) }

variable {call : TableCall} {t u : Table}

theorem run_addColumn {c : Column} : (addColumn c).run t = t.addColumn c := Changing.result_discard

theorem run_addRow {values : List Value} : (addRow values).run t = t.addRow values :=
  Changing.result_discard

/-- A call on a table succeeds exactly if there is something that it does. -/
theorem run_eq_ok : call.run t = .ok u ↔ call.Does t u := by
  cases call with
  | addColumn c =>
    rw [run_addColumn]
    refine Table.addColumn_eq_ok.trans ⟨?_, ?_⟩
    · rintro ⟨new, rfl⟩
      exact .addColumn new
    · rintro ⟨new⟩
      exact ⟨new, rfl⟩
  | addRow values =>
    rw [run_addRow]
    refine Table.addRow_eq_ok.trans ⟨?_, ?_⟩
    · rintro ⟨accepted, rfl⟩
      exact .addRow accepted
    · rintro (_ | ⟨accepted⟩)
      exact ⟨accepted, rfl⟩
  | setValue row column v =>
    refine Table.setValue_eq_ok.trans ⟨?_, ?_⟩
    · rintro ⟨c, r, hc, accepted, hr, hcolumn, rfl⟩
      exact .setValue hc accepted hr hcolumn
    · rintro (_ | _ | ⟨hc, accepted, hr, hcolumn⟩)
      exact ⟨_, _, hc, accepted, hr, hcolumn, rfl⟩

theorem changes (h : call.run t = .ok u) : t.Changes u := by
  cases call with
  | addColumn c => exact .addColumn (run_addColumn.symm.trans h)
  | addRow values => exact .addRow (run_addRow.symm.trans h)
  | setValue row column v => exact .setValue h

/-- A call on a table that fails leaves the table as it is. -/
theorem change_isAtomic (call : TableCall) : call.change.IsAtomic := by
  intro t
  cases call with
  | addColumn c => exact (Table.appendColumn_isAtomic c t).discard
  | addRow values => exact (Table.appendRow_isAtomic values t).discard
  | setValue row column v => exact Table.replaceValue_isAtomic row column v t

end TableCall

/-! ### Data sets -/

/-- A call on a data set. The table that is added can be any that calls and bindings lead to. -/
inductive Call where
  | addTable (t : Table) (reachable : t.Reachable)
  | onTable (name : String) (call : TableCall)

namespace Call

/-- A call as a change of a data set. A call on a table changes the table in its place. -/
def change : Call → Changing DataSet Unit
  | addTable t _ => discard (DataSet.appendTable t)
  | onTable name call => do
    match (← get).find? name with
    | none => throw (.resolution (.unknownTable name))
    | some (k, t) => DataSet.onTable k t call.change

/-- What a call makes of a data set. -/
def run (call : Call) (ds : DataSet) : Result DataSet := call.change.result ds

/-- What a call does when it succeeds. A new table comes after the others. A call on a table is one
on the first table of the name, and the others stay. -/
inductive Does : Call → DataSet → DataSet → Prop
  | addTable {ds : DataSet} {t : Table} {reachable : t.Reachable}
      (new : ∀ u ∈ ds.tables, sameAsciiCase u.name t.name = false) :
      Does (addTable t reachable) ds ⟨ds.tables ++ [t]⟩
  | onTable {ds : DataSet} {name : String} {call : TableCall} {k : Nat} {t u : Table}
      (ht : ds.tables[k]? = some t) (named : sameAsciiCase t.name name = true)
      (first : ∀ s ∈ ds.tables.take k, sameAsciiCase s.name name = false) (does : call.Does t u) :
      Does (onTable name call) ds ⟨ds.tables.set k u⟩

variable {call : Call} {ds ds' : DataSet}

/-- A call on a table of a data set succeeds exactly if it does on the table of the name. -/
theorem run_onTable_eq_ok {name : String} {call : TableCall} :
    (onTable name call).run ds = .ok ds' ↔
      ∃ k t u, ds.find? name = some (k, t) ∧ call.run t = .ok u ∧ ds.setTable k u = ds' := by
  rw [run, change, Changing.result_get_bind]
  cases hfind : ds.find? name with
  | none => simp
  | some found =>
    obtain ⟨k, t⟩ := found
    simp only [DataSet.result_onTable, map_eq_ok, Option.some.injEq, Prod.mk.injEq]
    constructor
    · rintro ⟨u, hu, h⟩
      exact ⟨k, t, u, ⟨rfl, rfl⟩, hu, h⟩
    · rintro ⟨_, _, u, ⟨rfl, rfl⟩, hu, h⟩
      exact ⟨u, hu, h⟩

theorem run_addTable {t : Table} {reachable : t.Reachable} :
    (addTable t reachable).run ds = ds.addTable t := Changing.result_discard

/-- A call on a data set succeeds exactly if there is something that it does. -/
theorem run_eq_ok : call.run ds = .ok ds' ↔ call.Does ds ds' := by
  cases call with
  | addTable t reachable =>
    rw [run_addTable]
    refine DataSet.addTable_eq_ok.trans ⟨?_, ?_⟩
    · rintro ⟨new, rfl⟩
      exact .addTable new
    · rintro ⟨new⟩
      exact ⟨new, rfl⟩
  | onTable name call =>
    refine run_onTable_eq_ok.trans ⟨?_, ?_⟩
    · rintro ⟨k, t, u, hfind, hu, rfl⟩
      obtain ⟨ht, named, first⟩ := DataSet.find?_eq_some.1 hfind
      exact .onTable ht named first (TableCall.run_eq_ok.1 hu)
    · rintro (_ | ⟨ht, named, first, does⟩)
      exact ⟨_, _, _, DataSet.find?_eq_some.2 ⟨ht, named, first⟩, TableCall.run_eq_ok.2 does, rfl⟩

theorem changes (h : call.run ds = .ok ds') : ds.Changes ds' := by
  cases call with
  | addTable t reachable => exact .addTable reachable (run_addTable.symm.trans h)
  | onTable name call =>
    obtain ⟨k, t, u, hfind, hu, rfl⟩ := run_onTable_eq_ok.1 h
    exact .onTable (DataSet.find?_eq_some.1 hfind).1 (TableCall.changes hu)

/-- A call on a data set that fails leaves the data set as it is. -/
theorem change_isAtomic (call : Call) : call.change.IsAtomic := by
  intro ds
  cases call with
  | addTable t reachable => exact (DataSet.appendTable_isAtomic t ds).discard
  | onTable name call =>
    refine .get_bind ?_
    cases hfind : ds.find? name with
    | none => exact .throw
    | some found =>
      exact DataSet.onTable_isAtomicAt (call.change_isAtomic found.2)
        (DataSet.find?_eq_some.1 hfind).1

end Call

namespace DataSet

/-- A data set as a call leaves it, with the error if the call fails. -/
def perform (ds : DataSet) (call : Call) : Option Error × DataSet :=
  match call.change.run ds with
  | (.ok _, after) => (none, after)
  | (.error e, after) => (some e, after)

/-- A data set after calls, some of which may fail. -/
def performAll (ds : DataSet) (calls : List Call) : DataSet :=
  calls.foldl (fun ds call => (ds.perform call).2) ds

variable {ds after : DataSet} {call : Call}

theorem perform_of_ok (h : call.run ds = .ok after) : ds.perform call = (none, after) := by
  obtain ⟨⟨u, hu⟩, hafter⟩ := Changing.result_eq_ok.1 h
  have hrun : call.change.run ds = (.ok u, after) := Prod.ext hu hafter
  rw [perform, hrun]

/-- A call that fails leaves no trace. -/
theorem perform_of_error {e : Error} (h : call.run ds = .error e) :
    ds.perform call = (some e, ds) := by
  have he := Changing.result_eq_error.1 h
  have hrun : call.change.run ds = (.error e, ds) :=
    Prod.ext he (call.change_isAtomic ds e he)
  rw [perform, hrun]

theorem Reachable.perform (h : ds.Reachable) (call : Call) : (ds.perform call).2.Reachable := by
  cases hrun : call.run ds with
  | ok after =>
    rw [perform_of_ok hrun]
    exact h.change (Call.changes hrun)
  | error e =>
    rw [perform_of_error hrun]
    exact h

/-- Calls lead from reachable data sets to reachable ones. -/
theorem Reachable.performAll (h : ds.Reachable) (calls : List Call) :
    (ds.performAll calls).Reachable := by
  induction calls generalizing ds with
  | nil => exact h
  | cons call calls ih => exact ih (h.perform call)

/-- **Data sets stay well-formed, and calls that fail change nothing.** After any calls on the empty
data set or on one that a text holds, some of which may fail, tables and columns have different
names and rows fit their columns. A call either does what it is for and nothing else, or there is
nothing that it could do, and then all is as before, with what tables remember. -/
theorem calls_keep_wellFormed :
    (∀ calls, (empty.performAll calls).WellFormed) ∧
    (∀ text ds, ofText text = .ok ds → ∀ calls, (ds.performAll calls).WellFormed) ∧
    ∀ (ds : DataSet) (call : Call),
      match ds.perform call with
      | (none, after) => call.Does ds after
      | (some _, after) => after = ds ∧ ∀ other, ¬call.Does ds other := by
  refine ⟨fun calls => ?_, fun text ds h calls => ?_, fun ds call => ?_⟩
  · exact (Reachable.empty.performAll calls).wellFormed
  · exact ((ofText_reachable h).performAll calls).wellFormed
  · cases hrun : call.run ds with
    | ok after =>
      rw [perform_of_ok hrun]
      exact Call.run_eq_ok.1 hrun
    | error e =>
      rw [perform_of_error hrun]
      refine ⟨rfl, fun other does => ?_⟩
      rw [Call.run_eq_ok.2 does] at hrun
      exact nomatch hrun

/-- A text that holds a table of numbers. -/
def numbersText : String := "[[[\"Numbers\", [[\"N\", \"Int32\"]], [[2], [null]]]]]"

/-- Calls on the table of numbers, of which the second fails, and one that adds a table. -/
def numbersCalls : List Call :=
  [.onTable "numbers" (.addColumn ⟨"S", .string, none⟩),
    .onTable "Numbers" (.addColumn ⟨"n", .int32, none⟩),
    .addTable Table.doubled Table.doubled_reachable,
    .onTable "NUMBERS" (.setValue 1 0 (.int32 3))]

/-- The data set of the text is well-formed after the calls. -/
theorem numbers_stay_wellFormed : ∃ ds, ofText numbersText = .ok ds ∧
    (ds.performAll numbersCalls).tables.map (·.rows) =
      [[[.int32 2, .null .string], [.int32 3, .null .string]],
        [[.int32 2, .null .int32], [.int32 1, .null .int32]]] ∧
    (ds.performAll numbersCalls).WellFormed := by
  have hrows : (ofText numbersText).toOption.map
      (fun ds => (ds.performAll numbersCalls).tables.map (·.rows)) =
        some [[[.int32 2, .null .string], [.int32 3, .null .string]],
          [[.int32 2, .null .int32], [.int32 1, .null .int32]]] := by decide +kernel
  cases h : ofText numbersText with
  | error e =>
    rw [h] at hrows
    exact nomatch hrows
  | ok ds =>
    rw [h] at hrows
    exact ⟨ds, rfl, Option.some.inj hrows, calls_keep_wellFormed.2.1 numbersText ds h numbersCalls⟩

end DataSet

end TableFilter
