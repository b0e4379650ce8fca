import TableFilter.Catalog.Document
import TableFilter.Proofs.Catalog.Reachable

/-!
# Reachable data sets

Data sets come about as tables do: reachable tables are added to an empty data set, and those that
it has change. The data set of a document is among them.

Names are told apart up to the case of ASCII letters, as they are where tables and columns are
looked up, so a name stands for one table at most.

## Main definitions

* `DataSet.Changes`, `DataSet.Reachable`: single changes, and the data sets they lead to
* `Table.WellFormed`, `DataSet.WellFormed`: names differ, and rows fit the columns

## Main results

* `DataSet.Reachable.wellFormed`: reachable data sets are well-formed
* `DataSet.ofText_reachable`: the data sets of documents are reachable
-/

namespace TableFilter

open TableFilter.Text Result

/-- No name stands twice in a list, up to the case of ASCII letters. -/
def NamesDiffer (names : List String) : Prop :=
  names.Pairwise fun a b => sameAsciiCase a b = false

theorem NamesDiffer.concat {names : List String} {name : String} (h : NamesDiffer names)
    (new : ∀ other ∈ names, sameAsciiCase other name = false) : NamesDiffer (names ++ [name]) := by
  refine List.pairwise_append.2 ⟨h, List.pairwise_singleton _ _, fun a ha b hb => ?_⟩
  rw [List.mem_singleton.1 hb]
  exact new a ha

/-- Replacing an element by one with the same image leaves the images as they are. -/
theorem map_set_of_eq {α β : Type} {f : α → β} {l : List α} {k : Nat} {a b : α}
    (ha : l[k]? = some a) (hb : f b = f a) : (l.set k b).map f = l.map f := by
  obtain ⟨hk, rfl⟩ := List.getElem?_eq_some_iff.1 ha
  have hplace : k < (l.map f).length := by simpa using hk
  have himage : f b = (l.map f)[k] := hb.trans (List.getElem_map f).symm
  rw [List.map_set, himage, List.set_getElem_self]

/-! ### Tables -/

namespace Table

variable {t u : Table}

/-- The columns of a table have different names, and each row holds a value for each of them, a null
of its type or another value of it. -/
structure WellFormed (t : Table) : Prop where
  /-- The names of columns differ. -/
  names_differ : NamesDiffer (t.columns.map (·.name))
  /-- Rows fit the columns. -/
  fits : ∀ r ∈ t.rows, r.Fits t.columns

theorem Changes.name_eq (h : Changes t u) : u.name = t.name := by
  cases h with
  | addColumn h =>
    obtain ⟨-, rfl⟩ := addColumn_eq_ok.1 h
    rfl
  | addRow h =>
    obtain ⟨-, rfl⟩ := addRow_eq_ok.1 h
    rfl
  | setValue h =>
    obtain ⟨c, r, -, -, -, -, rfl⟩ := setValue_eq_ok.1 h
    rfl
  | binds => rfl

theorem Changes.names_differ (h : Changes t u) (differ : NamesDiffer (t.columns.map (·.name))) :
    NamesDiffer (u.columns.map (·.name)) := by
  cases h with
  | addColumn h =>
    obtain ⟨new, rfl⟩ := addColumn_eq_ok.1 h
    rw [List.map_append]
    exact differ.concat (List.forall_mem_map.2 new)
  | addRow h =>
    obtain ⟨-, rfl⟩ := addRow_eq_ok.1 h
    exact differ
  | setValue h =>
    obtain ⟨c, r, -, -, -, -, rfl⟩ := setValue_eq_ok.1 h
    exact differ
  | binds => exact differ

/-- A reachable table is well-formed. -/
theorem Reachable.wellFormed (h : Reachable t) : t.WellFormed := by
  refine ⟨?_, h.fits⟩
  induction h with
  | empty name => exact .nil
  | change _ h ih => exact h.names_differ ih

/-! ### Tables of documents -/

theorem Reachable.addColumns {columns : List Column} (ht : t.Reachable)
    (h : t.addColumns columns = .ok u) : u.Reachable := by
  induction columns generalizing t with
  | nil => exact Except.ok.inj h ▸ ht
  | cons c cs ih =>
    obtain ⟨v, hv, hrest⟩ := bind_eq_ok.1 h
    exact ih (ht.change (.addColumn hv)) hrest

theorem Reachable.addDocuments {index : Nat} {rows : List RowDocument} (ht : t.Reachable)
    (h : t.addDocuments index rows = .ok u) : u.Reachable := by
  induction rows generalizing t index with
  | nil => exact Except.ok.inj h ▸ ht
  | cons d ds ih =>
    obtain ⟨r, -, hadd⟩ := bind_eq_ok.1 h
    obtain ⟨v, hv, hrest⟩ := bind_eq_ok.1 hadd
    exact ih (ht.change (.addRow (mapError_eq_ok.1 hv))) hrest

/-- The table that a document holds is reachable. -/
theorem ofDocument_reachable {d : TableDocument} (h : Table.ofDocument d = .ok t) :
    t.Reachable := by
  obtain ⟨u, hu, hrows⟩ := bind_eq_ok.1 h
  exact ((Reachable.empty d.name).addColumns (mapError_eq_ok.1 hu)).addDocuments hrows

end Table

/-! ### Data sets -/

namespace DataSet

variable {ds ds' : DataSet}

/-- A change of a data set: a reachable table is added, or a table changes. -/
inductive Changes : DataSet → DataSet → Prop
  | addTable {ds ds' : DataSet} {t : Table} : t.Reachable → ds.addTable t = .ok ds' →
      Changes ds ds'
  | onTable {ds : DataSet} {k : Nat} {t u : Table} : ds.tables[k]? = some t → t.Changes u →
      Changes ds (ds.setTable k u)

/-- A data set that comes of the empty one by changes. -/
inductive Reachable : DataSet → Prop
  | empty : Reachable empty
  | change {ds ds' : DataSet} : Reachable ds → Changes ds ds' → Reachable ds'

/-- The tables of a data set have different names and are well-formed. -/
structure WellFormed (ds : DataSet) : Prop where
  /-- The names of tables differ. -/
  names_differ : NamesDiffer (ds.tables.map (·.name))
  /-- Each table is well-formed. -/
  tables : ∀ t ∈ ds.tables, t.WellFormed

/-- A table is added exactly if there is none of its name. -/
theorem addTable_eq_ok {t : Table} : ds.addTable t = .ok ds' ↔
    (∀ u ∈ ds.tables, sameAsciiCase u.name t.name = false) ∧ ds' = ⟨ds.tables ++ [t]⟩ := by
  have hnew : (ds.tableIndex? t.name).isSome = false ↔
      ∀ u ∈ ds.tables, sameAsciiCase u.name t.name = false := by
    rw [tableIndex?, Option.isSome_eq_false_iff, Option.isNone_iff_eq_none,
      List.findIdx?_eq_none_iff]
  rw [← hnew, addTable_eq]
  cases (ds.tableIndex? t.name).isSome <;> simp [eq_comm]

/-- The table of a name is the first one of that name. -/
theorem find?_eq_some {name : String} {k : Nat} {t : Table} : ds.find? name = some (k, t) ↔
    ds.tables[k]? = some t ∧ sameAsciiCase t.name name = true ∧
      ∀ s ∈ ds.tables.take k, sameAsciiCase s.name name = false := by
  simp only [find?, tableIndex?, Option.bind_eq_bind, Option.bind_eq_some_iff, Option.some.injEq,
    Prod.mk.injEq, List.findIdx?_eq_some_iff_getElem]
  constructor
  · rintro ⟨i, ⟨hi, named, first⟩, found, hfound, rfl, rfl⟩
    rw [List.getElem?_eq_getElem hi] at hfound
    obtain rfl := Option.some.inj hfound
    refine ⟨List.getElem?_eq_getElem hi, named, fun s hs => ?_⟩
    obtain ⟨j, hj, rfl⟩ := List.mem_take_iff_getElem.1 hs
    exact eq_false_of_ne_true (first j (by omega))
  · rintro ⟨hk, named, first⟩
    obtain ⟨hlength, rfl⟩ := List.getElem?_eq_some_iff.1 hk
    refine ⟨k, ⟨hlength, named, fun j hj => ?_⟩, _, hk, rfl, rfl⟩
    rw [first _ (List.mem_take_iff_getElem.2 ⟨j, by omega, rfl⟩)]
    exact Bool.false_ne_true

theorem Changes.reachable (h : Changes ds ds') (reachable : ∀ t ∈ ds.tables, t.Reachable) :
    ∀ t ∈ ds'.tables, t.Reachable := by
  cases h with
  | addTable ht h =>
    obtain ⟨-, rfl⟩ := addTable_eq_ok.1 h
    intro u hu
    rcases List.mem_append.1 hu with hu | hu
    · exact reachable u hu
    · rw [List.mem_singleton.1 hu]
      exact ht
  | onTable ht h =>
    intro u hu
    rcases List.mem_or_eq_of_mem_set hu with hu | rfl
    · exact reachable u hu
    · exact (reachable _ (List.mem_of_getElem? ht)).change h

theorem Changes.names_differ (h : Changes ds ds')
    (differ : NamesDiffer (ds.tables.map (·.name))) : NamesDiffer (ds'.tables.map (·.name)) := by
  cases h with
  | addTable _ h =>
    obtain ⟨new, rfl⟩ := addTable_eq_ok.1 h
    rw [List.map_append]
    exact differ.concat (List.forall_mem_map.2 new)
  | onTable ht h =>
    -- The changed table has its name still, so the names are what they were.
    exact (map_set_of_eq (f := Table.name) ht h.name_eq).symm ▸ differ

/-- The tables of a reachable data set are reachable. -/
theorem Reachable.tables (h : Reachable ds) : ∀ t ∈ ds.tables, t.Reachable := by
  induction h with
  | empty => exact List.forall_mem_nil _
  | change _ h ih => exact h.reachable ih

/-- A reachable data set is well-formed. -/
theorem Reachable.wellFormed (h : Reachable ds) : ds.WellFormed := by
  refine ⟨?_, fun t ht => (h.tables t ht).wellFormed⟩
  induction h with
  | empty => exact .nil
  | change _ h ih => exact h.names_differ ih

/-- Each table is found by its own name. -/
theorem WellFormed.find?_eq {k : Nat} {t : Table} (h : ds.WellFormed)
    (ht : ds.tables[k]? = some t) : ds.find? t.name = some (k, t) := by
  refine find?_eq_some.2 ⟨ht, beq_self_eq_true _, fun s hs => ?_⟩
  obtain ⟨j, hj, rfl⟩ := List.mem_take_iff_getElem.1 hs
  obtain ⟨hk, rfl⟩ := List.getElem?_eq_some_iff.1 ht
  have hdiffer := List.pairwise_map.1 h.names_differ
  exact List.pairwise_iff_getElem.1 hdiffer j k (by omega) hk (by omega)

/-! ### Data sets of documents -/

theorem Reachable.addDocuments {tables : List TableDocument} (hds : ds.Reachable)
    (h : ds.addDocuments tables = .ok ds') : ds'.Reachable := by
  induction tables generalizing ds with
  | nil => exact Except.ok.inj h ▸ hds
  | cons d rest ih =>
    obtain ⟨t, ht, hadd⟩ := bind_eq_ok.1 h
    obtain ⟨more, hmore, hrest⟩ := bind_eq_ok.1 hadd
    exact ih (hds.change (.addTable (Table.ofDocument_reachable ht) (mapError_eq_ok.1 hmore))) hrest

/-- The data set that a text holds is reachable. -/
theorem ofText_reachable {text : String} (h : ofText text = .ok ds) : ds.Reachable := by
  unfold ofText at h
  split at h
  · exact nomatch h
  · exact Reachable.empty.addDocuments h

end DataSet

end TableFilter
