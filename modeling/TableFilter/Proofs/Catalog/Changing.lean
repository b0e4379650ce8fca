import TableFilter.Catalog
import TableFilter.Proofs.Maintenance

/-!
# Changes that fail leave no trace

A change reads the table or the data set, checks what it was given and then writes, and what was
written before a failure would stay. All changes make their checks first. Reading and checking leave
everything as it is, and once the first write is done nothing fails any more.

## Main definitions

* `Changing.IsAtomic`: a change that fails leaves everything as it is

## Main results

* `Changing.IsAtomicAt.get_bind`, `Changing.IsAtomicAt.lift_bind`: reading and checking before a
  change that is atomic
* `Table.appendColumn_isAtomic`, `Table.appendRow_isAtomic`, `Table.replaceValue_isAtomic`,
  `DataSet.appendTable_isAtomic`: the changes of tables and data sets
* `DataSet.onTable_isAtomicAt`: a change of a table as one of the data set that has it
-/

namespace TableFilter

namespace Changing

variable {σ α β : Type} {m : Changing σ α} {f : α → Changing σ β} {s u : σ}

/-! ### What comes of changes -/

theorem result_eq_ok : m.result s = .ok u ↔ (∃ a, (m.run s).1 = .ok a) ∧ (m.run s).2 = u := by
  unfold result
  rcases m.run s with ⟨e | a, after⟩ <;> simp

theorem result_eq_error {e : Error} : m.result s = .error e ↔ (m.run s).1 = .error e := by
  unfold result
  rcases m.run s with ⟨e | a, after⟩ <;> simp

@[simp] theorem result_throw {e : Error} : result (throw e : Changing σ α) s = .error e := rfl

@[simp] theorem result_get_bind {f : σ → Changing σ β} :
    result (get >>= f) s = (f s).result s := rfl

@[simp] theorem result_lift_bind {r : Result α} :
    result (liftM r >>= f) s = r >>= fun a => (f a).result s := by
  cases r <;> rfl

/-- Not looking at what a change gives. -/
theorem result_discard : (discard m).result s = m.result s := by
  change Changing.result (m >>= fun a => pure (Function.const α PUnit.unit a)) s = _
  unfold result
  rw [run_bind]
  rcases m.run s with ⟨e | a, after⟩ <;> rfl

/-! ### Changes that fail before they write -/

/-- A change leaves a state as it is if it fails there. -/
def IsAtomicAt (m : Changing σ α) (s : σ) : Prop :=
  ∀ e, (m.run s).1 = .error e → (m.run s).2 = s

/-- A change that fails leaves everything as it is. -/
def IsAtomic (m : Changing σ α) : Prop := ∀ s, m.IsAtomicAt s

namespace IsAtomicAt

theorem throw {e : Error} : IsAtomicAt (throw e : Changing σ α) s := fun _ _ => rfl

/-- A change that succeeds may write. -/
theorem succeeds {a : α} (h : (m.run s).1 = .ok a) : m.IsAtomicAt s := by
  intro e he
  rw [h] at he
  exact nomatch he

/-- Reading writes nothing. -/
theorem get_bind {f : σ → Changing σ β} (h : (f s).IsAtomicAt s) : IsAtomicAt (get >>= f) s := h

/-- Checking writes nothing, and where the check fails nothing comes after it. -/
theorem lift_bind {r : Result α} (h : ∀ a, r = .ok a → (f a).IsAtomicAt s) :
    IsAtomicAt (liftM r >>= f) s := by
  cases r with
  | ok a => exact h a rfl
  | error e => exact fun _ _ => rfl

theorem discard (h : m.IsAtomicAt s) : IsAtomicAt (discard m) s := by
  intro e he
  change ((m >>= fun a => pure (Function.const α PUnit.unit a)).run s).1 = _ at he
  change ((m >>= fun a => pure (Function.const α PUnit.unit a)).run s).2 = s
  rw [run_bind] at he ⊢
  cases hm : (m.run s).1 with
  | ok a =>
    rw [hm] at he
    exact nomatch he
  | error e => exact h e hm

end IsAtomicAt

end Changing

open Changing

/-! ### What the changes make of tables and data sets -/

theorem Table.addColumn_eq (t : Table) (c : Column) : t.addColumn c =
    if (t.columnIndex? c.name).isSome then .error (.resolution (.repeatedColumn c.name t.name))
    else
      .ok
        { t with
          columns := t.columns ++ [c]
          rows := t.rows.map fun r => r ++ [.null c.type]
          bound := [] } := by
  rw [addColumn, appendColumn, result_get_bind]
  split <;> rfl

theorem Table.addRow_eq (t : Table) (values : List Value) : t.addRow values =
    if values.length != t.columns.length then
      .error (.evaluation (.rowWidth t.name t.columns.length values.length))
    else
      t.checkValues t.columns values >>= fun row => .ok { t with rows := t.rows ++ [row] } := by
  rw [addRow, appendRow, result_get_bind]
  split
  · rfl
  · exact result_lift_bind

theorem Table.setValue_eq (t : Table) (row column : Nat) (v : Value) : t.setValue row column v =
    (match t.columns[column]? with
    | none => .error (.resolution (.columnOutOfRange column t.name))
    | some c =>
      t.checkValue c v >>= fun v =>
        match t.rows[row]? with
        | none => .error (.resolution (.rowOutOfRange row t.name))
        | some r =>
          if column < r.length then .ok { t with rows := t.rows.set row (r.set column v) }
          else .error (.resolution (.valueOutOfRange column r.length))) := by
  rw [setValue, replaceValue, result_get_bind]
  cases t.columns[column]? with
  | none => rfl
  | some c =>
    refine result_lift_bind.trans (bind_congr fun w => ?_)
    cases t.rows[row]? with
    | none => rfl
    | some r =>
      dsimp only
      split <;> rfl

theorem DataSet.addTable_eq (ds : DataSet) (t : Table) : ds.addTable t =
    if (ds.tableIndex? t.name).isSome then .error (.resolution (.repeatedTable t.name))
    else .ok { tables := ds.tables ++ [t] } := by
  rw [addTable, appendTable, result_get_bind]
  split <;> rfl

theorem DataSet.result_onTable {α : Type} {change : Changing Table α} {ds : DataSet} {k : Nat}
    {t : Table} : (DataSet.onTable k t change).result ds =
      (change.result t).map (ds.setTable k) := by
  unfold onTable result ExceptT.run
  dsimp only
  rcases change t with ⟨e | a, after⟩ <;> rfl

/-! ### Failures -/

theorem Table.appendColumn_isAtomic (c : Column) : (Table.appendColumn c).IsAtomic := by
  refine fun t => .get_bind ?_
  split
  · exact .throw
  · exact .succeeds rfl

theorem Table.appendRow_isAtomic (values : List Value) : (Table.appendRow values).IsAtomic := by
  refine fun t => .get_bind ?_
  split
  · exact .throw
  · exact .lift_bind fun row _ => .succeeds rfl

theorem Table.replaceValue_isAtomic (row column : Nat) (v : Value) :
    (Table.replaceValue row column v).IsAtomic := by
  refine fun t => .get_bind ?_
  split
  · exact .throw
  · refine .lift_bind fun w _ => ?_
    split
    · exact .throw
    · split
      · exact .succeeds rfl
      · exact .throw

theorem DataSet.appendTable_isAtomic (t : Table) : (DataSet.appendTable t).IsAtomic := by
  refine fun ds => .get_bind ?_
  split
  · exact .throw
  · exact .succeeds rfl

/-- Putting a table back in its place changes nothing. -/
theorem DataSet.setTable_self {ds : DataSet} {k : Nat} {t : Table} (ht : ds.tables[k]? = some t) :
    ds.setTable k t = ds := by
  obtain ⟨hk, rfl⟩ := List.getElem?_eq_some_iff.1 ht
  rw [DataSet.setTable, List.set_getElem_self]

/-- A change of a table is one of the data set. Where it fails, the table is put back as it is. -/
theorem DataSet.onTable_isAtomicAt {α : Type} {change : Changing Table α} {ds : DataSet} {k : Nat}
    {t : Table} (h : change.IsAtomicAt t) (ht : ds.tables[k]? = some t) :
    (DataSet.onTable k t change).IsAtomicAt ds := by
  intro e he
  have kept : (change.run t).2 = t := h e he
  change ds.setTable k (change.run t).2 = ds
  rw [kept, setTable_self ht]

end TableFilter
