import Mathlib.Data.List.Forall2
import TableFilter.Proofs.Binding.Soundness
import TableFilter.Proofs.Catalog.Changing

/-!
# Reachable tables

Tables come about by changes of an empty one: columns and rows are added, values are set, and terms
are bound. Whatever the order of changes, each row fits the columns, and what a table remembers are
the expressions of its columns.

An expression stays what its term stands for while the table changes after it was bound.

## Main definitions

* `Table.Changes`, `Table.Reachable`: single changes, and the tables they lead to
* `Table.Bound`: the expressions bound on a table up to now
* `Row.Fits`: a row holds a value of its type for each column
* `Column.Accepts`, `Column.stored`: what can be put into a column, and what it then holds

## Main results

* `Table.addColumn_eq_ok`, `Table.addRow_eq_ok`, `Table.setValue_eq_ok`: when changes succeed, and
  what they do
* `Table.Reachable.fits`: the rows of a reachable table fit its columns
* `Table.Reachable.coherent`: what a reachable table remembers is coherent
* `Table.Bound.binds`: an expression that was bound is what a term stands for
-/

namespace TableFilter

open TableFilter.Text

/-- A row holds a value of its type for each column. -/
def Row.Fits (columns : List Column) (r : Row) : Prop :=
  List.Forall₂ (fun v c => v.dataType = c.type) r columns

/-- A column accepts a null of any type, and the values of its own type. -/
def Column.Accepts (c : Column) (v : Value) : Prop := v.isNull = true ∨ v.dataType = c.type

/-- A value as a column holds it. A null takes the type of the column. -/
def Column.stored (c : Column) (v : Value) : Value := if v.isNull then .null c.type else v

theorem Column.Accepts.stored_dataType {c : Column} {v : Value} (h : c.Accepts v) :
    (c.stored v).dataType = c.type := by
  unfold Column.stored
  split
  · rfl
  · next hnull => exact h.resolve_left hnull

/-- Values that the columns accept make a fitting row. -/
theorem Row.Fits.stored {columns : List Column} {values : List Value}
    (h : List.Forall₂ Column.Accepts columns values) :
    Row.Fits columns (List.zipWith Column.stored columns values) := by
  induction h with
  | nil => exact .nil
  | cons hv _ ih => exact .cons hv.stored_dataType ih

/-- Setting a value to one of its type keeps a row fitting. -/
theorem Row.Fits.set {columns : List Column} {r : Row} (h : r.Fits columns) {k : Nat} {c : Column}
    {v : Value} (hc : columns[k]? = some c) (hv : v.dataType = c.type) :
    Row.Fits columns (r.set k v) := by
  induction h generalizing k with
  | nil => exact nomatch hc
  | @cons w d ws ds hw hws ih =>
    cases k with
    | zero => exact .cons (Option.some.inj hc ▸ hv) hws
    | succ k => exact .cons hw (ih hc)

/-- The value that a fitting row holds for a column is of its type. -/
theorem Row.Fits.dataType {columns : List Column} {r : Row} (h : r.Fits columns) {k : Nat}
    {c : Column} {v : Value} (hc : columns[k]? = some c) (hv : r[k]? = some v) :
    v.dataType = c.type := by
  induction h generalizing k with
  | nil => exact nomatch hc
  | @cons w d ws ds hw hws ih =>
    cases k with
    | zero =>
      obtain rfl := Option.some.inj hc
      obtain rfl := Option.some.inj hv
      exact hw
    | succ k => exact ih hc hv

namespace Table

open Result

/-- A change of a table, by an operation that succeeds or by one that looks up names. -/
inductive Changes : Table → Table → Prop
  | addColumn {t u : Table} {c : Column} : t.addColumn c = .ok u → Changes t u
  | addRow {t u : Table} {values : List Value} : t.addRow values = .ok u → Changes t u
  | setValue {t u : Table} {row column : Nat} {v : Value} : t.setValue row column v = .ok u →
      Changes t u
  | binds {α : Type} {t : Table} {binding : Table → Binding α} : t.Looks (binding t) →
      Changes t (t.remembering binding).2

/-- A table that comes of an empty one by changes. -/
inductive Reachable : Table → Prop
  | empty (name : String) : Reachable (.empty name)
  | change {t u : Table} : Reachable t → Changes t u → Reachable u

/-- An expression that was bound on a reachable table, which may have changed since. -/
inductive Bound : Table → Expr → Prop
  | bindTerm {t : Table} {a : Term} {e : Expr} : Reachable t →
      (t.remembering (·.bindTerm a)).1 = .ok e → Bound (t.remembering (·.bindTerm a)).2 e
  | change {t u : Table} {e : Expr} : Bound t e → Changes t u → Bound u e

variable {t u : Table}

/-! ### Single changes -/

/-- A column is added exactly if there is none of its name. -/
theorem addColumn_eq_ok {c : Column} : t.addColumn c = .ok u ↔
    (∀ d ∈ t.columns, sameAsciiCase d.name c.name = false) ∧
      u = { t with
        columns := t.columns ++ [c]
        rows := t.rows.map (· ++ [.null c.type])
        bound := [] } := by
  have hnew : (t.columnIndex? c.name).isSome = false ↔
      ∀ d ∈ t.columns, sameAsciiCase d.name c.name = false := by
    rw [columnIndex?, Option.isSome_eq_false_iff, Option.isNone_iff_eq_none,
      List.findIdx?_eq_none_iff]
  rw [← hnew, addColumn_eq]
  cases (t.columnIndex? c.name).isSome <;> simp [eq_comm]

theorem checkValue_eq_ok {c : Column} {v w : Value} :
    t.checkValue c v = .ok w ↔ c.Accepts v ∧ c.stored v = w := by
  unfold checkValue Column.Accepts Column.stored
  cases v.isNull <;> by_cases htype : v.dataType = c.type <;> simp [htype]

theorem checkValues_eq_ok {columns : List Column} {values : List Value} {r : Row}
    (hlength : values.length = columns.length) :
    t.checkValues columns values = .ok r ↔
      List.Forall₂ Column.Accepts columns values ∧
        List.zipWith Column.stored columns values = r := by
  induction columns generalizing values r with
  | nil =>
    obtain rfl := List.length_eq_zero_iff.1 hlength
    simp [checkValues]
  | cons c cs ih =>
    cases values with
    | nil => exact nomatch hlength
    | cons v vs =>
      have hvs : vs.length = cs.length := Nat.succ.inj hlength
      simp only [checkValues, bind_eq_ok, checkValue_eq_ok, ih hvs, Except.ok.injEq,
        List.forall₂_cons, List.zipWith_cons_cons]
      constructor
      · rintro ⟨_, ⟨hv, rfl⟩, _, ⟨hvs, rfl⟩, rfl⟩
        exact ⟨⟨hv, hvs⟩, rfl⟩
      · rintro ⟨⟨hv, hvs⟩, rfl⟩
        exact ⟨_, ⟨hv, rfl⟩, _, ⟨hvs, rfl⟩, rfl⟩

/-- A row is added exactly if there is one value for each column, which the column accepts. -/
theorem addRow_eq_ok {values : List Value} : t.addRow values = .ok u ↔
    List.Forall₂ Column.Accepts t.columns values ∧
      u = { t with rows := t.rows ++ [List.zipWith Column.stored t.columns values] } := by
  rw [addRow_eq]
  by_cases hlength : values.length = t.columns.length
  · simp only [hlength, bne_self_eq_false, Bool.false_eq_true, if_false]
    simp only [bind_eq_ok, checkValues_eq_ok hlength, Except.ok.injEq]
    constructor
    · rintro ⟨_, ⟨hvalues, rfl⟩, rfl⟩
      exact ⟨hvalues, rfl⟩
    · rintro ⟨hvalues, rfl⟩
      exact ⟨_, ⟨hvalues, rfl⟩, rfl⟩
  · have hvalues : ¬List.Forall₂ Column.Accepts t.columns values :=
      fun h => hlength h.length_eq.symm
    simp only [bne_iff_ne, ne_eq, hlength, not_false_eq_true, if_true, hvalues, false_and,
      iff_false]
    exact fun h => nomatch h

/-- A value is set exactly if its row and column are there, the row holds a value for the column,
and the column accepts the new one. -/
theorem setValue_eq_ok {row column : Nat} {v : Value} : t.setValue row column v = .ok u ↔
    ∃ c r, t.columns[column]? = some c ∧ c.Accepts v ∧ t.rows[row]? = some r ∧
      column < r.length ∧ u = { t with rows := t.rows.set row (r.set column (c.stored v)) } := by
  rw [setValue_eq]
  cases hc : t.columns[column]? with
  | none => simp
  | some c =>
    cases hr : t.rows[row]? with
    | none => simp [bind_eq_ok]
    | some r =>
      by_cases hcolumn : column < r.length
      · simp only [hcolumn, if_true, bind_eq_ok, checkValue_eq_ok, Except.ok.injEq,
          Option.some.injEq]
        constructor
        · rintro ⟨_, ⟨hv, rfl⟩, rfl⟩
          exact ⟨c, r, rfl, hv, rfl, hcolumn, rfl⟩
        · rintro ⟨_, _, rfl, hv, rfl, -, rfl⟩
          exact ⟨_, ⟨hv, rfl⟩, rfl⟩
      · simp [bind_eq_ok, hcolumn]

/-- No change takes a column away or replaces one. -/
theorem Changes.columns_isPrefix (h : Changes t u) : t.columns <+: u.columns := by
  cases h with
  | addColumn h =>
    obtain ⟨-, rfl⟩ := addColumn_eq_ok.1 h
    exact List.prefix_append _ _
  | addRow h =>
    obtain ⟨-, rfl⟩ := addRow_eq_ok.1 h
    exact List.prefix_rfl
  | setValue h =>
    obtain ⟨c, r, -, -, -, -, rfl⟩ := setValue_eq_ok.1 h
    exact List.prefix_rfl
  | binds => exact List.prefix_rfl

/-! ### Rows -/

theorem Changes.fits (h : Changes t u) (fits : ∀ r ∈ t.rows, r.Fits t.columns) :
    ∀ r ∈ u.rows, r.Fits u.columns := by
  cases h with
  | addColumn h =>
    obtain ⟨-, rfl⟩ := addColumn_eq_ok.1 h
    intro r' hr'
    obtain ⟨r, hr, rfl⟩ := List.mem_map.1 hr'
    exact List.rel_append (fits r hr) (.cons rfl .nil)
  | addRow h =>
    obtain ⟨hvalues, rfl⟩ := addRow_eq_ok.1 h
    intro r' hr'
    rcases List.mem_append.1 hr' with hr' | hr'
    · exact fits r' hr'
    · rw [List.mem_singleton.1 hr']
      exact .stored hvalues
  | setValue h =>
    obtain ⟨c, r, hc, hv, hr, -, rfl⟩ := setValue_eq_ok.1 h
    intro r' hr'
    rcases List.mem_or_eq_of_mem_set hr' with hr' | rfl
    · exact fits r' hr'
    · exact (fits r (List.mem_of_getElem? hr)).set hc hv.stored_dataType
  | binds => exact fits

/-- Each row of a reachable table fits its columns. -/
theorem Reachable.fits (h : Reachable t) : ∀ r ∈ t.rows, r.Fits t.columns := by
  induction h with
  | empty name => exact fun r hr => nomatch hr
  | change _ h ih => exact h.fits ih

/-! ### What is remembered -/

theorem Coherent.mono {bound : BoundColumns} (h : t.Coherent bound)
    (le : t.columns <+: u.columns) : u.Coherent bound :=
  fun k e hk => (h k e hk).mono le

theorem Yields.remembering {α : Type} {binding : Table → Binding α} {kind : α → Prop}
    (h : t.Yields (binding t) kind) (coherent : t.Coherent t.bound) {a : α}
    (ha : (t.remembering binding).1 = .ok a) : kind a :=
  (h t.bound coherent).1 a ha

theorem Changes.coherent (h : Changes t u) (coherent : t.Coherent t.bound) :
    u.Coherent u.bound := by
  cases h with
  | addColumn h =>
    obtain ⟨-, rfl⟩ := addColumn_eq_ok.1 h
    exact coherent_nil
  | addRow h =>
    obtain ⟨-, rfl⟩ := addRow_eq_ok.1 h
    exact coherent.mono List.prefix_rfl
  | setValue h =>
    obtain ⟨c, r, -, -, -, -, rfl⟩ := setValue_eq_ok.1 h
    exact coherent.mono List.prefix_rfl
  | @binds _ t _ h => exact (h.maintains t.bound coherent).2.mono List.prefix_rfl

/-- What a reachable table remembers for each column is the expression that computes it. -/
theorem Reachable.coherent (h : Reachable t) : t.Coherent t.bound := by
  induction h with
  | empty name => exact coherent_nil
  | change _ h ih => exact h.coherent ih

/-- An expression that was bound is what some term stands for. -/
theorem Bound.binds {e : Expr} (h : Bound t e) : ∃ a, t.Binds a e := by
  induction h with
  | @bindTerm t a e reachable he =>
    have hbinds := (bindTerm_yields a).remembering reachable.coherent he
    exact ⟨a, hbinds.mono (Changes.columns_isPrefix (.binds (.bindTerm a)))⟩
  | change _ h ih =>
    obtain ⟨a, ha⟩ := ih
    exact ⟨a, ha.mono h.columns_isPrefix⟩

/-- A table on which something was bound is reachable. -/
theorem Bound.reachable {e : Expr} (h : Bound t e) : Reachable t := by
  induction h with
  | bindTerm reachable _ => exact .change reachable (.binds (.bindTerm _))
  | change _ h ih => exact .change ih h

/-! ### A table with a computed column -/

/-- A number and its double, which is computed, with two rows. -/
def doubling : Table where
  name := "Doubling"
  columns := [⟨"N", .int32, none⟩, ⟨"Twice", .int32, some "N + N"⟩]
  rows := [[.int32 2, .null .int32], [.int32 1, .null .int32]]
  bound := []

theorem doubling_reachable : Reachable doubling := by
  have columns := Reachable.empty "Doubling"
    |>.change (.addColumn (c := ⟨"N", .int32, none⟩) rfl)
    |>.change (.addColumn (c := ⟨"Twice", .int32, some "N + N"⟩) rfl)
  exact columns
    |>.change (.addRow (show Table.addRow _ [.int32 2, .null .undefined] = .ok _ from rfl))
    |>.change (.addRow (show Table.addRow _ [.int32 1, .null .undefined] = .ok _ from rfl))

/-- The double as an expression. -/
def twice : Expr :=
  .computed ⟨1, "Twice", .int32⟩
    (.binary (.arithmetic .add) (.column ⟨0, "N", .int32⟩) (.column ⟨0, "N", .int32⟩))

/-- The table after the double was bound. -/
def doubled : Table := (doubling.remembering (·.bindTerm (.column "Twice"))).2

theorem doubled_reachable : Reachable doubled := .change doubling_reachable (.binds (.bindTerm _))

theorem twice_bound : doubled.Bound twice := .bindTerm doubling_reachable rfl

end Table

end TableFilter
