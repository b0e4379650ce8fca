import TableFilter.Binding

/-!
# What binding means

Which expression a term stands for over the columns of a table, said without a search that could
fail halfway or remember anything. A name stands for the first column of that name. If the column
is computed, its formula is read as a term, and that term stands for the expression that computes
it.

A derivation is finite, so a formula that leads back to its own column stands for nothing.

## Main definitions

* `Table.Resolves`: what a name stands for
* `Table.Binds`, `Table.BindsAll`: what terms stand for
* `Table.Defines`: the expression that computes a column

## Main results

* `Table.Binds.unique`: a term stands for one expression at most
* `Table.Binds.mono`: further columns change nothing
-/

namespace TableFilter.Table

mutual

/-- The column that a name stands for. -/
inductive Resolves (t : Table) : String → BoundColumn → Prop
  | stored {name : String} {k : Nat} {c : Column} : t.columnIndex? name = some k →
      t.columns[k]? = some c → c.formula = none → Resolves t name ⟨⟨k, c.name, c.type⟩, none⟩
  | computed {name : String} {k : Nat} {c : Column} {formula : String} {term : Term} {e : Expr} :
      t.columnIndex? name = some k → t.columns[k]? = some c → c.formula = some formula →
      Term.ofText formula = .ok term → Binds t term e →
      Resolves t name ⟨⟨k, c.name, c.type⟩, some e⟩

/-- The expression that a term stands for. -/
inductive Binds (t : Table) : Term → Expr → Prop
  | literal (v : Value) : Binds t (.literal v) (.literal v)
  | column {name : String} {c : BoundColumn} : Resolves t name c → Binds t (.column name) c.toExpr
  | unary {op : UnaryOperator} {a : Term} {e : Expr} : Binds t a e →
      Binds t (.unary op a) (.unary op e)
  | binary {op : BinaryOperator} {a b : Term} {e f : Expr} : Binds t a e → Binds t b f →
      Binds t (.binary op a b) (.binary op e f)
  | nullTest {negated : Bool} {a : Term} {e : Expr} : Binds t a e →
      Binds t (.nullTest negated a) (.nullTest negated e)
  | inList {negated exact : Bool} {a : Term} {items : List Term} {e : Expr} {es : List Expr} :
      Binds t a e → BindsAll t items es →
      Binds t (.inList negated exact a items) (.inList negated exact e es)
  | call {f : Builtin} {args : List Term} {es : List Expr} : f.checkCount args.length = .ok () →
      BindsAll t args es → Binds t (.call f args) (.call f es)

/-- The expressions that terms stand for. -/
inductive BindsAll (t : Table) : List Term → List Expr → Prop
  | nil : BindsAll t [] []
  | cons {a : Term} {as : List Term} {e : Expr} {es : List Expr} : Binds t a e →
      BindsAll t as es → BindsAll t (a :: as) (e :: es)

end

/-- The expression that computes a column. -/
def Defines (t : Table) (k : Nat) (e : Expr) : Prop :=
  ∃ c formula term, t.columns[k]? = some c ∧ c.formula = some formula ∧
    Term.ofText formula = .ok term ∧ t.Binds term e

variable {t u : Table}

/-! ### One meaning at most -/

mutual

theorem Resolves.unique {name : String} {b c : BoundColumn} :
    t.Resolves name b → t.Resolves name c → b = c
  | .stored hk hc hf, .stored hk' hc' _ => by
    obtain rfl := Option.some.inj (hk.symm.trans hk')
    obtain rfl := Option.some.inj (hc.symm.trans hc')
    rfl
  | .stored hk hc hf, .computed hk' hc' hf' _ _ => by
    obtain rfl := Option.some.inj (hk.symm.trans hk')
    obtain rfl := Option.some.inj (hc.symm.trans hc')
    exact nomatch hf.symm.trans hf'
  | .computed hk hc hf _ _, .stored hk' hc' hf' => by
    obtain rfl := Option.some.inj (hk.symm.trans hk')
    obtain rfl := Option.some.inj (hc.symm.trans hc')
    exact nomatch hf.symm.trans hf'
  | .computed hk hc hf hread hbinds, .computed hk' hc' hf' hread' hbinds' => by
    obtain rfl := Option.some.inj (hk.symm.trans hk')
    obtain rfl := Option.some.inj (hc.symm.trans hc')
    obtain rfl := Option.some.inj (hf.symm.trans hf')
    obtain rfl := Except.ok.inj (hread.symm.trans hread')
    rw [hbinds.unique hbinds']

theorem Binds.unique {a : Term} {e f : Expr} : t.Binds a e → t.Binds a f → e = f
  | .literal _, .literal _ => rfl
  | .column h, .column h' => by rw [h.unique h']
  | .unary h, .unary h' => by rw [h.unique h']
  | .binary hl hr, .binary hl' hr' => by rw [hl.unique hl', hr.unique hr']
  | .nullTest h, .nullTest h' => by rw [h.unique h']
  | .inList h hs, .inList h' hs' => by rw [h.unique h', hs.unique hs']
  | .call _ hs, .call _ hs' => by rw [hs.unique hs']

theorem BindsAll.unique {as : List Term} {es fs : List Expr} :
    t.BindsAll as es → t.BindsAll as fs → es = fs
  | .nil, .nil => rfl
  | .cons h hs, .cons h' hs' => by rw [h.unique h', hs.unique hs']

end

/-- A computed column has one expression. -/
theorem Defines.unique {k : Nat} {e f : Expr} : t.Defines k e → t.Defines k f → e = f := by
  rintro ⟨c, formula, term, hc, hf, hread, hbinds⟩ ⟨c', formula', term', hc', hf', hread', hbinds'⟩
  obtain rfl := Option.some.inj (hc.symm.trans hc')
  obtain rfl := Option.some.inj (hf.symm.trans hf')
  obtain rfl := Except.ok.inj (hread.symm.trans hread')
  exact hbinds.unique hbinds'

/-- A name stands for the first column of that name. -/
theorem Resolves.head_eq {name : String} {b : BoundColumn} (h : t.Resolves name b) :
    ∃ k c, t.columnIndex? name = some k ∧ t.columns[k]? = some c ∧
      b.head = ⟨k, c.name, c.type⟩ := by
  cases h with
  | stored hk hc => exact ⟨_, _, hk, hc, rfl⟩
  | computed hk hc => exact ⟨_, _, hk, hc, rfl⟩

/-! ### Further columns -/

theorem columnIndex?_mono (h : t.columns <+: u.columns) {name : String} {k : Nat}
    (hk : t.columnIndex? name = some k) : u.columnIndex? name = some k := by
  obtain ⟨more, h⟩ := h
  rw [columnIndex?, ← h, List.findIdx?_append]
  rw [columnIndex?] at hk
  rw [hk]
  rfl

theorem getElem?_columns_mono (h : t.columns <+: u.columns) {k : Nat} {c : Column}
    (hc : t.columns[k]? = some c) : u.columns[k]? = some c := by
  obtain ⟨more, h⟩ := h
  rw [← h, List.getElem?_append_left (List.getElem?_eq_some_iff.1 hc).1]
  exact hc

mutual

theorem Resolves.mono (le : t.columns <+: u.columns) {name : String} {b : BoundColumn} :
    t.Resolves name b → u.Resolves name b
  | .stored hk hc hf => .stored (columnIndex?_mono le hk) (getElem?_columns_mono le hc) hf
  | .computed hk hc hf hread hbinds =>
    .computed (columnIndex?_mono le hk) (getElem?_columns_mono le hc) hf hread (hbinds.mono le)

theorem Binds.mono (le : t.columns <+: u.columns) {a : Term} {e : Expr} : t.Binds a e → u.Binds a e
  | .literal v => .literal v
  | .column h => .column (h.mono le)
  | .unary h => .unary (h.mono le)
  | .binary hl hr => .binary (hl.mono le) (hr.mono le)
  | .nullTest h => .nullTest (h.mono le)
  | .inList h hs => .inList (h.mono le) (hs.mono le)
  | .call hf hs => .call hf (hs.mono le)

theorem BindsAll.mono (le : t.columns <+: u.columns) {as : List Term} {es : List Expr} :
    t.BindsAll as es → u.BindsAll as es
  | .nil => .nil
  | .cons h hs => .cons (h.mono le) (hs.mono le)

end

theorem Defines.mono (le : t.columns <+: u.columns) {k : Nat} {e : Expr} :
    t.Defines k e → u.Defines k e := by
  rintro ⟨c, formula, term, hc, hf, hread, hbinds⟩
  exact ⟨c, formula, term, getElem?_columns_mono le hc, hf, hread, hbinds.mono le⟩

end TableFilter.Table
