import TableFilter.Proofs.Binding.Widening
import TableFilter.Proofs.Evaluation.Agreement
import TableFilter.Proofs.Selection.Finding

/-!
# Selections from widened tables

What a statement finds on a data set, it finds on a wider one: names stand for the tables and
columns that they stood for, and rows with further values have the values that they had where the
statement looks. This holds at any time, if no function shows it.

## Main definitions

* `Statement.terms`: what a statement is run by
* `Request.IsTimeless`: no function that a filter leads to shows the time

## Main results

* `Tree.rows_map`: a bound statement on rows that agree with others
* `Request.foundOn_widens`: what a statement finds on a wider data set
-/

namespace TableFilter

open Result

/-! ### Rows that agree with others -/

section Agreement

variable {clock clock' : Clock} {g : Row → Row} {rows : List Row}

theorem Tree.matching_map {tree : Tree} (agree : ∀ r ∈ rows,
    tree.root.evalOn ⟨clock', some (g r)⟩ = tree.root.evalOn ⟨clock, some r⟩) :
    tree.matching clock' (rows.map g) = tree.matching clock rows := by
  have selects : ∀ r ∈ rows, tree.selects clock' (g r) = tree.selects clock r := by
    intro r hr
    rw [Tree.selects, Tree.selects, agree r hr]
  unfold Tree.matching
  rw [List.zipIdx_map, List.filter_map, List.map_map]
  exact congrArg (List.map _) (List.filter_congr fun place hplace =>
    selects place.1 (List.fst_mem_of_mem_zipIdx hplace))

theorem sorted_map {t : Table} {os : List OrderTerm} {places : List Nat}
    (bound : ∀ o ∈ os, ∃ name, t.Resolves name o.column) (hplaces : ∀ k ∈ places, k < rows.length)
    (agree : ∀ r ∈ rows, ∀ o ∈ os, o.column.valueOn clock' (g r) = o.column.valueOn clock r) :
    sorted clock' os (rows.map g) places = sorted clock os rows places := by
  have keys : ∀ k ∈ places, ((sortKeys ⟨clock', (rows.map g)[k]?⟩ os).run []).1 =
      ((sortKeys ⟨clock, rows[k]?⟩ os).run []).1 := by
    intro k hk
    rw [List.getElem?_map, List.getElem?_eq_getElem (hplaces k hk), Option.map_some,
      Table.sortKeys_eq bound Table.knownOn_nil, Table.sortKeys_eq bound Table.knownOn_nil]
    exact List.map_congr_left fun o ho =>
      congrArg sortKey (agree _ (List.getElem_mem (hplaces k hk)) o ho)
  have keyed : (places.map fun k =>
      (k, ((sortKeys ⟨clock', (rows.map g)[k]?⟩ os).run []).1)) =
        places.map fun k => (k, ((sortKeys ⟨clock, rows[k]?⟩ os).run []).1) :=
    List.map_congr_left fun k hk => congrArg (Prod.mk k) (keys k hk)
  unfold sorted
  simp only [keyed]

/-- A statement selects rows in the same places, if its root and the columns to sort by have the
same values on them. -/
theorem Tree.rows_map {t : Table} {tree : Tree} (bound : tree.BoundOn t)
    (root : ∀ r ∈ rows,
      tree.root.evalOn ⟨clock', some (g r)⟩ = tree.root.evalOn ⟨clock, some r⟩)
    (order : ∀ r ∈ rows, ∀ o ∈ tree.order,
      o.column.valueOn clock' (g r) = o.column.valueOn clock r) :
    tree.rows clock' (rows.map g) = tree.rows clock rows := by
  have hplaces : ∀ k ∈ tree.matching clock rows, k < rows.length := by
    intro k hk
    obtain ⟨r, hr, -⟩ := mem_matching.1 hk
    exact (List.getElem?_eq_some_iff.1 hr).1
  rw [Tree.rows, Tree.rows, matching_map root, sorted_map bound.2 hplaces order]

theorem BoundColumn.firstRow?_map {c : BoundColumn} {wanted : Value → Bool}
    (agree : ∀ r ∈ rows, c.valueOn clock' (g r) = c.valueOn clock r) :
    c.firstRow? clock' wanted (rows.map g) = c.firstRow? clock wanted rows := by
  unfold firstRow?
  induction rows with
  | nil => rfl
  | cons r rows ih =>
    obtain ⟨hr, hrows⟩ := List.forall_mem_cons.1 agree
    rw [List.map_cons, List.findIdx?_cons, List.findIdx?_cons, hr, ih hrows]

theorem foundOn_map {tracking : Tracking} {k place : Nat} {c : Option BoundColumn}
    (agree : ∀ r ∈ rows, ∀ d ∈ c, d.valueOn clock' (g r) = d.valueOn clock r) :
    foundOn clock' tracking k c (rows.map g) place = foundOn clock tracking k c rows place := by
  have ids : (c.bind fun d => (rows.map g)[place]?.bind (d.signalId? clock')) =
      c.bind fun d => rows[place]?.bind (d.signalId? clock) := by
    cases c with
    | none => rfl
    | some d =>
      rw [Option.bind_some, Option.bind_some, List.getElem?_map]
      cases hrow : rows[place]? with
      | none => rfl
      | some r =>
        have hr := agree r (List.mem_of_getElem? hrow) d rfl
        change d.signalId? clock' (g r) = d.signalId? clock r
        rw [BoundColumn.signalId?, BoundColumn.signalId?, hr]
  simp only [foundOn, ids]

end Agreement

/-! ### What statements look at -/

namespace Statement

/-- What a statement is run by: its condition and the columns that it looks up, that of signal ids
among them. -/
def terms (r : Request) : Statement → List Term
  | .filter f =>
    f.condition :: .column r.idFields.signalId :: f.order.map fun item => .column item.column
  | .condition a => [a, .column r.idFields.signalId]
  | .identifier id => [.column (id.field r.idFields), .column r.idFields.signalId]

variable {r : Request} {t : Table}

theorem signalId_mem_terms (s : Statement) : .column r.idFields.signalId ∈ s.terms r := by
  cases s <;> simp [terms]

/-- A statement on a table is bound as what its condition and its columns stand for. -/
theorem bindOn_yields {s : Statement} (hs : ∀ id, s ≠ .identifier id) :
    t.Yields (s.bindOn r t) fun tree => (∃ a ∈ s.terms r, t.Binds a tree.root) ∧
      ∀ o ∈ tree.order, ∃ name, .column name ∈ s.terms r ∧ t.Resolves name o.column := by
  cases s with
  | filter f =>
    refine (t.bindTerm_yields f.condition).bind fun root hroot => ?_
    refine (t.bindOrder_yields f.order).bind fun os hos => .pure ⟨⟨_, .head _, hroot⟩, ?_⟩
    intro o ho
    obtain ⟨item, hitem, hcolumn⟩ := hos o ho
    exact ⟨item.column, .tail _ (.tail _ (List.mem_map.2 ⟨item, hitem, rfl⟩)), hcolumn⟩
  | condition a =>
    exact (t.bindTerm_yields a).bind fun root hroot =>
      .pure ⟨⟨a, .head _, hroot⟩, List.forall_mem_nil _⟩
  | identifier id => exact absurd rfl (hs id)

end Statement

/-- No function shows the time in what the statements of a filter are run by, whichever table of a
data set they are bound on. -/
def Request.IsTimeless (r : Request) (ds : DataSet) : Prop :=
  ∀ statements, Statement.listOfText r.filter = .ok statements → ∀ s ∈ statements,
    ∀ a ∈ s.terms r, ∀ t ∈ ds.tables, ∀ e, t.Binds a e → e.IsTimeless

/-! ### Statements on a widened table -/

section Widens

variable {clock clock' : Clock} {r : Request} {tracking : Tracking} {k : Nat} {t u : Table}
  {s : Statement} {more : Row}

/-- Two times make no difference to the expressions of some terms. -/
def SameAt (clock clock' : Clock) (t : Table) (terms : List Term) : Prop :=
  ∀ a ∈ terms, ∀ e, t.Binds a e → clock' = clock ∨ e.IsTimeless

theorem Table.Binds.evalOn_wider {a : Term} {e : Expr} (h : t.Binds a e)
    (same : clock' = clock ∨ e.IsTimeless) {row : Row} (fits : row.Fits t.columns) :
    e.evalOn ⟨clock', some (row ++ more)⟩ = e.evalOn ⟨clock, some row⟩ := by
  rw [h.evalOn_append fits]
  rcases same with rfl | timeless
  · rfl
  · exact h.evalOn_of_isTimeless timeless _

/-- A column that is looked up for a statement has the values that it had. -/
theorem SameAt.valueOn_eq {terms : List Term} (same : SameAt clock clock' t terms)
    (ht : t.Reachable) {name : String} {c : BoundColumn} (hname : .column name ∈ terms)
    (hc : t.Resolves name c) :
    ∀ row ∈ t.rows, c.valueOn clock' (row ++ more) = c.valueOn clock row := by
  intro row hrow
  have hbinds : t.Binds (.column name) c.toExpr := .column hc
  exact hbinds.evalOn_wider (same _ hname _ hbinds) (ht.fits row hrow)

variable (wider : t.Widens u) (ht : t.Reachable) (hu : u.Reachable)
  (same : SameAt clock clock' t (s.terms r))

include wider ht hu

theorem Request.wantedColumn_widens {c : Option BoundColumn}
    (h : r.wantedColumn tracking t = .ok c) :
    r.wantedColumn tracking u = .ok c ∧ ∀ d ∈ c, t.Resolves r.idFields.signalId d := by
  unfold wantedColumn at h ⊢
  split at h
  · next hids =>
    obtain ⟨d, hd, rfl⟩ := map_eq_ok.1 h
    have hresolves := (t.idColumn_yields _).remembering ht.coherent hd
    rw [if_pos hids, (Lasts.idColumn _).remembering wider ht hu hd]
    exact ⟨rfl, fun d' hd' => Option.some.inj hd' ▸ hresolves⟩
  · next hids =>
    obtain rfl := Except.ok.inj h
    rw [if_neg hids]
    exact ⟨rfl, fun d hd => nomatch hd⟩

include same

theorem Request.rowsOf_widens (hs : ∀ id, s ≠ .identifier id) {f : Found}
    (h : r.rowsOf clock tracking s k t = .ok f) : r.rowsOf clock' tracking s k u = .ok f := by
  obtain ⟨tree, htree, h⟩ := bind_eq_ok.1 h
  obtain ⟨c, hc, h⟩ := bind_eq_ok.1 h
  obtain ⟨⟨a, ha, hroot⟩, horder⟩ := (Statement.bindOn_yields hs).remembering ht.coherent htree
  obtain ⟨hc', hcolumn⟩ := wantedColumn_widens wider ht hu hc
  obtain ⟨more, hrows⟩ := wider.rows_eq
  have bound : tree.BoundOn t :=
    ⟨⟨a, hroot⟩, fun o ho => (horder o ho).imp fun _ hname => hname.2⟩
  have places : tree.rows clock' u.rows = tree.rows clock t.rows := by
    rw [hrows]
    refine Tree.rows_map bound (fun row hrow => ?_) fun row hrow o ho => ?_
    · exact hroot.evalOn_wider (same a ha _ hroot) (ht.fits row hrow)
    · obtain ⟨name, hname, hresolves⟩ := horder o ho
      exact same.valueOn_eq ht hname hresolves row hrow
  have found : TableFilter.foundOn clock' tracking k c u.rows =
      TableFilter.foundOn clock tracking k c t.rows := by
    funext place
    rw [hrows]
    exact foundOn_map fun row hrow d hd =>
      same.valueOn_eq ht s.signalId_mem_terms (hcolumn d hd) row hrow
  refine bind_eq_ok.2 ⟨tree, s.bindOn_lasts.remembering wider ht hu htree, ?_⟩
  refine bind_eq_ok.2 ⟨c, hc', ?_⟩
  rw [places, found]
  exact h

end Widens

/-! ### Statements on a wider data set -/

section DataSets

variable {clock clock' : Clock} {r : Request} {tracking : Tracking} {ds ds' : DataSet} {k : Nat}
  {t : Table} (wider : ds.Widens ds')

include wider

theorem DataSet.Widens.table {name : String} (h : ds.table name = .ok (k, t)) :
    ∃ u, ds'.table name = .ok (k, u) ∧ t.Widens u := by
  obtain ⟨u, hu, wider⟩ := wider.find?_eq_some (table_eq_ok.1 h)
  exact ⟨u, table_eq_ok.2 hu, wider⟩

theorem Request.primaryOn_widens (h : r.primaryOn ds = .ok (k, t)) :
    ∃ u, r.primaryOn ds' = .ok (k, u) ∧ t.Widens u := by
  unfold primaryOn at h ⊢
  split at h
  · exact nomatch h
  · next hne =>
    rw [if_neg hne]
    exact wider.table h

theorem Statement.targetOn_widens {s : Statement} (h : s.targetOn r ds = .ok (k, t)) :
    ∃ u, s.targetOn r ds' = .ok (k, u) ∧ t.Widens u := by
  cases s with
  | filter f => exact wider.table h
  | condition _ | identifier _ => exact Request.primaryOn_widens wider h

variable (reachable : ∀ t ∈ ds.tables, t.Reachable) (reachable' : ∀ t ∈ ds'.tables, t.Reachable)

include reachable reachable'

theorem Request.placeOn_widens {id : IdLiteral} {place : Option Nat}
    (same : ∀ t ∈ ds.tables, SameAt clock clock' t (Statement.terms r (.identifier id)))
    (h : r.placeOn clock ds id = .ok (k, t, place)) :
    ∃ u ∈ ds'.tables, r.placeOn clock' ds' id = .ok (k, u, place) ∧ t.Widens u := by
  obtain ⟨c, hprimary, hc, hplace⟩ := placeOn_eq_ok.1 h
  obtain ⟨u, hprimary', wider⟩ := primaryOn_widens wider hprimary
  have ht := reachable t (mem_of_primaryOn hprimary)
  have hu := mem_of_primaryOn hprimary'
  have hresolves := (t.idColumn_yields _).remembering ht.coherent hc
  obtain ⟨more, hrows⟩ := wider.rows_eq
  refine ⟨u, hu, placeOn_eq_ok.2 ⟨c, hprimary', ?_, ?_⟩, wider⟩
  · exact (Lasts.idColumn _).remembering wider ht (reachable' u hu) hc
  · rw [← hplace, hrows, BoundColumn.firstRow?_map]
    exact (same t (mem_of_primaryOn hprimary)).valueOn_eq ht (.head _) hresolves

theorem Request.identifierOn_widens {id : IdLiteral} {f : Found}
    (same : ∀ t ∈ ds.tables, SameAt clock clock' t (Statement.terms r (.identifier id)))
    (h : r.identifierOn clock tracking ds id = .ok f) :
    r.identifierOn clock' tracking ds' id = .ok f := by
  unfold identifierOn at h ⊢
  cases id with
  | guid g =>
    dsimp only at h ⊢
    split at h
    · next hrows =>
      obtain ⟨⟨k, t, place⟩, hplace, rfl⟩ := map_eq_ok.1 h
      obtain ⟨u, -, hplace', -⟩ := placeOn_widens wider reachable reachable' same hplace
      rw [if_pos hrows, hplace']
      rfl
    · next hrows =>
      rw [if_neg hrows]
      exact h
  | measurementKey _ | pointTag _ =>
    obtain ⟨⟨k, t, place⟩, hplace, h⟩ := bind_eq_ok.1 h
    obtain ⟨u, hu, hplace', wider⟩ := placeOn_widens wider reachable reachable' same hplace
    obtain ⟨-, hprimary, -⟩ := placeOn_eq_ok.1 hplace
    have ht := mem_of_primaryOn hprimary
    refine bind_eq_ok.2 ⟨(k, u, place), hplace', ?_⟩
    cases place with
    | none => exact h
    | some place =>
      obtain ⟨c, hc, h⟩ := bind_eq_ok.1 h
      obtain ⟨hc', hcolumn⟩ := wantedColumn_widens wider (reachable t ht) (reachable' u hu) hc
      obtain ⟨more, hrows⟩ := wider.rows_eq
      refine bind_eq_ok.2 ⟨c, hc', ?_⟩
      rw [← h, hrows, foundOn_map]
      exact fun row hrow d hd => (same t ht).valueOn_eq (reachable t ht)
        (Statement.signalId_mem_terms _) (hcolumn d hd) row hrow

/-- What a statement finds on a data set, it finds on a wider one. -/
theorem Request.foundOn_widens {s : Statement} {f : Found}
    (same : ∀ t ∈ ds.tables, SameAt clock clock' t (s.terms r))
    (h : r.foundOn clock tracking ds s = .ok f) : r.foundOn clock' tracking ds' s = .ok f := by
  have onTable (hs : ∀ id, s ≠ .identifier id) (h : r.rowsOn clock tracking ds s = .ok f) :
      r.rowsOn clock' tracking ds' s = .ok f := by
    obtain ⟨⟨k, t⟩, htarget, h⟩ := bind_eq_ok.1 h
    obtain ⟨u, htarget', wider⟩ := Statement.targetOn_widens wider htarget
    have ht := Statement.mem_of_targetOn htarget
    have hu := Statement.mem_of_targetOn htarget'
    exact bind_eq_ok.2 ⟨(k, u), htarget', rowsOf_widens wider (reachable t ht) (reachable' u hu)
      (same t ht) hs h⟩
  cases s with
  | identifier id => exact identifierOn_widens wider reachable reachable' same h
  | filter _ | condition _ => exact onTable (by simp) h

end DataSets

end TableFilter
