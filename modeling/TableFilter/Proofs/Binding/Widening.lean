import TableFilter.Proofs.Planning

/-!
# Widened tables

Tables are widened by further columns, which add values at the end of each row, and data sets by
such tables and by further tables at the end. Names stand for what they stood for, so what was bound
before is bound in the same way. What failed before may succeed.

## Main definitions

* `Table.Widens`, `DataSet.Widens`: a table and a data set with further columns and tables
* `Lasts`: what binding gives on a table, it gives on wider ones

## Main results

* `DataSet.Widens.find?_eq_some`: a name stands for the same table, perhaps widened
* `Lasts.remembering`: binding on reachable tables
* `Statement.bindOn_lasts`: binding a statement
-/

namespace TableFilter

open TableFilter.Text

/-! ### Tables and data sets -/

/-- The first columns of a table, and of its rows the values of these. -/
structure Table.Widens (t u : Table) : Prop where
  /-- Both tables have one name. -/
  name_eq : u.name = t.name
  /-- Columns are added at the end. -/
  columns_isPrefix : t.columns <+: u.columns
  /-- Each row gets the same further values. -/
  rows_eq : ∃ more : Row, u.rows = t.rows.map (· ++ more)

/-- All tables of a data set stand in their places in another, perhaps widened. -/
def DataSet.Widens (ds ds' : DataSet) : Prop :=
  ∀ (k : Nat) (t : Table), ds.tables[k]? = some t → ∃ u, ds'.tables[k]? = some u ∧ t.Widens u

theorem Table.Widens.of_rows_eq {t u : Table} (hname : u.name = t.name)
    (hcolumns : u.columns = t.columns) (hrows : u.rows = t.rows) : t.Widens u :=
  ⟨hname, hcolumns ▸ List.prefix_rfl, [], by simp [hrows]⟩

theorem Table.Widens.trans {t u v : Table} (htu : t.Widens u) (huv : u.Widens v) : t.Widens v := by
  obtain ⟨more, hu⟩ := htu.rows_eq
  obtain ⟨further, hv⟩ := huv.rows_eq
  refine ⟨huv.name_eq.trans htu.name_eq, htu.columns_isPrefix.trans huv.columns_isPrefix,
    more ++ further, ?_⟩
  rw [hv, hu, List.map_map]
  exact List.map_congr_left fun r _ => List.append_assoc r more further

theorem Table.addColumn_widens {t u : Table} {c : Column} (h : t.addColumn c = .ok u) :
    t.Widens u := by
  obtain ⟨-, rfl⟩ := addColumn_eq_ok.1 h
  exact ⟨rfl, List.prefix_append _ _, [.null c.type], rfl⟩

namespace DataSet

variable {ds ds' : DataSet} {k : Nat} {t u : Table} {name : String}

theorem Widens.trans {ds'' : DataSet} (h : ds.Widens ds') (h' : ds'.Widens ds'') :
    ds.Widens ds'' := by
  intro k t ht
  obtain ⟨u, hu, wider⟩ := h k t ht
  obtain ⟨v, hv, wider'⟩ := h' k u hu
  exact ⟨v, hv, wider.trans wider'⟩

theorem IsLike.widens (h : ds'.IsLike ds) : ds.Widens ds' := by
  intro k t ht
  obtain ⟨u, hu, like⟩ := h.getElem? ht
  exact ⟨u, hu, .of_rows_eq like.name_eq like.columns_eq like.rows_eq⟩

theorem addTable_widens (h : ds.addTable t = .ok ds') : ds.Widens ds' := by
  obtain ⟨-, rfl⟩ := addTable_eq_ok.1 h
  intro k u hu
  have hk : k < ds.tables.length := (List.getElem?_eq_some_iff.1 hu).1
  exact ⟨u, (List.getElem?_append_left hk).trans hu, .of_rows_eq rfl rfl rfl⟩

theorem setTable_widens (ht : ds.tables[k]? = some t) (hu : t.Widens u) :
    ds.Widens (ds.setTable k u) := by
  intro j s hs
  have hj : j < ds.tables.length := (List.getElem?_eq_some_iff.1 hs).1
  by_cases hjk : k = j
  · obtain rfl := hjk
    obtain rfl := Option.some.inj (ht.symm.trans hs)
    exact ⟨u, List.getElem?_set_self hj, hu⟩
  · exact ⟨s, (List.getElem?_set_ne hjk).trans hs, .of_rows_eq rfl rfl rfl⟩

/-- A name stands for the table that it stood for, which may have become wider: tables that come
before it have the names that they had. -/
theorem Widens.find?_eq_some (h : ds.Widens ds') (hfind : ds.find? name = some (k, t)) :
    ∃ u, ds'.find? name = some (k, u) ∧ t.Widens u := by
  obtain ⟨ht, named, first⟩ := DataSet.find?_eq_some.1 hfind
  obtain ⟨u, hu, wider⟩ := h k t ht
  refine ⟨u, DataSet.find?_eq_some.2 ⟨hu, wider.name_eq ▸ named, fun s hs => ?_⟩, wider⟩
  obtain ⟨j, hj, rfl⟩ := List.mem_take_iff_getElem.1 hs
  have hk : k < ds.tables.length := (List.getElem?_eq_some_iff.1 ht).1
  have hjk : j < ds.tables.length := by omega
  obtain ⟨s, hs, wider⟩ := h j _ (List.getElem?_eq_getElem hjk)
  obtain ⟨hlength, rfl⟩ := List.getElem?_eq_some_iff.1 hs
  rw [wider.name_eq]
  exact first _ (List.mem_take_iff_getElem.2 ⟨j, by omega, rfl⟩)

end DataSet

/-! ### Binding on widened tables -/

theorem Table.idColumn_yields (t : Table) (field : String) :
    t.Yields (t.idColumn field) (t.Resolves field) := by
  rw [idColumn_eq]
  exact (t.lookUp_yields field).tryCatch (fun _ h => h) fun e _ => .throw fun _ h => nomatch h

/-- What binding gives on a table, it gives on all tables of the same name with further columns. -/
def Lasts {α : Type} (binding : Table → Binding α) : Prop :=
  ∀ t u : Table, u.name = t.name → t.columns <+: u.columns →
    t.Yields (binding t) (u.Finds (binding u))

namespace Lasts

variable {α β : Type}

/-- A value that depends on the name of the table only. -/
theorem named (value : String → α) : Lasts fun t => pure (value t.name) :=
  fun _ _ hname _ => .pure (.pure (congrArg (Except.ok ∘ value) hname))

theorem bind {m : Table → Binding α} {f : Table → α → Binding β} (hm : Lasts m)
    (hf : ∀ a, Lasts fun t => f t a) : Lasts fun t => m t >>= f t :=
  fun t u hname le => (hm t u hname le).bind fun a ha =>
    (hf a t u hname le).mono fun _ h b hb => ha.bind (h b hb)

theorem lookUp (name : String) : Lasts fun t => t.lookUp name :=
  fun t _ _ le => (t.lookUp_yields name).mono fun _ h c hc => ((h c hc).mono le).lookUp_finds

theorem bindTerm (a : Term) : Lasts fun t => t.bindTerm a :=
  fun t _ _ le => (t.bindTerm_yields a).mono fun _ h e he => ((h e he).mono le).bindTerm_finds

theorem bindOrder (items : List OrderItem) : Lasts fun t => t.bindOrder items := by
  unfold Table.bindOrder
  induction items with
  | nil => exact named fun _ => []
  | cons item items ih =>
    simp only [List.mapM_cons]
    have first : Lasts fun t => t.bindOrderItem item := (lookUp item.column).bind fun c =>
      named fun _ => (⟨c, item.ascending, item.exact⟩ : OrderTerm)
    exact first.bind fun o => ih.bind fun os => named fun _ => o :: os

/-- Where one error is put in the place of another, nothing changes if there is none. -/
theorem replacing {m : Table → Binding α} (hm : Lasts m) (fault : Table → Error → Error) :
    Lasts fun t => tryCatch (m t) fun e => throw (fault t e) := by
  intro t u hname le
  refine (hm t u hname le).tryCatch (fun a h b hb => ?_) fun e _ => .throw fun _ h => nomatch h
  exact (h b hb).tryCatch (fun _ h => h) fun _ h => nomatch h

theorem idColumn (field : String) : Lasts fun t => t.idColumn field := by
  simp only [Table.idColumn_eq]
  exact (lookUp field).replacing fun t => t.idColumnFault field

/-- What binding gives on a reachable table, it gives on a reachable one that is wider. -/
theorem remembering {binding : Table → Binding α} (h : Lasts binding) {t u : Table}
    (wider : t.Widens u) (ht : t.Reachable) (hu : u.Reachable) {a : α}
    (ha : (t.remembering binding).1 = .ok a) : (u.remembering binding).1 = .ok a :=
  ((h t u wider.name_eq wider.columns_isPrefix t.bound ht.coherent).1 a ha u.bound hu.coherent).1

end Lasts

namespace Statement

variable {r : Request}

theorem bindOn_lasts (s : Statement) : Lasts (s.bindOn r) := by
  cases s with
  | filter f =>
    exact (Lasts.bindTerm f.condition).bind fun root => (Lasts.bindOrder f.order).bind fun order =>
      .named fun name => (⟨name, root, f.limit.getD noLimit, order⟩ : Tree)
  | condition term =>
    exact (Lasts.bindTerm term).bind fun root => .named fun name => Tree.ofRoot name root
  | identifier id =>
    have column : Lasts fun t => orElseFault (t.lookUp (id.field r.idFields))
        (.resolution (.noPrimaryIdField t.name (id.field r.idFields))) :=
      (Lasts.lookUp _).replacing fun t _ => .resolution (.noPrimaryIdField t.name _)
    exact column.bind fun c => .named fun name => Tree.ofRoot name
      (.binary (.comparison (.equal false)) c.toExpr (.literal id.toValue))

end Statement

end TableFilter
