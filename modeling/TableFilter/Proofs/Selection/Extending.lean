import TableFilter.Proofs.Catalog.Calls
import TableFilter.Proofs.Selection.Widening
import TableFilter.Proofs.Selection.EntryPoints

/-!
# Extending data sets

A filter that works goes on to work, and selects the same, when tables or columns are added to the
data set. When a row is added to a table, a statement that keeps all rows of this table selects what
it selected before, with the new row put in or not.

## Main definitions

* `Statement.ListsAll`: a statement without a limit on a table

## Main results

* `Tree.rows_concat`: a bound statement on rows with one more
* `Request.select_widens`: a filter on a wider data set
* `Request.select_addRow`: a statement on a table with one row more
* `Request.select_extended`: a filter on an extended data set
-/

namespace TableFilter

open TableFilter.Text Result

/-! ### One row more -/

section Concat

variable {clock : Clock} {t u : Table} {tree : Tree} {row : Row}

/-- Two rows tie if neither comes before the other. -/
theorem ties_of_not_placesBefore {r s : Row} {os : List OrderTerm}
    (hrs : ¬PlacesBefore clock r s os) (hsr : ¬PlacesBefore clock s r os) :
    Ties clock r s os := by
  induction os with
  | nil => exact List.forall_mem_nil _
  | cons o os ih =>
    simp only [PlacesBefore, not_or, not_and] at hrs hsr
    exact List.forall_mem_cons.2 ⟨⟨hrs.1, hsr.1⟩, ih (hrs.2 hsr.1) (hsr.2 hrs.1)⟩

theorem Ties.symm {r s : Row} {os : List OrderTerm} (h : Ties clock r s os) :
    Ties clock s r os :=
  fun o ho => (h o ho).symm

/-- The new row is the last that can match. -/
theorem Tree.matching_concat (clock : Clock) (tree : Tree) (rows : List Row) (row : Row) :
    tree.matching clock (rows ++ [row]) =
      tree.matching clock rows ++ if tree.selects clock row then [rows.length] else [] := by
  unfold matching
  rw [List.zipIdx_append, List.filter_append, List.map_append]
  refine congrArg (_ ++ ·) ?_
  cases hrow : tree.selects clock row <;> simp [hrow]

/-- Without the new row, a statement that keeps all rows selects the rows that it selected before,
in the same order. -/
theorem Tree.rows_concat (ht : t.Reachable) (hu : u.Reachable) (bound : tree.BoundOn t)
    (hcolumns : u.columns = t.columns) (hrows : u.rows = t.rows ++ [row])
    (hlimit : tree.limit = noLimit) :
    (tree.rows clock u.rows).erase t.rows.length = tree.rows clock t.rows := by
  have all (rows : List Row) :
      tree.rows clock rows = sorted clock tree.order rows (tree.matching clock rows) := by
    rw [Tree.rows, limited, hlimit]
    rfl
  have members {v : Table} : ∀ k ∈ tree.matching clock v.rows, ∃ r, v.rows[k]? = some r :=
    fun k hk => (mem_matching.1 hk).imp fun r hr => hr.1
  have before : ∀ k ∈ tree.matching clock t.rows, k < t.rows.length := by
    intro k hk
    obtain ⟨r, hr⟩ := members k hk
    exact (List.getElem?_eq_some_iff.1 hr).1
  have bound' : ∀ o ∈ tree.order, ∃ name, u.Resolves name o.column := by
    intro o ho
    obtain ⟨name, hname⟩ := bound.2 o ho
    exact ⟨name, hname.mono (hcolumns ▸ List.prefix_rfl)⟩
  have wide := sorted_pairwise clock hu bound' matching_increasing (members (v := u))
  have narrow := sorted_pairwise clock ht bound.2 matching_increasing (members (v := t))
  have erased : (tree.matching clock u.rows).erase t.rows.length = tree.matching clock t.rows := by
    have notMem : t.rows.length ∉ tree.matching clock t.rows :=
      fun h => Nat.lt_irrefl _ (before _ h)
    rw [hrows, matching_concat, List.erase_append_right _ notMem]
    split <;> simp
  have kept : ∀ k ∈ sorted clock tree.order t.rows (tree.matching clock t.rows),
      u.rows[k]? = t.rows[k]? := by
    intro k hk
    rw [hrows, List.getElem?_append_left (before k (sorted_perm.mem_iff.1 hk))]
  rw [all, all]
  -- Both lists hold the same places, and the columns to sort by order these in one way only.
  refine List.Perm.eq_of_pairwise (fun j k hj hk hjk hkj => ?_) (wide.sublist List.erase_sublist)
    (narrow.imp_of_mem fun hj hk h r s hr hs => ?_) ?_
  · obtain ⟨r, hr⟩ := members j (sorted_perm.mem_iff.1 (List.mem_of_mem_erase hj))
    obtain ⟨s, hs⟩ := members k (sorted_perm.mem_iff.1 hk)
    rw [← kept k hk] at hs
    obtain ⟨hsr, hlt⟩ := hjk r s hr hs
    obtain ⟨hrs, hgt⟩ := hkj s r hs hr
    have ties := ties_of_not_placesBefore hrs hsr
    exact absurd (hlt ties) (Nat.lt_asymm (hgt ties.symm))
  · exact h r s (kept _ hj ▸ hr) (kept _ hk ▸ hs)
  · exact (sorted_perm.erase _).trans (erased ▸ sorted_perm.symm)

end Concat

/-! ### A row is added -/

/-- A statement without a limit on the table at a place. -/
def Statement.ListsAll (r : Request) (ds : DataSet) (k : Nat) : Statement → Prop
  | .filter f => f.limit = none ∧ ds.tableIndex? f.table = some k
  | .condition _ => ds.tableIndex? r.primary = some k
  | .identifier _ => False

section AddRow

variable {clock : Clock} {r : Request} {tracking : Tracking} {ds : DataSet} {k : Nat} {t u : Table}
  {s : Statement} {name : String}

/-- The place of a table does not change with the table, which keeps its name. -/
theorem DataSet.tableIndex?_setTable (ht : ds.tables[k]? = some t) (hname : u.name = t.name)
    (name : String) : (ds.setTable k u).tableIndex? name = ds.tableIndex? name := by
  have byName (tables : List Table) : (tables.findIdx? fun t => sameAsciiCase t.name name) =
      (tables.map Table.name).findIdx? fun own => sameAsciiCase own name := by
    rw [List.findIdx?_map]
    rfl
  rw [tableIndex?, tableIndex?, byName, byName]
  exact congrArg (List.findIdx? _) (map_set_of_eq ht hname)

theorem DataSet.table_of_tableIndex? (hk : ds.tableIndex? name = some k)
    (ht : ds.tables[k]? = some t) : ds.table name = .ok (k, t) := by
  rw [table_eq_ok, find?, hk]
  simp [ht]

/-- A statement without a limit is bound on its table before and after this is replaced, unless it
needs a primary table and there is none. -/
theorem Statement.ListsAll.targetOn (all : s.ListsAll r ds k) (ht : ds.tables[k]? = some t)
    (hname : u.name = t.name) :
    (s.targetOn r ds = .ok (k, t) ∧ s.targetOn r (ds.setTable k u) = .ok (k, u)) ∨
      ∃ e, s.targetOn r ds = .error e ∧ s.targetOn r (ds.setTable k u) = .error e := by
  have hu : (ds.setTable k u).tables[k]? = some u :=
    List.getElem?_set_self (List.getElem?_eq_some_iff.1 ht).1
  have both {name : String} (hk : ds.tableIndex? name = some k) :
      ds.table name = .ok (k, t) ∧ (ds.setTable k u).table name = .ok (k, u) :=
    ⟨DataSet.table_of_tableIndex? hk ht,
      DataSet.table_of_tableIndex? ((DataSet.tableIndex?_setTable ht hname name).trans hk) hu⟩
  cases s with
  | filter f => exact .inl (both all.2)
  | condition a =>
    simp only [Statement.targetOn, Request.primaryOn]
    split
    · exact .inr ⟨_, rfl, rfl⟩
    · exact .inl (both all)
  | identifier id => exact all.elim

/-- A statement without a limit is bound as one that keeps all rows. -/
theorem Statement.ListsAll.limit_bindOn (h : s.ListsAll r ds k) (t : Table) :
    AlwaysGives (s.bindOn r t) fun tree => tree.limit = noLimit := by
  cases s with
  | filter f => exact .bind fun root => .bind fun order => .pure (by rw [h.1]; rfl)
  | condition a => exact .bind fun root => .pure rfl
  | identifier id => exact h.elim

theorem Statement.ListsAll.ne_identifier (h : s.ListsAll r ds k) (id : IdLiteral) :
    s ≠ .identifier id := by
  rintro rfl
  exact h

/-- Without the new row, a statement on a table finds the rows that it found before. -/
theorem Request.rowsOf_addRow (ht : t.Reachable) (hu : u.Reachable) {row : Row}
    (hadd : u = { t with rows := t.rows ++ [row] }) (all : s.ListsAll r ds k) :
    (r.rowsOf clock tracking s k u).map (·.rows.erase ⟨k, t.rows.length⟩) =
      (r.rowsOf clock tracking s k t).map (·.rows) := by
  have same {α : Type} {binding : Table → Binding α} (h : LooksUp binding) :
      (u.remembering binding).1 = (t.remembering binding).1 := by
    change ((binding u).run u.bound).1 = ((binding t).run t.bound).1
    rw [h.congr (t := t) (by rw [hadd]) (by rw [hadd]), hadd]
  have hwanted : r.wantedColumn tracking u = r.wantedColumn tracking t := by
    rw [wantedColumn, wantedColumn, same (.idColumn _)]
  rw [rowsOf, rowsOf, same s.looksUp_bindOn, hwanted]
  cases htree : (t.remembering (s.bindOn r)).1 with
  | error e => simp only [error_bind, map_error]
  | ok tree =>
    cases r.wantedColumn tracking t with
    | error e => simp only [ok_bind, error_bind, map_error]
    | ok c =>
      obtain ⟨⟨a, -, hroot⟩, horder⟩ :=
        (Statement.bindOn_yields all.ne_identifier).remembering ht.coherent htree
      have bound : tree.BoundOn t :=
        ⟨⟨a, hroot⟩, fun o ho => (horder o ho).imp fun _ hname => hname.2⟩
      have hlimit : tree.limit = noLimit := all.limit_bindOn t t.bound tree htree
      have hrows : (tree.rows clock u.rows).erase t.rows.length = tree.rows clock t.rows :=
        Tree.rows_concat ht hu bound (by rw [hadd]) (show u.rows = t.rows ++ [row] by rw [hadd])
          hlimit
      have place : Function.Injective (RowRef.mk k) := fun i j hij => (RowRef.mk.inj hij).2
      simp only [ok_bind, map_ok, rows_all_foundOn]
      split
      · rw [← List.map_erase place, hrows]
      · rfl

theorem Request.foundOn_addRow (reachable : ∀ t ∈ ds.tables, t.Reachable)
    (ht : ds.tables[k]? = some t) (hu : u.Reachable) {row : Row}
    (hadd : u = { t with rows := t.rows ++ [row] }) (all : s.ListsAll r ds k) :
    (r.foundOn clock tracking (ds.setTable k u) s).map (·.rows.erase ⟨k, t.rows.length⟩) =
      (r.foundOn clock tracking ds s).map (·.rows) := by
  rw [foundOn_of_ne all.ne_identifier, foundOn_of_ne all.ne_identifier, rowsOn, rowsOn]
  rcases all.targetOn (u := u) ht (by rw [hadd]) with ⟨h, h'⟩ | ⟨e, h, h'⟩
  · rw [h, h']
    exact rowsOf_addRow (reachable t (List.mem_of_getElem? ht)) hu hadd all
  · rw [h, h']
    rfl

end AddRow

/-! ### Filters on extended data sets -/

namespace Request

variable {clock clock' : Clock} {r : Request} {tracking : Tracking} {ds ds' : DataSet}
  {s : Selection}

/-- A filter that selects something on a data set selects the same on a wider one. -/
theorem select_widens (wider : ds.Widens ds') (reachable : ∀ t ∈ ds.tables, t.Reachable)
    (reachable' : ∀ t ∈ ds'.tables, t.Reachable) (timeless : clock' = clock ∨ r.IsTimeless ds)
    (h : (r.select clock tracking ds).1.result = .ok s) :
    (r.select clock' tracking ds').1.result = .ok s := by
  cases parsed : Statement.listOfText r.filter with
  | error e =>
    unfold select withStatements at h
    rw [parsed] at h
    exact nomatch h
  | ok statements =>
    rw [select_eq_run r parsed, run_eq_foundOn reachable] at h
    obtain ⟨fs, hfs, rfl⟩ := map_eq_ok.1 h
    rw [select_eq_run r parsed, run_eq_foundOn reachable']
    refine map_eq_ok.2 ⟨fs, mapM_eq_ok_of_forall (fun statement hs f hf => ?_) hfs, rfl⟩
    refine foundOn_widens wider reachable reachable' (fun t ht a ha e he => ?_) hf
    exact timeless.imp_right fun never => never statements parsed statement hs a ha t ht e he

/-- After a row was added, a statement without a limit on its table selects the rows that it
selected before, once the new one is deleted. -/
theorem select_addRow (reachable : ∀ t ∈ ds.tables, t.Reachable) {name : String}
    {values : List Value} (h : (Call.onTable name (.addRow values)).run ds = .ok ds') {k : Nat}
    {t : Table} (hfind : ds.find? name = some (k, t)) {statement : Statement}
    (parsed : Statement.listOfText r.filter = .ok [statement]) (all : statement.ListsAll r ds k) :
    (r.select clock tracking ds').1.result.map (·.rows.erase ⟨k, t.rows.length⟩) =
      (r.select clock tracking ds).1.result.map (·.rows) := by
  have reachable' := (Call.changes h).reachable reachable
  obtain ⟨k', t', u, hfind', hu, rfl⟩ := Call.run_onTable_eq_ok.1 h
  obtain ⟨rfl, rfl⟩ := Prod.mk.inj (Option.some.inj (hfind.symm.trans hfind'))
  have ht := (DataSet.find?_eq_some.1 hfind).1
  have hreachable : u.Reachable :=
    (reachable t (List.mem_of_getElem? ht)).change (TableCall.changes hu)
  obtain ⟨-, hadd⟩ := Table.addRow_eq_ok.1 (TableCall.run_addRow.symm.trans hu)
  have found : (r.foundOn clock tracking (ds.setTable k u) statement).map
      (·.rows.erase ⟨k, t.rows.length⟩) =
        (r.foundOn clock tracking ds statement).map (·.rows) :=
    foundOn_addRow reachable ht hreachable hadd all
  rw [select_eq_run r parsed, select_eq_run r parsed, run_singleton reachable',
    run_singleton reachable, found_eq reachable', found_eq reachable]
  have alone (found : Result Found) (p : List RowRef → List RowRef) :
      (found.map Selection.ofFound).map (fun s => p s.rows) = found.map fun f => p f.rows := by
    cases found with
    | ok f => exact congrArg (Except.ok ∘ p) Selection.rows_ofFound
    | error e => rfl
  exact (alone _ (·.erase ⟨k, t.rows.length⟩)).trans (found.trans (alone _ id).symm)

/-- **Extending a data set does not change what a filter selects.** Let a filter select something on
a data set whose tables are reachable, and let it be run again later, when it has left them, unless
a function in it shows the time. If a table or a column was added in between, it selects the same
rows and ids in the same order. If a row was added to a table on which the filter is a single
statement without a limit, deleting the new row from those that it selects gives those that it
selected before. -/
theorem select_extended (clock clock' : Clock) (r : Request) (tracking : Tracking) {ds : DataSet}
    (reachable : ∀ t ∈ ds.tables, t.Reachable) (timeless : clock' = clock ∨ r.IsTimeless ds)
    {s : Selection} (h : (r.select clock tracking ds).1.result = .ok s) :
    let after := (r.select clock tracking ds).2
    (∀ (t : Table) (ht : t.Reachable) (ds' : DataSet), (Call.addTable t ht).run after = .ok ds' →
      (r.select clock' tracking ds').1.result = .ok s) ∧
    (∀ (name : String) (c : Column) (ds' : DataSet),
      (Call.onTable name (.addColumn c)).run after = .ok ds' →
      (r.select clock' tracking ds').1.result = .ok s) ∧
    ∀ (name : String) (values : List Value) (ds' : DataSet) (k : Nat) (t : Table)
      (statement : Statement), (Call.onTable name (.addRow values)).run after = .ok ds' →
      after.find? name = some (k, t) → Statement.listOfText r.filter = .ok [statement] →
      statement.ListsAll r after k →
      ∃ s', (r.select clock' tracking ds').1.result = .ok s' ∧
        s'.rows.erase ⟨k, t.rows.length⟩ = s.rows := by
  intro after
  have like : after.IsLike ds := select_isLike reachable
  have later {ds' : DataSet} (wider : after.Widens ds')
      (reachable' : ∀ t ∈ ds'.tables, t.Reachable) :
      (r.select clock' tracking ds').1.result = .ok s :=
    select_widens (like.widens.trans wider) reachable reachable' timeless h
  refine ⟨fun t ht ds' hrun => ?_, fun name c ds' hrun => ?_, ?_⟩
  · have hadd : after.addTable t = .ok ds' := Call.run_addTable.symm.trans hrun
    exact later (DataSet.addTable_widens hadd) ((Call.changes hrun).reachable like.reachable)
  · have reachable' := (Call.changes hrun).reachable like.reachable
    obtain ⟨k, t, u, hfind, hu, rfl⟩ := Call.run_onTable_eq_ok.1 hrun
    have ht := (DataSet.find?_eq_some.1 hfind).1
    have hadd : t.addColumn c = .ok u := TableCall.run_addColumn.symm.trans hu
    exact later (DataSet.setTable_widens ht (Table.addColumn_widens hadd)) reachable'
  · intro name values ds' k t statement hrun hfind parsed all
    have again : (r.select clock' tracking after).1.result = .ok s :=
      select_widens like.widens reachable like.reachable timeless h
    have rows : (r.select clock' tracking ds').1.result.map
        (·.rows.erase ⟨k, t.rows.length⟩) =
          (r.select clock' tracking after).1.result.map (·.rows) :=
      select_addRow like.reachable hrun hfind parsed all
    rw [again] at rows
    exact map_eq_ok.1 rows

/-- The numbers whose double is above one, sorted by their doubles. -/
def sortedDoubles : Request := { filter := "FILTER Doubling WHERE Twice > 1 ORDER BY Twice" }

/-- The statement of this filter. -/
def sortedDoublesStatement : Statement :=
  .filter ⟨"Doubling", none, .binary (.comparison .greater) (.column "Twice")
    (.literal (.int32 1)), [⟨"Twice", true, false⟩]⟩

theorem sortedDoubles_parsed :
    Statement.listOfText sortedDoubles.filter = .ok [sortedDoublesStatement] := by cbv

theorem sortedDoubles_isTimeless : sortedDoubles.IsTimeless doublingSet := by
  have number : Table.doubling.Resolves "N" ⟨⟨0, "N", .int32⟩, none⟩ :=
    .stored (c := ⟨"N", .int32, none⟩) rfl rfl rfl
  have double : Table.doubling.Binds (.column "Twice") Table.twice :=
    .column (.computed (c := ⟨"Twice", .int32, some "N + N"⟩) rfl rfl rfl rfl
      (.binary (.column number) (.column number)))
  have twice : Table.twice.IsTimeless := .computed (.binary (.column _) (.column _))
  intro statements parsed s hs a ha t ht e he
  obtain rfl := Except.ok.inj (sortedDoubles_parsed.symm.trans parsed)
  obtain rfl := List.mem_singleton.1 hs
  obtain rfl := List.mem_singleton.1 ht
  simp only [Statement.terms, sortedDoublesStatement, List.map_cons, List.map_nil, List.mem_cons,
    List.not_mem_nil, or_false] at ha
  rcases ha with rfl | rfl | rfl
  · rw [he.unique (.binary double (.literal _))]
    exact .binary twice (.literal _)
  · cases he with
    | column h =>
      obtain ⟨k, c, hk, -, -⟩ := h.head_eq
      exact absurd (show none = some k from hk) (Option.some_ne_none k).symm
  · rw [he.unique double]
    exact twice

/-- A time that differs from the first. -/
def secondLater : Clock :=
  let second := (Instant.of? 1 0).getD default
  ⟨second, second⟩

/-- The filter selects both numbers, also after a table, a column or a number was added, and then
the new number besides. -/
theorem sortedDoubles_select_extended :
    let after := (sortedDoubles.select ⟨default, default⟩ ⟨true, false⟩ doublingSet).2
    (∀ t ∈ doublingSet.tables, t.Reachable) ∧ sortedDoubles.IsTimeless doublingSet ∧
    ∃ s, (sortedDoubles.select ⟨default, default⟩ ⟨true, false⟩ doublingSet).1.result = .ok s ∧
      s.rows = [⟨0, 1⟩, ⟨0, 0⟩] ∧
      (∃ ds' reachable, (Call.addTable repeating reachable).run after = .ok ds' ∧
        (sortedDoubles.select secondLater ⟨true, false⟩ ds').1.result = .ok s) ∧
      (∃ ds', (Call.onTable "doubling" (.addColumn ⟨"S", .string, none⟩)).run after = .ok ds' ∧
        (sortedDoubles.select secondLater ⟨true, false⟩ ds').1.result = .ok s) ∧
      ∃ ds' s', (Call.onTable "DOUBLING" (.addRow [.int32 1, .null .undefined])).run after =
          .ok ds' ∧
        (sortedDoubles.select secondLater ⟨true, false⟩ ds').1.result = .ok s' ∧
        s'.rows.erase ⟨0, 2⟩ = s.rows := by
  have selects : sortedDoubles.select ⟨default, default⟩ ⟨true, false⟩ doublingSet =
      (⟨[], .ok ⟨⟨[⟨0, 1⟩, ⟨0, 0⟩], none⟩, ⟨[], none⟩, 1⟩⟩, ⟨[Table.divided]⟩) := by cbv
  have repeats : repeating.Reachable := repeatingSet_reachable.tables _ (.head _)
  obtain ⟨table, column, row⟩ := select_extended ⟨default, default⟩ secondLater sortedDoubles
    ⟨true, false⟩ doublingSet_reachable.tables (.inr sortedDoubles_isTimeless)
    (congrArg (fun p => p.1.result) selects)
  rw [selects] at table column row ⊢
  refine ⟨doublingSet_reachable.tables, sortedDoubles_isTimeless, _, rfl, rfl, ?_, ?_, ?_⟩
  · exact ⟨_, repeats, rfl, table repeating repeats _ rfl⟩
  · exact ⟨_, rfl, column "doubling" ⟨"S", .string, none⟩ _ rfl⟩
  · obtain ⟨s', hs', herase⟩ := row "DOUBLING" [.int32 1, .null .undefined] _ 0 Table.divided
      sortedDoublesStatement rfl rfl sortedDoubles_parsed ⟨rfl, rfl⟩
    exact ⟨_, s', rfl, hs', herase⟩

end Request

end TableFilter
