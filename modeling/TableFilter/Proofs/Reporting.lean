import TableFilter.Proofs.Binding.Errors
import TableFilter.Proofs.Binding.Widening
import TableFilter.Proofs.Selection.Filters

/-!
# Reported errors

That the text of a filter is malformed is reported before it is returned. The formula of a computed
column is a text too, and is read when a filter first looks the column up. That it is malformed is
returned, but not reported.

## Main definitions

* `Table.HasMalformed`, `DataSet.HasMalformed`: errors in the formulas of columns
* `Table.Blames`: an action that is malformed by such errors only
* `Outcome.IsReported`: what is reported is that a text is malformed, if this is returned

## Main results

* `Request.reports`: what is reported and what is returned of a filter
-/

namespace TableFilter

open Result

/-! ### Formulas -/

/-- An error says that the formula of a column is malformed. -/
def Table.HasMalformed (t : Table) (e : Error) : Prop :=
  ∃ c ∈ t.columns, ∃ formula, c.formula = some formula ∧ Term.ofText formula = .error e

/-- An error says that the formula of a column of a table is malformed. -/
def DataSet.HasMalformed (ds : DataSet) (e : Error) : Prop := ∃ t ∈ ds.tables, t.HasMalformed e

namespace Table

variable {α β : Type} {t : Table}

/-- An action that fails because a text is malformed only if this is the formula of a column. -/
abbrev Blames (t : Table) (m : Binding α) : Prop :=
  Maintains (fun _ : BoundColumns => True) m fun r =>
    ∀ e, r = .error e → e.isMalformed = true → t.HasMalformed e

namespace Blames

variable {m : Binding α} {f : α → Binding β}

theorem pure (a : α) : t.Blames (pure a) := FailsOnly.pure a

theorem throw {e : Error} (h : e.isMalformed = false) : t.Blames (throw e : Binding α) :=
  FailsOnly.throw fun he => nomatch h.symm.trans he

theorem bind (hm : t.Blames m) (hf : ∀ a, t.Blames (f a)) : t.Blames (m >>= f) :=
  FailsOnly.bind hm hf

end Blames

/-! ### Binding -/

theorem isMalformed_of_checkCount {f : Builtin} {count : Nat} {e : Error}
    (h : f.checkCount count = .error e) : e.isMalformed = false := by
  unfold Builtin.checkCount at h
  split at h
  · exact nomatch h
  · exact Except.error.inj h ▸ rfl

theorem bindWith_blames {lookUp : String → Binding BoundColumn} (h : ∀ name, t.Blames (lookUp name))
    (a : Term) : t.Blames (a.bindWith lookUp) := by
  refine a.bindWith_failsOnly (fun f args _ e he hmalformed => ?_) fun name _ => h name
  exact nomatch (isMalformed_of_checkCount he).symm.trans hmalformed

/-- The formula of a column is the one text that is read while columns are looked up. -/
theorem lookUpBy_blames {resolving : List Nat}
    {inner : Nat → Column → String → Binding BoundColumn}
    (h : ∀ k c name, t.Blames (inner k c name)) (name : String) :
    t.Blames (t.lookUpBy resolving inner name) := by
  refine lookUpBy_failsOnly (fun _ h => nomatch h) fun k c formula _ hc hf => ?_
  refine definitionOf_failsOnly (fun _ h => nomatch h) (fun e he _ => ?_) fun _ a _ => ?_
  · exact ⟨c, List.mem_of_getElem? hc, formula, hf, he⟩
  · exact bindWith_blames (h k c) a

theorem lookUpTo_blames (depth : Nat) : ∀ (resolving : List Nat) (name : String),
    t.Blames (t.lookUpTo depth resolving name) := by
  induction depth with
  | zero =>
    intro resolving name
    exact lookUpBy_blames (fun _ _ _ => .throw rfl) name
  | succ depth ih =>
    intro resolving name
    exact lookUpBy_blames (fun k _ => ih (k :: resolving)) name

theorem lookUp_blames (name : String) : t.Blames (t.lookUp name) :=
  lookUpTo_blames t.columns.length [] name

theorem bindTerm_blames (a : Term) : t.Blames (t.bindTerm a) := bindWith_blames lookUp_blames a

theorem bindOrder_blames (items : List OrderItem) : t.Blames (t.bindOrder items) := by
  unfold bindOrder
  induction items with
  | nil => exact .pure []
  | cons item items ih =>
    rw [List.mapM_cons]
    have first : t.Blames (t.bindOrderItem item) :=
      (lookUp_blames item.column).bind fun _ => .pure _
    exact first.bind fun _ => ih.bind fun _ => .pure _

theorem idColumn_blames (field : String) : t.Blames (t.idColumn field) := by
  rw [idColumn_eq]
  refine (lookUp_blames field).tryCatch (fun _ _ _ h => nomatch h) fun e he => ?_
  refine Maintains.throw fun e' he' hmalformed => ?_
  obtain rfl := Except.error.inj he'
  cases e with
  | resolution cause =>
    have known : (t.idColumnFault field (.resolution cause)).isMalformed = false := by
      dsimp only [idColumnFault]
      split <;> rfl
    exact nomatch known.symm.trans hmalformed
  | _ => exact he _ rfl hmalformed

theorem bindOn_blames (r : Request) (s : Statement) : t.Blames (s.bindOn r t) := by
  cases s with
  | filter f =>
    exact (bindTerm_blames f.condition).bind fun _ => (bindOrder_blames f.order).bind fun _ =>
      .pure _
  | condition a => exact (bindTerm_blames a).bind fun _ => .pure _
  | identifier id =>
    have column : t.Blames (orElseFault (t.lookUp (id.field r.idFields))
        (.resolution (.noPrimaryIdField t.name (id.field r.idFields)))) :=
      (lookUp_blames _).tryCatch (fun _ _ _ h => nomatch h) fun _ _ => Blames.throw rfl
    exact column.bind fun _ => .pure _

end Table

/-! ### Whole filters -/

/-- A result of a data set that is malformed only by the formula of a column. -/
def DataSet.Blames {α : Type} (ds : DataSet) (r : Result α) : Prop :=
  ∀ e, r = .error e → e.isMalformed = true → ds.HasMalformed e

namespace DataSet

variable {α β : Type} {ds : DataSet}

theorem Blames.ok (a : α) : ds.Blames (.ok a) := fun _ h => nomatch h

theorem Blames.bind {r : Result α} {f : α → Result β} (hr : ds.Blames r)
    (hf : ∀ a, r = .ok a → ds.Blames (f a)) : ds.Blames (r >>= f) := by
  cases r with
  | error e => exact fun e' he => hr e' (congrArg _ (Except.error.inj he))
  | ok a => exact hf a rfl

theorem Blames.map {r : Result α} {f : α → β} (hr : ds.Blames r) : ds.Blames (r.map f) := by
  rw [map_eq_bind]
  exact hr.bind fun a _ => .ok (f a)

theorem Blames.mapM {f : α → Result β} (l : List α) (hf : ∀ a, ds.Blames (f a)) :
    ds.Blames (l.mapM f) := by
  induction l with
  | nil => exact .ok []
  | cons a l ih =>
    rw [List.mapM_cons]
    exact (hf a).bind fun b _ => ih.bind fun bs _ => .ok (b :: bs)

theorem table_blames (name : String) : ds.Blames (ds.table name) := by
  intro e he hmalformed
  unfold table at he
  split at he
  · exact nomatch he
  · obtain rfl := Except.error.inj he
    exact nomatch hmalformed

theorem primaryOn_blames (r : Request) : ds.Blames (r.primaryOn ds) := by
  unfold Request.primaryOn
  split
  · intro e he hmalformed
    obtain rfl := Except.error.inj he
    exact nomatch hmalformed
  · exact table_blames r.primary

theorem targetOn_blames (r : Request) (s : Statement) : ds.Blames (s.targetOn r ds) := by
  cases s with
  | filter f => exact table_blames f.table
  | condition _ | identifier _ => exact primaryOn_blames r

/-- What binds on a table of the data set. -/
theorem remembering_blames {t : Table} (ht : t ∈ ds.tables) {binding : Table → Binding α}
    (h : t.Blames (binding t)) : ds.Blames (t.remembering binding).1 :=
  fun e he hmalformed => ⟨t, ht, (h t.bound trivial).1 e he hmalformed⟩

variable {clock : Clock} {r : Request} {tracking : Tracking}

theorem treeOn_blames (s : Statement) : ds.Blames (s.treeOn r ds) :=
  (targetOn_blames r s).bind fun (_, t) ht =>
    remembering_blames (Statement.mem_of_targetOn ht) (t.bindOn_blames r s)

theorem wantedColumn_blames {t : Table} (ht : t ∈ ds.tables) :
    ds.Blames (r.wantedColumn tracking t) := by
  unfold Request.wantedColumn
  split
  · exact (remembering_blames ht (t.idColumn_blames _)).map
  · exact .ok none

theorem rowsOn_blames (s : Statement) : ds.Blames (r.rowsOn clock tracking ds s) :=
  (targetOn_blames r s).bind fun (_, t) ht =>
    (remembering_blames (Statement.mem_of_targetOn ht) (t.bindOn_blames r s)).bind fun _ _ =>
      (wantedColumn_blames (Statement.mem_of_targetOn ht)).bind fun _ _ => .ok _

theorem identifierOn_blames (id : IdLiteral) :
    ds.Blames (r.identifierOn clock tracking ds id) := by
  have places : ds.Blames (r.placeOn clock ds id) :=
    (primaryOn_blames r).bind fun (_, t) ht =>
      (remembering_blames (Request.mem_of_primaryOn ht) (t.idColumn_blames _)).bind fun _ _ => .ok _
  unfold Request.identifierOn
  cases id with
  | guid g =>
    dsimp only
    split
    · exact places.map
    · exact .ok _
  | measurementKey _ | pointTag _ =>
    refine places.bind fun (k, t, place) hplace => ?_
    obtain ⟨-, hprimary, -⟩ := Request.placeOn_eq_ok.1 hplace
    cases place with
    | none => exact .ok _
    | some place =>
      exact (wantedColumn_blames (Request.mem_of_primaryOn hprimary)).bind fun _ _ => .ok _

theorem foundOn_blames : ∀ s : Statement, ds.Blames (r.foundOn clock tracking ds s)
  | .identifier id => identifierOn_blames id
  | .filter f => rowsOn_blames (.filter f)
  | .condition a => rowsOn_blames (.condition a)

end DataSet

/-- What is reported is the error that is returned, if this says that a text is malformed, and
nothing otherwise. -/
def Outcome.IsReported {α : Type} (o : Outcome α) : Prop :=
  o.reported =
    match o.result with
    | .ok _ => []
    | .error e => if e.isMalformed then [e] else []

/-- All malformed texts are reported but formulas of columns. -/
def Outcome.Reports {α : Type} (ds : DataSet) (o : Outcome α) : Prop :=
  o.IsReported ∨
    o.reported = [] ∧ ∃ e, o.result = .error e ∧ e.isMalformed = true ∧ ds.HasMalformed e

namespace Request

variable {r : Request} {ds : DataSet}

/-- The text of the filter is the one that is reported. -/
theorem withStatements_reports {α : Type} {action : List Statement → Planning α}
    (h : ∀ statements, Statement.listOfText r.filter = .ok statements →
      ds.Blames ((action statements).run ds).1) :
    (r.withStatements ds action).1.Reports ds := by
  unfold withStatements
  cases parsed : Statement.listOfText r.filter with
  | error e => exact .inl rfl
  | ok statements =>
    change Outcome.Reports ds ⟨[], ((action statements).run ds).1⟩
    have blames := h statements parsed
    cases hresult : ((action statements).run ds).1 with
    | ok a => exact .inl rfl
    | error e =>
      cases hmalformed : e.isMalformed with
      | false => exact .inl (by simp [Outcome.IsReported, hmalformed])
      | true => exact .inr ⟨rfl, e, rfl, hmalformed, blames e hresult hmalformed⟩

/-- **Malformed filters are reported.** Let the tables of a data set be reachable. A filter that is
run or bound reports the error that it returns, once and nothing else, if this says that a text is
malformed, and reports nothing if it returns something else. The one exception is the text of a
formula: if the formula of a computed column is malformed, this is returned without being
reported. -/
theorem reports (clock : Clock) (r : Request) (tracking : Tracking) {ds : DataSet}
    (reachable : ∀ t ∈ ds.tables, t.Reachable) :
    (r.select clock tracking ds).1.Reports ds ∧ (r.trees ds).1.Reports ds := by
  constructor
  · refine withStatements_reports fun statements _ => ?_
    change ds.Blames (r.run clock tracking ds statements)
    rw [run_eq_foundOn reachable]
    exact (DataSet.Blames.mapM statements DataSet.foundOn_blames).map
  · refine withStatements_reports fun statements parsed => ?_
    have result : ((statements.mapM (Statement.plan r)).run ds).1 =
        statements.mapM (Statement.treeOn r ds) := by
      have hrun := trees_eq reachable parsed
      unfold trees withStatements at hrun
      rw [parsed] at hrun
      exact hrun
    rw [result]
    exact DataSet.Blames.mapM statements DataSet.treeOn_blames

/-- A table with a formula that ends too early. -/
def unfinished : Table where
  name := "T"
  columns := [⟨"A", .int32, none⟩, ⟨"C", .int32, some "1 +"⟩]
  rows := [[.int32 1, .null .int32]]
  bound := []

/-- The data set of this table. -/
def unfinishedSet : DataSet := ⟨[unfinished]⟩

theorem unfinishedSet_reachable : unfinishedSet.Reachable := by
  have columns := Table.Reachable.empty "T"
    |>.change (.addColumn (c := ⟨"A", .int32, none⟩) rfl)
    |>.change (.addColumn (c := ⟨"C", .int32, some "1 +"⟩) rfl)
  have rows := columns
    |>.change (.addRow (show Table.addRow _ [.int32 1, .null .undefined] = .ok _ from rfl))
  exact DataSet.Reachable.empty.change (.addTable rows rfl)

/-- A filter by the column of the unfinished formula. -/
def byUnfinished : Request := { filter := "FILTER T WHERE C = 1" }

/-- That the formula is malformed is returned and not reported. -/
theorem byUnfinished_select :
    (byUnfinished.select ⟨default, default⟩ ⟨true, true⟩ unfinishedSet).1 =
      ⟨[], .error (.malformed (.unexpectedToken .expression .eof))⟩ := by cbv

theorem byUnfinished_not_isReported :
    ¬(byUnfinished.select ⟨default, default⟩ ⟨true, true⟩ unfinishedSet).1.IsReported := by
  rw [byUnfinished_select]
  exact fun h => nomatch (show [] = [_] from h)

/-- What is returned and not reported comes of the formula, as that a filter ends too early is
reported. -/
theorem byUnfinished_reports :
    (∀ t ∈ unfinishedSet.tables, t.Reachable) ∧
      unfinishedSet.HasMalformed (.malformed (.unexpectedToken .expression .eof)) ∧
      (Request.trees { filter := "FILTER T WHERE A =" } unfinishedSet).1.IsReported := by
  have reachable := unfinishedSet_reachable.tables
  refine ⟨reachable, ?_, ?_⟩
  · rcases (reports ⟨default, default⟩ byUnfinished ⟨true, true⟩ reachable).1 with h | h
    · exact absurd h byUnfinished_not_isReported
    · rw [byUnfinished_select] at h
      obtain ⟨-, e, he, -, hformula⟩ := h
      obtain rfl := Except.error.inj he
      exact hformula
  · have reported : (Request.trees { filter := "FILTER T WHERE A =" } unfinishedSet).1 =
        ⟨[.malformed (.unexpectedToken .expression .eof)],
          .error (.malformed (.unexpectedToken .expression .eof))⟩ := by cbv
    rw [reported]
    rfl

/-- Not all malformed texts are reported. -/
theorem not_isReported : ¬∀ (clock : Clock) (r : Request) (tracking : Tracking) (ds : DataSet),
    ds.Reachable → (r.select clock tracking ds).1.IsReported ∧ (r.trees ds).1.IsReported := by
  intro h
  exact byUnfinished_not_isReported (h _ byUnfinished _ unfinishedSet unfinishedSet_reachable).1

end Request

end TableFilter
