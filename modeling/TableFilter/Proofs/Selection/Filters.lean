import TableFilter.Proofs.Selection.Finding

/-!
# Whole filters

The statements of a filter select what each of them selects alone: rows and ids that an earlier
statement selected are not selected again, and an error of the first statement that fails is the
error of the filter.

No row is ever selected twice. Ids can be: what the first statement selects is kept as it comes, and
so are ids in it that repeat.

## Main definitions

* `Request.run`: what a list of statements selects

## Main results

* `Request.run_eq`, `Request.run_eq_foundOn`: the statements add what each finds on the data set as
  it is at the start
* `Request.select_isLike`, `Request.select_eq_of_isLike`: a selection leaves the data set like it
  was, and what is remembered makes no difference to it
* `Request.run_merges`: statements select what each of them selects alone
* `Request.selectIds_nodup_iff`: when the ids that a filter selects are different
-/

namespace TableFilter

open Result

namespace Request

/-- What statements select, one after the other. -/
def run (clock : Clock) (r : Request) (tracking : Tracking) (ds : DataSet)
    (statements : List Statement) : Result Selection :=
  ((statements.foldlM (selectStatement clock r tracking) .empty).run ds).1

/-- What a statement finds on a data set as it is. -/
def found (clock : Clock) (r : Request) (tracking : Tracking) (ds : DataSet)
    (statement : Statement) : Result Found :=
  ((statement.found clock r tracking).run ds).1

variable {clock : Clock} {r : Request} {tracking : Tracking} {ds : DataSet}
  {statements : List Statement}

/-- The statements of a filter are run one after the other. -/
theorem select_eq_run (r : Request) (parsed : Statement.listOfText r.filter = .ok statements) :
    (r.select clock tracking ds).1.result = r.run clock tracking ds statements := by
  unfold select withStatements
  rw [parsed]
  rfl

/-- Statements that were read do not depend on the text of the filter. -/
theorem run_eq_run {r' : Request} (hprimary : r'.primary = r.primary)
    (hidFields : r'.idFields = r.idFields) :
    r'.run clock tracking ds statements = r.run clock tracking ds statements := by
  obtain ⟨text, primary, idFields⟩ := r
  obtain ⟨text', primary', idFields'⟩ := r'
  obtain rfl : primary' = primary := hprimary
  obtain rfl : idFields' = idFields := hidFields
  rfl

theorem found_rows_nodup {fs : List Found}
    (h : statements.mapM (r.found clock tracking ds) = .ok fs) : ∀ f ∈ fs, f.rows.Nodup := by
  intro f hf
  obtain ⟨statement, -, hfound⟩ := (mem_of_mapM_eq_ok h).1 hf
  exact found_nodup statement ds f hfound

/-! ### Running statements -/

section Run

variable (reachable : ∀ t ∈ ds.tables, t.Reachable)

include reachable

/-- What a statement finds when it is run is what it finds without remembering. -/
theorem found_eq (statement : Statement) :
    r.found clock tracking ds statement = r.foundOn clock tracking ds statement :=
  (found_eq_foundOn reachable statement ds ⟨rfl, reachable⟩).1

/-- A statement adds what it finds on a data set as it is at the start, on all those like it. -/
theorem selectStatement_maintains (s : Selection) (statement : Statement) :
    Maintains (fun ds' => ds'.IsLike ds) (selectStatement clock r tracking s statement)
      (· = (r.found clock tracking ds statement).map s.beginStatement.add) := by
  rw [selectStatement_eq, map_eq_bind, found_eq reachable]
  exact (found_eq_foundOn reachable statement).bind_eq fun f _ => .pure rfl

theorem foldlM_maintains (s : Selection) :
    Maintains (fun ds' => ds'.IsLike ds) (statements.foldlM (selectStatement clock r tracking) s)
      (· = (statements.mapM (r.found clock tracking ds)).map s.addStatements) := by
  -- By induction on the statements: the data set stays like it was for those that follow.
  induction statements generalizing s with
  | nil => exact .pure rfl
  | cons statement statements ih =>
    rw [List.foldlM_cons, List.mapM_cons]
    refine ((selectStatement_maintains reachable s statement).bind_eq fun s' _ => ih s').mono ?_
    rintro _ rfl
    cases r.found clock tracking ds statement <;>
      cases statements.mapM (r.found clock tracking ds) <;> rfl

/-- Statements add what each of them finds on the data set as it is at the start. -/
theorem run_eq : r.run clock tracking ds statements =
    (statements.mapM (r.found clock tracking ds)).map Selection.empty.addStatements :=
  (foldlM_maintains reachable .empty ds ⟨rfl, reachable⟩).1

/-- Statements add what each of them finds without remembering. -/
theorem run_eq_foundOn (statements : List Statement) :
    r.run clock tracking ds statements =
      (statements.mapM (r.foundOn clock tracking ds)).map Selection.empty.addStatements := by
  rw [run_eq reachable, funext (found_eq reachable)]

/-- A statement alone selects what it finds. -/
theorem run_singleton (statement : Statement) :
    r.run clock tracking ds [statement] =
      (r.found clock tracking ds statement).map Selection.ofFound := by
  rw [run_eq reachable, List.mapM_cons]
  cases r.found clock tracking ds statement <;> rfl

/-- A row or an id is selected exactly if one of the statements finds it. -/
theorem mem_of_run_eq_ok {all : Selection}
    (h : r.run clock tracking ds statements = .ok all) :
    (∀ row, row ∈ all.rows ↔
      ∃ s ∈ statements, ∃ f, r.found clock tracking ds s = .ok f ∧ row ∈ f.rows) ∧
    ∀ id, id ∈ all.idSet ↔
      ∃ s ∈ statements, ∃ f, r.found clock tracking ds s = .ok f ∧ id ∈ f.ids := by
  rw [run_eq reachable] at h
  obtain ⟨fs, hfs, rfl⟩ := map_eq_ok.1 h
  constructor
  · intro row
    rw [Selection.empty_addStatements_rows (found_rows_nodup hfs)]
    simp only [List.mem_eraseDups, List.mem_flatMap, mem_of_mapM_eq_ok hfs]
    grind
  · intro id
    rw [Selection.mem_idSet (Selection.isConsistent_empty_addStatements fs),
      Selection.mem_empty_addStatements_ids]
    simp only [mem_of_mapM_eq_ok hfs]
    grind

/-- Statements succeed exactly if each of them does. -/
theorem exists_run_eq_ok :
    (∃ all, r.run clock tracking ds statements = .ok all) ↔
      ∀ s ∈ statements, ∃ f, r.found clock tracking ds s = .ok f := by
  rw [run_eq reachable, ← exists_mapM_eq_ok]
  cases statements.mapM (r.found clock tracking ds) <;> simp [Except.map]

/-- In another order statements select the same rows and ids, or fail as well. -/
theorem run_perm {others : List Statement} (perm : statements.Perm others) :
    match r.run clock tracking ds statements, r.run clock tracking ds others with
    | .ok all, .ok all' =>
      (∀ row, row ∈ all.rows ↔ row ∈ all'.rows) ∧ ∀ id, id ∈ all.idSet ↔ id ∈ all'.idSet
    | .error _, .error _ => True
    | _, _ => False := by
  have succeed : (∃ all, r.run clock tracking ds statements = .ok all) ↔
      ∃ all, r.run clock tracking ds others = .ok all := by
    simp only [exists_run_eq_ok reachable, perm.mem_iff]
  cases hall : r.run clock tracking ds statements with
  | error e =>
    cases hall' : r.run clock tracking ds others with
    | error e' => trivial
    | ok all' => simp [hall, hall'] at succeed
  | ok all =>
    cases hall' : r.run clock tracking ds others with
    | error e' => simp [hall, hall'] at succeed
    | ok all' =>
      obtain ⟨hrows, hids⟩ := mem_of_run_eq_ok reachable hall
      obtain ⟨hrows', hids'⟩ := mem_of_run_eq_ok reachable hall'
      refine ⟨fun row => ?_, fun id => ?_⟩
      · simp only [hrows, hrows', perm.mem_iff]
      · simp only [hids, hids', perm.mem_iff]

/-- A selection leaves the data set like it was. -/
theorem select_isLike : (r.select clock tracking ds).2.IsLike ds := by
  unfold select withStatements
  split
  · exact ⟨rfl, reachable⟩
  · exact (foldlM_maintains reachable .empty ds ⟨rfl, reachable⟩).2

/-- On data sets that differ in what is remembered only, a filter selects the same. -/
theorem select_eq_of_isLike {ds' : DataSet} (like : ds'.IsLike ds) :
    (r.select clock tracking ds').1.result = (r.select clock tracking ds).1.result := by
  cases parsed : Statement.listOfText r.filter with
  | error e =>
    unfold select withStatements
    rw [parsed]
  | ok statements =>
    rw [select_eq_run r parsed, select_eq_run r parsed]
    exact (foldlM_maintains reachable .empty ds' like).1.trans (run_eq reachable).symm

end Run

/-- **Statements run independently and merge.** Let the tables of a data set be reachable, as they
are if the data set is, whatever was selected from it before. If a statement fails alone, the error
of the first that does is the error of all. Or else all succeed, and select the rows that the single
statements select, each where it comes first, and the ids that any of them selects. The set of the
ids, which is kept beside their list from the second statement on, has the ids of the list. In any
other order the statements select the same rows and ids, or fail as well. -/
theorem run_merges (clock : Clock) (r : Request) (tracking : Tracking) {ds : DataSet}
    (reachable : ∀ t ∈ ds.tables, t.Reachable) (statements : List Statement) :
    (∀ r' : Request, r'.primary = r.primary → r'.idFields = r.idFields →
      Statement.listOfText r'.filter = .ok statements →
        (r'.select clock tracking ds).1.result = r.run clock tracking ds statements) ∧
    (match statements.mapM fun s => r.run clock tracking ds [s] with
      | .error e => r.run clock tracking ds statements = .error e
      | .ok alone => ∃ all, r.run clock tracking ds statements = .ok all ∧
          all.rows = (alone.flatMap (·.rows)).eraseDups ∧
          (∀ id, id ∈ all.idSet ↔ ∃ own ∈ alone, id ∈ own.idSet) ∧
          ∀ id, id ∈ all.idSet ↔ id ∈ all.ids) ∧
    ∀ others, statements.Perm others →
      match r.run clock tracking ds statements, r.run clock tracking ds others with
      | .ok all, .ok all' =>
        (∀ row, row ∈ all.rows ↔ row ∈ all'.rows) ∧ ∀ id, id ∈ all.idSet ↔ id ∈ all'.idSet
      | .error _, .error _ => True
      | _, _ => False := by
  refine ⟨fun r' hprimary hidFields parsed => ?_, ?_, fun others perm => ?_⟩
  · rw [select_eq_run r' parsed, run_eq_run hprimary hidFields]
  · rw [funext (run_singleton reachable), mapM_map, run_eq reachable]
    cases hfs : statements.mapM (r.found clock tracking ds) with
    | error e => rfl
    | ok fs =>
      have consistent := Selection.isConsistent_empty_addStatements fs
      refine ⟨_, rfl, ?_, fun id => ?_, fun id => Selection.mem_idSet consistent⟩
      · simp only [Selection.empty_addStatements_rows (found_rows_nodup hfs), List.flatMap_map,
          Selection.rows_ofFound]
      · simp [Selection.mem_idSet, consistent, Selection.isConsistent_ofFound,
          Selection.mem_empty_addStatements_ids]
  · exact run_perm reachable perm

/-! ### Ids that repeat -/

/-- An id that two rows of a table carry. -/
def repeatedId : Guid := ⟨0x0f9c3a4b111122223333444455556666⟩

/-- A table with an id in both of its rows. -/
def repeating : Table where
  name := "T"
  columns := [⟨"SignalID", .guid, none⟩]
  rows := [[.guid repeatedId], [.guid repeatedId]]
  bound := []

/-- The data set of this table. -/
def repeatingSet : DataSet := ⟨[repeating]⟩

theorem repeatingSet_reachable : repeatingSet.Reachable := by
  have columns := Table.Reachable.empty "T"
    |>.change (.addColumn (c := ⟨"SignalID", .guid, none⟩) rfl)
  have rows := columns
    |>.change (.addRow (show Table.addRow _ [.guid repeatedId] = .ok _ from rfl))
    |>.change (.addRow (show Table.addRow _ [.guid repeatedId] = .ok _ from rfl))
  exact DataSet.Reachable.empty.change (.addTable rows rfl)

/-- A filter of two statements, each of which selects all rows. -/
def allTwice : Request := { filter := "True; True", primary := "T" }

/-- The two statements. -/
def allTwiceStatements : List Statement :=
  [.condition (.literal (.boolean true)), .condition (.literal (.boolean true))]

theorem allTwice_parsed : Statement.listOfText allTwice.filter = .ok allTwiceStatements := by cbv

/-- The ids that the two statements select repeat. -/
theorem allTwice_select :
    (allTwice.select ⟨default, default⟩ ⟨false, true⟩ repeatingSet).1.result =
      .ok ⟨⟨[], some .empty⟩, ⟨[repeatedId, repeatedId], some (.ofList [repeatedId])⟩, 2⟩ := by
  have hrun : allTwice.run ⟨default, default⟩ ⟨false, true⟩ repeatingSet allTwiceStatements =
      .ok ⟨⟨[], some .empty⟩, ⟨[repeatedId, repeatedId], some (.ofList [repeatedId])⟩, 2⟩ := by
    decide +kernel
  rw [select_eq_run allTwice allTwice_parsed]
  exact hrun

/-- The two statements select both rows once, and the one id. -/
theorem allTwice_run_merges : (∀ t ∈ repeatingSet.tables, t.Reachable) ∧
    ∃ all, (allTwice.select ⟨default, default⟩ ⟨true, true⟩ repeatingSet).1.result = .ok all ∧
      all.rows = [⟨0, 0⟩, ⟨0, 1⟩] ∧ ∀ id, id ∈ all.idSet ↔ id = repeatedId := by
  obtain ⟨hselect, hmerge, -⟩ := run_merges ⟨default, default⟩ allTwice ⟨true, true⟩
    repeatingSet_reachable.tables allTwiceStatements
  have alone : (allTwiceStatements.mapM fun s =>
      allTwice.run ⟨default, default⟩ ⟨true, true⟩ repeatingSet [s]) =
        .ok [.ofFound ⟨[⟨0, 0⟩, ⟨0, 1⟩], [repeatedId, repeatedId]⟩,
          .ofFound ⟨[⟨0, 0⟩, ⟨0, 1⟩], [repeatedId, repeatedId]⟩] := by decide +kernel
  rw [alone] at hmerge
  obtain ⟨all, hall, hrows, hids, -⟩ := hmerge
  refine ⟨repeatingSet_reachable.tables, all, (hselect allTwice rfl rfl allTwice_parsed).trans hall,
    hrows.trans (by decide), fun id => ?_⟩
  simp [hids, Selection.mem_idSet, Selection.isConsistent_ofFound]

/-- **Ids repeat as in the first statement.** The ids that a filter selects are different, and as
many as their set holds, exactly if those that its first statement alone selects are different. -/
theorem selectIds_nodup_iff (clock : Clock) (r : Request) {ds : DataSet}
    (reachable : ∀ t ∈ ds.tables, t.Reachable) {first : Statement} {rest : List Statement}
    (parsed : Statement.listOfText r.filter = .ok (first :: rest)) {s : Selection}
    (h : (r.select clock ⟨false, true⟩ ds).1.result = .ok s) :
    (r.selectIds clock ds).1 = .ok s.ids ∧
      ∃ own, r.run clock ⟨false, true⟩ ds [first] = .ok own ∧ own.ids <+: s.ids ∧
        (s.ids.Nodup ↔ own.ids.Nodup) ∧ (s.ids.length = s.idSet.length ↔ own.ids.Nodup) := by
  refine ⟨map_eq_ok.2 ⟨s, h, rfl⟩, ?_⟩
  have hrun : r.run clock ⟨false, true⟩ ds (first :: rest) = .ok s :=
    (select_eq_run r parsed).symm.trans h
  rw [run_eq reachable] at hrun
  obtain ⟨fs, hfs, rfl⟩ := map_eq_ok.1 hrun
  rw [List.mapM_cons] at hfs
  obtain ⟨f, hf, hmore⟩ := bind_eq_ok.1 hfs
  obtain ⟨fs, -, heq⟩ := bind_eq_ok.1 hmore
  obtain rfl := Except.ok.inj heq
  refine ⟨.ofFound f, by rw [run_singleton reachable, hf]; rfl, ?_⟩
  rw [Selection.length_idSet_eq_iff (Selection.isConsistent_empty_addStatements (f :: fs)),
    Selection.empty_addStatements_cons.2, nodup_addedTo_true, Selection.ids_ofFound]
  exact ⟨List.prefix_append _ _, Iff.rfl, Iff.rfl⟩

/-- The one id is selected twice, as the first statement alone selects it. -/
theorem allTwice_nodup_iff :
    (∀ t ∈ repeatingSet.tables, t.Reachable) ∧
    Statement.listOfText allTwice.filter = .ok allTwiceStatements ∧
    ∃ s, (allTwice.select ⟨default, default⟩ ⟨false, true⟩ repeatingSet).1.result = .ok s ∧
      ¬s.ids.Nodup ∧
      ∃ own, allTwice.run ⟨default, default⟩ ⟨false, true⟩ repeatingSet
          [.condition (.literal (.boolean true))] = .ok own ∧ ¬own.ids.Nodup := by
  have repeats : ¬[repeatedId, repeatedId].Nodup := by simp
  obtain ⟨-, own, hown, -, hiff, -⟩ := selectIds_nodup_iff ⟨default, default⟩ allTwice
    repeatingSet_reachable.tables allTwice_parsed allTwice_select
  exact ⟨repeatingSet_reachable.tables, allTwice_parsed, _, allTwice_select, repeats, own, hown,
    fun h => repeats (hiff.2 h)⟩

/-- Not every filter of two statements selects different ids, or as many as their set holds. -/
theorem not_selectIds_nodup : ¬∀ (clock : Clock) (r : Request) (ds : DataSet)
    (statements : List Statement) (s : Selection), ds.Reachable →
      Statement.listOfText r.filter = .ok statements → 2 ≤ statements.length →
      (r.select clock ⟨false, true⟩ ds).1.result = .ok s →
      s.ids.Nodup ∧ s.ids.length = s.idSet.length := by
  intro h
  have hnodup : [repeatedId, repeatedId].Nodup :=
    (h _ _ _ _ _ repeatingSet_reachable allTwice_parsed (Nat.le_refl 2) allTwice_select).1
  simp at hnodup

end Request

end TableFilter
