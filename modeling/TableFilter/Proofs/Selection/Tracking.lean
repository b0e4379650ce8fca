import TableFilter.Proofs.Selection.Filters

/-!
# Rows and ids are tracked apart

What is wanted of a selection decides which columns are looked up, and so which errors can occur.
Still rows and ids do not influence each other: a selection of both splits into one of the rows and
one of the ids. It succeeds exactly if these two do, and they give its parts.

## Main definitions

* `Splits`: a result splits into two, which give its parts

## Main results

* `Splits.bind`, `Splits.mapM`: splitting goes through sequences
* `Request.foundOn_splits`: what a statement finds splits
* `Request.run_splits`: what a filter selects splits
-/

namespace TableFilter

open Result

/-! ### Results that split -/

/-- A result succeeds exactly if two others do, and these then give its parts. -/
inductive Splits {α β γ : Type} (first : α → β) (second : α → γ) :
    Result α → Result β → Result γ → Prop
  | ok (a : α) : Splits first second (.ok a) (.ok (first a)) (.ok (second a))
  | firstFails (e e' : Error) (r : Result γ) : Splits first second (.error e) (.error e') r
  | secondFails (e e' : Error) (r : Result β) : Splits first second (.error e) r (.error e')

namespace Splits

variable {α β γ δ α' β' γ' : Type} {first : α → β} {second : α → γ} {first' : α' → β'}
  {second' : α' → γ'} {both : Result α} {one : Result β} {other : Result γ}

/-- Something that is common to all three. -/
theorem common (r : Result α) : Splits id id r r r := by
  cases r with
  | error e => exact .firstFails e e _
  | ok a => exact .ok a

theorem bind {f : α → Result α'} {g : β → Result β'} {h : γ → Result γ'}
    (splits : Splits first second both one other)
    (rest : ∀ a, Splits first' second' (f a) (g (first a)) (h (second a))) :
    Splits first' second' (both >>= f) (one >>= g) (other >>= h) := by
  cases splits with
  | ok a => exact rest a
  | firstFails e e' => exact .firstFails e e' _
  | secondFails e e' => exact .secondFails e e' _

/-- Results of several elements split if those of each do. -/
theorem mapM {f : δ → Result α} {g : δ → Result β} {h : δ → Result γ} (l : List δ)
    (splits : ∀ d, Splits first second (f d) (g d) (h d)) :
    Splits (List.map first) (List.map second) (l.mapM f) (l.mapM g) (l.mapM h) := by
  induction l with
  | nil => exact .ok []
  | cons d l ih =>
    simp only [List.mapM_cons]
    exact (splits d).bind fun a => ih.bind fun as => .ok (a :: as)

theorem exists_ok_iff (h : Splits first second both one other) :
    (∃ a, both = .ok a) ↔ (∃ b, one = .ok b) ∧ ∃ c, other = .ok c := by
  cases h <;> simp

theorem parts (h : Splits first second both one other) {a : α} (ha : both = .ok a) :
    one = .ok (first a) ∧ other = .ok (second a) := by
  cases h with
  | ok b => exact Except.ok.inj ha ▸ ⟨rfl, rfl⟩
  | firstFails | secondFails => exact nomatch ha

end Splits

/-! ### What statements find -/

/-- The rows of what is found, without ids. -/
def Found.onlyRows (f : Found) : Found := ⟨f.rows, []⟩

/-- The ids of what is found, without rows. -/
def Found.onlyIds (f : Found) : Found := ⟨[], f.ids⟩

variable {clock : Clock} {r : Request} {ds : DataSet}

theorem Found.onlyRows_all (fs : List Found) : (all fs).onlyRows = all (fs.map onlyRows) := by
  simp [all, onlyRows, List.flatMap_map]

theorem Found.onlyIds_all (fs : List Found) : (all fs).onlyIds = all (fs.map onlyIds) := by
  simp [all, onlyIds, List.flatMap_map]

section Table

variable {k : Nat} {c : BoundColumn} {rows : List Row}

theorem onlyRows_foundOn (place : Nat) :
    (foundOn clock ⟨true, true⟩ k (some c) rows place).onlyRows =
      foundOn clock ⟨true, false⟩ k none rows place := rfl

theorem onlyIds_foundOn (place : Nat) :
    (foundOn clock ⟨true, true⟩ k (some c) rows place).onlyIds =
      foundOn clock ⟨false, true⟩ k (some c) rows place := rfl

end Table

namespace Request

/-- The column of signal ids is looked up for the ids alone. -/
theorem wantedColumn_splits {t : Table} {both onlyRows onlyIds : Option BoundColumn → Found}
    (hrows : ∀ c, onlyRows none = (both (some c)).onlyRows)
    (hids : ∀ c, onlyIds (some c) = (both (some c)).onlyIds) :
    Splits Found.onlyRows Found.onlyIds
      (r.wantedColumn ⟨true, true⟩ t >>= fun c => .ok (both c))
      (r.wantedColumn ⟨true, false⟩ t >>= fun c => .ok (onlyRows c))
      (r.wantedColumn ⟨false, true⟩ t >>= fun c => .ok (onlyIds c)) := by
  change Splits _ _ ((t.remembering (·.idColumn r.idFields.signalId)).1.map some >>= _)
    (.ok none >>= _) ((t.remembering (·.idColumn r.idFields.signalId)).1.map some >>= _)
  cases (t.remembering (·.idColumn r.idFields.signalId)).1 with
  | error e => exact .secondFails e e _
  | ok c =>
    simp only [map_ok, ok_bind]
    rw [hrows c, hids c]
    exact .ok (both (some c))

theorem rowsOn_splits (s : Statement) :
    Splits Found.onlyRows Found.onlyIds (r.rowsOn clock ⟨true, true⟩ ds s)
      (r.rowsOn clock ⟨true, false⟩ ds s) (r.rowsOn clock ⟨false, true⟩ ds s) := by
  refine (Splits.common _).bind fun (k, t) => (Splits.common _).bind fun tree =>
    wantedColumn_splits ?_ ?_
  · intro c
    rw [Found.onlyRows_all, List.map_map]
    exact congrArg Found.all (List.map_congr_left fun place _ => (onlyRows_foundOn place).symm)
  · intro c
    rw [Found.onlyIds_all, List.map_map]
    exact congrArg Found.all (List.map_congr_left fun place _ => (onlyIds_foundOn place).symm)

theorem identifierOn_splits (id : IdLiteral) :
    Splits Found.onlyRows Found.onlyIds (r.identifierOn clock ⟨true, true⟩ ds id)
      (r.identifierOn clock ⟨true, false⟩ ds id) (r.identifierOn clock ⟨false, true⟩ ds id) := by
  cases id with
  | guid g =>
    -- The ids need no row here, so only the rows can fail.
    change Splits _ _ ((r.placeOn clock ds (.guid g)).map _)
      ((r.placeOn clock ds (.guid g)).map _) (.ok (Found.mk [] [g]))
    cases r.placeOn clock ds (.guid g) with
    | error e => exact .firstFails e e _
    | ok found => exact .ok (Found.mk (found.2.2.map (RowRef.mk found.1)).toList [g])
  | measurementKey _ | pointTag _ =>
    refine (Splits.common _).bind fun (k, t, place) => ?_
    cases place with
    | none => exact .ok (Found.mk [] [])
    | some place =>
      exact wantedColumn_splits (fun c => (onlyRows_foundOn place).symm) fun c =>
        (onlyIds_foundOn place).symm

/-- What a statement finds splits into its rows and its ids. -/
theorem foundOn_splits : ∀ s : Statement,
    Splits Found.onlyRows Found.onlyIds (r.foundOn clock ⟨true, true⟩ ds s)
      (r.foundOn clock ⟨true, false⟩ ds s) (r.foundOn clock ⟨false, true⟩ ds s)
  | .identifier id => identifierOn_splits id
  | .filter f => rowsOn_splits (.filter f)
  | .condition term => rowsOn_splits (.condition term)

end Request

/-! ### What filters select -/

namespace Selection

theorem rows_addStatements_onlyRows (fs : List Found) :
    (empty.addStatements (fs.map Found.onlyRows)).rows = (empty.addStatements fs).rows := by
  cases fs with
  | nil => rfl
  | cons f fs =>
    simp [empty_addStatements_cons.1, Found.all, Found.onlyRows, List.flatMap_map]

theorem ids_addStatements_onlyIds (fs : List Found) :
    (empty.addStatements (fs.map Found.onlyIds)).ids = (empty.addStatements fs).ids := by
  cases fs with
  | nil => rfl
  | cons f fs =>
    simp [empty_addStatements_cons.2, Found.all, Found.onlyIds, List.flatMap_map]

end Selection

namespace Request

variable {ds₁ ds₂ : DataSet}

/-- What the statements of a filter select splits, since what each of them finds does. -/
theorem run_splits (reachable : ∀ t ∈ ds.tables, t.Reachable) (statements : List Statement) :
    Splits Selection.rows Selection.ids (r.run clock ⟨true, true⟩ ds statements)
      ((r.run clock ⟨true, false⟩ ds statements).map (·.rows))
      ((r.run clock ⟨false, true⟩ ds statements).map (·.ids)) := by
  simp only [run_eq_foundOn reachable, map_eq_bind, bind_assoc, ok_bind]
  refine (Splits.mapM statements foundOn_splits).bind fun fs => ?_
  rw [Selection.rows_addStatements_onlyRows, Selection.ids_addStatements_onlyIds]
  exact .ok (Selection.empty.addStatements fs)

/-- **Rows and ids do not influence each other.** Let the tables of a data set be reachable, and let
two others differ from it in what is remembered only, as the data set itself does and those that
selections leave. A filter selects rows together with ids exactly if it selects rows alone and ids
alone, and these are then the same rows and the same ids in the same order. -/
theorem select_apart (clock : Clock) (r : Request) {ds ds₁ ds₂ : DataSet}
    (reachable : ∀ t ∈ ds.tables, t.Reachable) (like₁ : ds₁.IsLike ds) (like₂ : ds₂.IsLike ds) :
    ((∃ s, (r.select clock ⟨true, true⟩ ds).1.result = .ok s) ↔
      (∃ rows, (r.selectRows clock ds₁).1 = .ok rows) ∧
        ∃ ids, (r.selectIds clock ds₂).1 = .ok ids) ∧
    ∀ s, (r.select clock ⟨true, true⟩ ds).1.result = .ok s →
      (r.selectRows clock ds₁).1 = .ok s.rows ∧ (r.selectIds clock ds₂).1 = .ok s.ids := by
  have splits : Splits Selection.rows Selection.ids (r.select clock ⟨true, true⟩ ds).1.result
      (r.selectRows clock ds₁).1 (r.selectIds clock ds₂).1 := by
    change Splits _ _ _ ((r.select clock ⟨true, false⟩ ds₁).1.result.map (·.rows))
      ((r.select clock ⟨false, true⟩ ds₂).1.result.map (·.ids))
    rw [select_eq_of_isLike reachable like₁, select_eq_of_isLike reachable like₂]
    cases parsed : Statement.listOfText r.filter with
    | error e =>
      have fails (tracking : Tracking) : (r.select clock tracking ds).1.result = .error e := by
        unfold select withStatements
        rw [parsed]
      rw [fails, fails, fails]
      exact .firstFails e e _
    | ok statements =>
      simp only [select_eq_run r parsed]
      exact run_splits reachable statements
  exact ⟨splits.exists_ok_iff, fun s hs => splits.parts hs⟩

/-- After a selection of both, the rows and the ids of a filter of two statements are selected alone
as they were together. -/
theorem allTwice_select_apart :
    let after := (allTwice.select ⟨default, default⟩ ⟨true, true⟩ repeatingSet).2
    (∀ t ∈ repeatingSet.tables, t.Reachable) ∧ after.IsLike repeatingSet ∧
      ∃ s, (allTwice.select ⟨default, default⟩ ⟨true, true⟩ repeatingSet).1.result = .ok s ∧
        (allTwice.selectRows ⟨default, default⟩ after).1 = .ok s.rows ∧ s.rows = [⟨0, 0⟩, ⟨0, 1⟩] ∧
        (allTwice.selectIds ⟨default, default⟩ after).1 = .ok s.ids ∧
        s.ids = [repeatedId, repeatedId] := by
  have reachable := repeatingSet_reachable.tables
  have like :
      (allTwice.select ⟨default, default⟩ ⟨true, true⟩ repeatingSet).2.IsLike repeatingSet :=
    select_isLike reachable
  have both : (allTwice.select ⟨default, default⟩ ⟨true, true⟩ repeatingSet).1.result =
      .ok ⟨⟨[⟨0, 0⟩, ⟨0, 1⟩], some (.ofList [⟨0, 0⟩, ⟨0, 1⟩])⟩,
        ⟨[repeatedId, repeatedId], some (.ofList [repeatedId])⟩, 2⟩ := by
    have hrun : allTwice.run ⟨default, default⟩ ⟨true, true⟩ repeatingSet allTwiceStatements =
        .ok ⟨⟨[⟨0, 0⟩, ⟨0, 1⟩], some (.ofList [⟨0, 0⟩, ⟨0, 1⟩])⟩,
          ⟨[repeatedId, repeatedId], some (.ofList [repeatedId])⟩, 2⟩ := by decide +kernel
    exact (select_eq_run allTwice allTwice_parsed).trans hrun
  obtain ⟨hrows, hids⟩ := (select_apart ⟨default, default⟩ allTwice reachable like like).2 _ both
  exact ⟨reachable, like, _, both, hrows, rfl, hids, rfl⟩

end Request

end TableFilter
