import TableFilter.Proofs.Selection.Gathered
import TableFilter.Selection

/-!
# Merging what statements find

A single statement adds what it finds as it comes. From the second statement on, only what is not
there already is added, and of that each only once.

What is added is kept apart here from what it is added to: adding one thing after the other is
adding all of it, and a run of statements adds all that they find.

## Main definitions

* `Found`: rows and ids in the order in which they are found
* `Selection.add`: a selection after all of these were added
* `Selection.IsConsistent`: rows and ids are merged from the second statement on, and the sets that
  tell what is there have the elements of the lists

## Main results

* `Selection.add_add`: adding one thing after the other
* `Selection.IsConsistent.beginStatement`, `Selection.IsConsistent.add`,
  `Selection.IsConsistent.addStatements`: the sets stay those of the lists through a run
* `Selection.empty_addStatements_rows`, `Selection.mem_empty_addStatements_ids`: what a run of
  statements adds
* `Selection.mem_idSet`, `Selection.length_idSet_eq_iff`: the set of ids against their list
-/

namespace TableFilter

/-! ### What is found -/

/-- Rows and signal ids in the order in which they are found. -/
structure Found where
  rows : List RowRef
  ids : List Guid

/-- All that is found, one thing after the other. -/
def Found.all (fs : List Found) : Found := ⟨fs.flatMap (·.rows), fs.flatMap (·.ids)⟩

namespace Selection

variable {s : Selection} {f g : Found} {fs : List Found}

/-- A selection after all that was found was added. -/
def add (s : Selection) (f : Found) : Selection :=
  { s with
    gatheredRows := s.gatheredRows.addAll f.rows
    gatheredIds := s.gatheredIds.addAll f.ids }

theorem addRow_eq_add {r : RowRef} : s.addRow r = s.add ⟨[r], []⟩ := rfl

theorem addId_eq_add {id : Guid} : s.addId id = s.add ⟨[], [id]⟩ := rfl

@[simp] theorem add_nothing : s.add ⟨[], []⟩ = s := rfl

theorem ite_addRow_eq_add {wanted : Bool} {row : RowRef} :
    (if wanted then s.addRow row else s) = s.add ⟨if wanted then [row] else [], []⟩ := by
  split <;> rfl

theorem ite_addId_eq_add {wanted : Bool} {id : Guid} :
    (if wanted then s.addId id else s) = s.add ⟨[], if wanted then [id] else []⟩ := by
  split <;> rfl

/-- Adding one thing after the other. -/
theorem add_add : (s.add f).add g = s.add ⟨f.rows ++ g.rows, f.ids ++ g.ids⟩ := by
  simp only [add, Gathered.addAll_append]

/-- Adding things in turn is adding all of them. -/
theorem foldl_add : fs.foldl add s = s.add (.all fs) := by
  induction fs generalizing s with
  | nil => exact add_nothing.symm
  | cons f fs ih => exact ih.trans add_add

/-! ### Merging from the second statement on -/

/-- Rows and ids are merged from the second statement on, and what tells that something is there
tells what is in the lists. -/
structure IsConsistent (s : Selection) : Prop where
  rows : s.gatheredRows.IsFaithful
  ids : s.gatheredIds.IsFaithful
  merging_rows : s.gatheredRows.present.isSome = decide (2 ≤ s.statements)
  merging_ids : s.gatheredIds.present.isSome = decide (2 ≤ s.statements)

theorem isConsistent_empty : empty.IsConsistent :=
  ⟨Gathered.isFaithful_empty, Gathered.isFaithful_empty, rfl, rfl⟩

@[simp] theorem beginStatement_rows : s.beginStatement.rows = s.rows := by
  unfold beginStatement
  dsimp only
  split <;> rfl

@[simp] theorem beginStatement_ids : s.beginStatement.ids = s.ids := by
  unfold beginStatement
  dsimp only
  split <;> rfl

@[simp] theorem beginStatement_statements : s.beginStatement.statements = s.statements + 1 := by
  unfold beginStatement
  dsimp only
  split <;> rfl

/-- The second statement makes the sets of the lists, and the others leave them as they are. -/
theorem IsConsistent.beginStatement (h : s.IsConsistent) : s.beginStatement.IsConsistent := by
  unfold Selection.beginStatement
  dsimp only
  split
  · next second =>
    have hsecond : s.statements + 1 = 2 := beq_iff_eq.1 second
    exact ⟨Gathered.isFaithful_merge, Gathered.isFaithful_merge, by simp [Gathered.merge, hsecond],
      by simp [Gathered.merge, hsecond]⟩
  · next other =>
    have hother : s.statements + 1 ≠ 2 := fun h => other (beq_iff_eq.2 h)
    have hmerging : decide (2 ≤ s.statements) = decide (2 ≤ s.statements + 1) := by
      rw [decide_eq_decide]
      omega
    exact ⟨h.rows, h.ids, h.merging_rows.trans hmerging, h.merging_ids.trans hmerging⟩

theorem IsConsistent.add (h : s.IsConsistent) (f : Found) : (s.add f).IsConsistent :=
  ⟨h.rows.addAll f.rows, h.ids.addAll f.ids, Gathered.isSome_addAll.trans h.merging_rows,
    Gathered.isSome_addAll.trans h.merging_ids⟩

theorem IsConsistent.add_rows (h : s.IsConsistent) :
    (s.add f).rows = addedTo (decide (2 ≤ s.statements)) s.rows f.rows :=
  h.merging_rows ▸ Gathered.list_addAll h.rows

theorem IsConsistent.add_ids (h : s.IsConsistent) :
    (s.add f).ids = addedTo (decide (2 ≤ s.statements)) s.ids f.ids :=
  h.merging_ids ▸ Gathered.list_addAll h.ids

/-! ### Statements in turn -/

/-- A selection after statements, each of which added what it found. -/
def addStatements (s : Selection) (fs : List Found) : Selection :=
  fs.foldl (fun s f => s.beginStatement.add f) s

/-- Whatever statements find, the sets have the elements of the lists. -/
theorem IsConsistent.addStatements (h : s.IsConsistent) (fs : List Found) :
    (s.addStatements fs).IsConsistent := by
  induction fs generalizing s with
  | nil => exact h
  | cons f fs ih => exact ih (h.beginStatement.add f)

/-- After a statement, others add what is not there already. -/
theorem IsConsistent.addStatements_of_begun (h : s.IsConsistent) (begun : 1 ≤ s.statements)
    (fs : List Found) :
    (s.addStatements fs).rows = addedTo true s.rows (Found.all fs).rows ∧
      (s.addStatements fs).ids = addedTo true s.ids (Found.all fs).ids := by
  induction fs generalizing s with
  | nil => exact ⟨addedTo_nil.symm, addedTo_nil.symm⟩
  | cons f fs ih =>
    have merging : decide (2 ≤ s.beginStatement.statements) = true := by simpa using begun
    have later : 1 ≤ (s.beginStatement.add f).statements :=
      beginStatement_statements.symm ▸ Nat.le_add_left 1 s.statements
    obtain ⟨hrows, hids⟩ := ih (h.beginStatement.add f) later
    rw [h.beginStatement.add_rows, merging, beginStatement_rows, addedTo_append] at hrows
    rw [h.beginStatement.add_ids, merging, beginStatement_ids, addedTo_append] at hids
    exact ⟨hrows, hids⟩

/-- What a statement alone finds. -/
def ofFound (f : Found) : Selection := empty.beginStatement.add f

theorem isConsistent_ofFound (f : Found) : (ofFound f).IsConsistent :=
  isConsistent_empty.beginStatement.add f

@[simp] theorem rows_ofFound : (ofFound f).rows = f.rows :=
  isConsistent_empty.beginStatement.add_rows

@[simp] theorem ids_ofFound : (ofFound f).ids = f.ids :=
  isConsistent_empty.beginStatement.add_ids

theorem isConsistent_empty_addStatements (fs : List Found) :
    (empty.addStatements fs).IsConsistent :=
  isConsistent_empty.addStatements fs

/-- What the first statement finds stays as it is found, the others add to it what is new. -/
theorem empty_addStatements_cons :
    (empty.addStatements (f :: fs)).rows = addedTo true f.rows (Found.all fs).rows ∧
      (empty.addStatements (f :: fs)).ids = addedTo true f.ids (Found.all fs).ids := by
  have first := (isConsistent_ofFound f).addStatements_of_begun (Nat.le_refl 1) fs
  rwa [rows_ofFound, ids_ofFound] at first

/-- Rows that no statement repeats are left out where an earlier statement found them. -/
theorem empty_addStatements_rows (nodup : ∀ f ∈ fs, f.rows.Nodup) :
    (empty.addStatements fs).rows = (fs.flatMap (·.rows)).eraseDups := by
  cases fs with
  | nil => rfl
  | cons f fs =>
    rw [empty_addStatements_cons.1, List.flatMap_cons]
    exact addedTo_true_of_nodup (nodup f (List.mem_cons_self ..))

theorem mem_empty_addStatements_ids {id : Guid} :
    id ∈ (empty.addStatements fs).ids ↔ ∃ f ∈ fs, id ∈ f.ids := by
  cases fs with
  | nil => simp [addStatements, empty, ids, Gathered.empty]
  | cons f fs => simp [empty_addStatements_cons.2, mem_addedTo_true, Found.all]

/-! ### Ids as a set -/

theorem mem_idSet (h : s.IsConsistent) {id : Guid} : id ∈ s.idSet ↔ id ∈ s.ids := by
  rw [idSet, List.mem_mergeSort]
  exact Gathered.mem_members_iff h.ids

/-- The list of ids has the length of their set exactly if no id repeats. -/
theorem length_idSet_eq_iff (h : s.IsConsistent) : s.ids.length = s.idSet.length ↔ s.ids.Nodup := by
  rw [idSet, List.length_mergeSort, Gathered.length_members_eq h.ids, eq_comm]
  exact length_eraseDups_eq_iff

end Selection

end TableFilter
