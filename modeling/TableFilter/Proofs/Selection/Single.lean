import TableFilter.Proofs.Selection.Filters

/-!
# Single statements

What a statement on a table selects that is run alone: it is bound on its table and run on the rows
that the table has.

## Main results

* `Request.found_rows`, `Request.selectRows_eq`: the rows that a statement on a table finds, and
  that a filter of one such statement selects
-/

namespace TableFilter

open Result

variable {clock : Clock} {r : Request} {ds : DataSet} {k : Nat} {t : Table}

/-- If only rows are wanted, just the rows that a statement selects are found. -/
theorem all_foundOn (clock : Clock) (k : Nat) (rows : List Row) (places : List Nat) :
    Found.all (places.map (foundOn clock ⟨true, false⟩ k none rows)) =
      ⟨places.map (RowRef.mk k), []⟩ := by
  have hrows : (Found.all (places.map (foundOn clock ⟨true, false⟩ k none rows))).rows =
      places.map (RowRef.mk k) := rows_all_foundOn places
  have hids : (Found.all (places.map (foundOn clock ⟨true, false⟩ k none rows))).ids = [] := by
    change (places.map _).flatMap Found.ids = []
    simp [foundOn]
  rw [← hrows, ← hids]

/-- The rows that a statement on a table finds are those that it selects once it is bound. -/
theorem Request.found_rows (reachable : ∀ t ∈ ds.tables, t.Reachable) {s : Statement}
    (hs : ∀ id, s ≠ .identifier id) (htarget : s.targetOn r ds = .ok (k, t)) :
    r.found clock ⟨true, false⟩ ds s = (t.remembering (s.bindOn r)).1.map fun tree =>
      ⟨(tree.rows clock t.rows).map (RowRef.mk k), []⟩ := by
  rw [found_eq reachable, foundOn_of_ne hs, rowsOn, htarget, ok_bind, map_eq_bind]
  exact bind_congr fun tree => congrArg Except.ok (all_foundOn clock k t.rows _)

/-- A filter that cannot be read selects nothing. -/
theorem Request.selectRows_of_error {e : Error} (h : Statement.listOfText r.filter = .error e) :
    (r.selectRows clock ds).1 = .error e := by
  unfold selectRows select withStatements
  rw [h]
  rfl

/-- A filter that is one statement on a table selects what this statement does once it is bound. -/
theorem Request.selectRows_eq (reachable : ∀ t ∈ ds.tables, t.Reachable) {s : Statement}
    (parsed : Statement.listOfText r.filter = .ok [s]) (hs : ∀ id, s ≠ .identifier id)
    (htarget : s.targetOn r ds = .ok (k, t)) :
    (r.selectRows clock ds).1 = (t.remembering (s.bindOn r)).1.map fun tree =>
      (tree.rows clock t.rows).map (RowRef.mk k) := by
  have hselect : (r.select clock ⟨true, false⟩ ds).1.result =
      (t.remembering (s.bindOn r)).1.map fun tree =>
        .ofFound ⟨(tree.rows clock t.rows).map (RowRef.mk k), []⟩ := by
    rw [select_eq_run r parsed, run_singleton reachable, found_rows reachable hs htarget]
    cases (t.remembering (s.bindOn r)).1 <;> rfl
  change (r.select clock ⟨true, false⟩ ds).1.result.map (·.rows) = _
  rw [hselect]
  cases (t.remembering (s.bindOn r)).1 with
  | ok tree => exact congrArg Except.ok Selection.rows_ofFound
  | error e => rfl

end TableFilter
