import TableFilter.Proofs.Selection.EntryPoints
import TableFilter.Proofs.Statement.Lowering

/-!
# Filters in another case

Keywords and the names of functions, tables and columns can be written in any case. Texts that
differ in the case of these words are read as statements that differ in the case of names, and a
name stands for one table or one column in all its cases. So the texts are bound as the same trees,
or both fail with errors of one kind: the causes may hold the names as they were written.

## Main definitions

* `RunsAlike`: actions that leave the same states, with one value or with errors of one kind

## Main results

* `Table.bindWith_lowerNames`: terms are bound in any case
* `Request.trees_recased`: filters are bound in any case
-/

namespace TableFilter

open Result

/-! ### Actions -/

/-- From each state two actions lead to one state, with one value or with errors of one kind. -/
def RunsAlike {σ α : Type} (m m' : ExceptT Error (StateM σ) α) : Prop :=
  ∀ s, Alike (m.run s).1 (m'.run s).1 ∧ (m.run s).2 = (m'.run s).2

namespace RunsAlike

variable {σ α β : Type} {m m' : ExceptT Error (StateM σ) α} {f f' : α → ExceptT Error (StateM σ) β}

theorem refl (m : ExceptT Error (StateM σ) α) : RunsAlike m m := fun _ => ⟨.refl _, rfl⟩

theorem throw {e e' : Error} (kind : e.kind = e'.kind) :
    RunsAlike (throw e : ExceptT Error (StateM σ) α) (throw e') := fun _ => ⟨.error kind, rfl⟩

theorem bind (h : RunsAlike m m') (hf : ∀ a, RunsAlike (f a) (f' a)) :
    RunsAlike (m >>= f) (m' >>= f') := by
  intro s
  obtain ⟨hresult, hstate⟩ := h s
  rw [run_bind, run_bind, ← hstate]
  generalize (m.run s).1 = r, (m'.run s).1 = r' at hresult
  cases hresult with
  | ok a => exact hf a _
  | error kind => exact ⟨.error kind, rfl⟩

end RunsAlike

/-! ### Names of columns and tables -/

namespace Table

variable (t : Table)

theorem columnIndex?_lowerName (name : String) :
    t.columnIndex? (lowerName name) = t.columnIndex? name := by
  simp only [columnIndex?, sameAsciiCase_lowerName]

theorem lookUpBy_lowerName (resolving : List Nat)
    (inner : Nat → Column → String → Binding BoundColumn) (name : String) :
    RunsAlike (t.lookUpBy resolving inner (lowerName name)) (t.lookUpBy resolving inner name) := by
  unfold lookUpBy
  rw [columnIndex?_lowerName]
  split
  · exact .throw rfl
  · split
    · exact .throw rfl
    · exact .refl _

theorem lookUp_lowerName (name : String) :
    RunsAlike (t.lookUp (lowerName name)) (t.lookUp name) := by
  unfold lookUp
  cases t.columns.length <;> exact t.lookUpBy_lowerName _ _ name

mutual

/-- Terms are bound in any case. -/
theorem bindWith_lowerNames : ∀ a : Term,
    RunsAlike (a.lowerNames.bindWith t.lookUp) (a.bindWith t.lookUp)
  | .literal _ => .refl _
  | .column name => (t.lookUp_lowerName name).bind fun _ => .refl _
  | .unary _ a => (bindWith_lowerNames a).bind fun _ => .refl _
  | .binary _ a b =>
    (bindWith_lowerNames a).bind fun _ => (bindWith_lowerNames b).bind fun _ => .refl _
  | .nullTest _ a => (bindWith_lowerNames a).bind fun _ => .refl _
  | .inList _ _ a items =>
    (bindWith_lowerNames a).bind fun _ => (bindAllWith_lowerNames items).bind fun _ => .refl _
  | .call f args => by
    unfold Term.lowerNames Term.bindWith
    have hlength : (Term.lowerAllNames args).length = args.length := by
      rw [Term.lowerAllNames_eq_map, List.length_map]
    rw [hlength]
    exact (RunsAlike.refl _).bind fun _ => (bindAllWith_lowerNames args).bind fun _ => .refl _

theorem bindAllWith_lowerNames : ∀ as : List Term,
    RunsAlike (Term.bindAllWith t.lookUp (Term.lowerAllNames as)) (Term.bindAllWith t.lookUp as)
  | [] => .refl _
  | a :: as =>
    (bindWith_lowerNames a).bind fun _ => (bindAllWith_lowerNames as).bind fun _ => .refl _

end

theorem bindOrder_lowerNames (items : List OrderItem) :
    RunsAlike (t.bindOrder (items.map OrderItem.lowerNames)) (t.bindOrder items) := by
  unfold bindOrder
  induction items with
  | nil => exact .refl _
  | cons item items ih =>
    rw [List.map_cons, List.mapM_cons, List.mapM_cons]
    have first : RunsAlike (t.bindOrderItem item.lowerNames) (t.bindOrderItem item) :=
      (t.lookUp_lowerName item.column).bind fun _ => .refl _
    exact first.bind fun _ => ih.bind fun _ => .refl _

theorem bindOn_lowerNames (r : Request) (s : Statement) :
    RunsAlike (s.lowerNames.bindOn r t) (s.bindOn r t) := by
  cases s with
  | identifier id => exact .refl _
  | filter f =>
    exact (t.bindWith_lowerNames f.condition).bind fun _ =>
      (t.bindOrder_lowerNames f.order).bind fun _ => .refl _
  | condition a => exact (t.bindWith_lowerNames a).bind fun _ => .refl _

end Table

theorem DataSet.table_lowerName (ds : DataSet) (name : String) :
    Alike (ds.table (lowerName name)) (ds.table name) := by
  have hfind : ds.find? (lowerName name) = ds.find? name := by
    simp only [find?, tableIndex?, sameAsciiCase_lowerName]
  unfold table
  rw [hfind]
  split
  · exact .ok _
  · exact .error rfl

/-! ### Statements and filters -/

/-- A statement is bound in any case. -/
theorem Statement.treeOn_lowerNames (r : Request) (ds : DataSet) (s : Statement) :
    Alike (s.lowerNames.treeOn r ds) (s.treeOn r ds) := by
  have target : Alike (s.lowerNames.targetOn r ds) (s.targetOn r ds) := by
    cases s with
    | filter f => exact ds.table_lowerName f.table
    | condition _ | identifier _ => exact .refl _
  exact target.bind fun (_, t) _ => (t.bindOn_lowerNames r s t.bound).1

theorem Statement.mapM_treeOn_lowerNames (r : Request) (ds : DataSet)
    (statements : List Statement) :
    Alike ((statements.map lowerNames).mapM (treeOn r ds)) (statements.mapM (treeOn r ds)) := by
  rw [List.mapM_map]
  exact .mapM fun s _ => treeOn_lowerNames r ds s

namespace Request

variable {ds : DataSet}

/-- What a filter is bound as: its statements are read, and each is bound on the data set as it is
at the start. -/
theorem trees_result (r : Request) (reachable : ∀ t ∈ ds.tables, t.Reachable) :
    (r.trees ds).1.result =
      Statement.listOfText r.filter >>= fun statements =>
        statements.mapM (Statement.treeOn r ds) := by
  cases parsed : Statement.listOfText r.filter with
  | error e =>
    unfold trees withStatements
    rw [parsed]
    rfl
  | ok statements => exact trees_eq reachable parsed

/-- **Filters are bound in any case.** Let the tables of a data set be reachable, and let two texts
differ in the case of ASCII letters of keywords and names only. Either both are bound as the same
trees, or both fail with errors of one kind. -/
theorem trees_recased (r : Request) {ds : DataSet} (reachable : ∀ t ∈ ds.tables, t.Reachable)
    {text : String} (recased : Recased r.filter.toList text.toList) :
    Alike ({ r with filter := text }.trees ds).1.result (r.trees ds).1.result := by
  have bound : Statement.treeOn { r with filter := text } ds = Statement.treeOn r ds := by
    funext s
    cases s <;> rfl
  have lower (text : String) :
      Alike (((Statement.listOfText text).map (List.map Statement.lowerNames)) >>= fun statements =>
          statements.mapM (Statement.treeOn r ds))
        (Statement.listOfText text >>= fun statements =>
          statements.mapM (Statement.treeOn r ds)) := by
    cases Statement.listOfText text with
    | error e => exact .error rfl
    | ok statements => exact Statement.mapM_treeOn_lowerNames r ds statements
  rw [trees_result _ reachable, trees_result _ reachable, bound]
  refine (lower text).symm.trans (.trans ?_ (lower r.filter))
  exact (Statement.listOfText_recased recased).bind fun _ _ => .refl _

/-- The sizes of the doubles. -/
def sizes : Request := { filter := "FILTER Doubling WHERE Abs(Twice)" }

/-- Keywords and the names of the table, the function and the column in another case. -/
theorem sizes_recased :
    Recased sizes.filter.toList "filter DOUBLING Where aBS(tWICE)".toList := by
  have blank (rest : List Char) : Separated (' ' :: rest) := separated_cons rfl rest
  have twice : IsName "Twice" := by cbv
  have abs : IsName "Abs" := by cbv
  have doubling : IsName "Doubling" := by cbv
  have argument : Recased ([] ++ ("Twice".toList ++ [')'])) ([] ++ ("tWICE".toList ++ [')'])) :=
    .word [] rfl (twice.spells (separated_cons rfl _)) (by cbv) rfl (.same _)
  have call : Recased "(Twice)".toList "(tWICE)".toList :=
    .token [] rfl (spells_leftParen _) rfl (fun _ => rfl) argument
  have condition : Recased ([' '] ++ ("Abs".toList ++ "(Twice)".toList))
      ([' '] ++ ("aBS".toList ++ "(tWICE)".toList)) :=
    .word [' '] rfl (abs.spells (separated_cons rfl _)) (by cbv) rfl call
  have after : Recased ([' '] ++ ("WHERE".toList ++ " Abs(Twice)".toList))
      ([' '] ++ ("Where".toList ++ " aBS(tWICE)".toList)) :=
    .word [' '] rfl (spells_keyword .where_ (blank _)) (by cbv) rfl condition
  have table : Recased ([' '] ++ ("Doubling".toList ++ " WHERE Abs(Twice)".toList))
      ([' '] ++ ("DOUBLING".toList ++ " Where aBS(tWICE)".toList)) :=
    .word [' '] rfl (doubling.spells (blank _)) (by cbv) rfl after
  exact show Recased ([] ++ ("FILTER".toList ++ " Doubling WHERE Abs(Twice)".toList))
      ([] ++ ("filter".toList ++ " DOUBLING Where aBS(tWICE)".toList)) from
    .word [] rfl (spells_keyword .filter (blank _)) (by cbv) rfl table

/-- In the other case the filter is bound as the same tree, with the names as the table and the
column have them. -/
theorem sizes_trees_recased :
    (∀ t ∈ doublingSet.tables, t.Reachable) ∧
      Recased sizes.filter.toList "filter DOUBLING Where aBS(tWICE)".toList ∧
      ({ sizes with filter := "filter DOUBLING Where aBS(tWICE)" }.trees doublingSet).1.result =
        .ok [⟨"Doubling", .call .abs [Table.twice], noLimit, []⟩] := by
  have reachable := doublingSet_reachable.tables
  have bound : (sizes.trees doublingSet).1.result =
      .ok [⟨"Doubling", .call .abs [Table.twice], noLimit, []⟩] := by cbv
  have alike := trees_recased sizes reachable sizes_recased
  rw [bound] at alike
  refine ⟨reachable, sizes_recased, ?_⟩
  generalize ({ sizes with filter := "filter DOUBLING Where aBS(tWICE)" }.trees
    doublingSet).1.result = r at alike
  cases alike
  rfl

end Request

end TableFilter
