import TableFilter.Proofs.Binding.Completeness
import TableFilter.Proofs.Catalog.Reachable
import TableFilter.Selection

/-!
# Remembering is invisible

Whatever was done with a table before, binding on it gives what it gives on a table of the same name
and columns that remembers nothing. What it remembers for a column is what the formula of the column
is bound as.

## Main definitions

* `LooksUp`: what binds on tables by looking up names

## Main results

* `LooksUp.run_eq`: binding depends on the name and the columns of a table only
* `Table.Reachable.remembering_invisible`: binding on reachable tables
-/

namespace TableFilter

namespace Table

variable {t u : Table}

theorem lookUpTo_congr (hname : u.name = t.name) (hcolumns : u.columns = t.columns) (depth : Nat) :
    ∀ resolving, u.lookUpTo depth resolving = t.lookUpTo depth resolving := by
  induction depth with
  | zero =>
    intro resolving
    funext name
    simp only [lookUpTo, lookUpBy, definitionOf, columnIndex?, hname, hcolumns]
  | succ depth ih =>
    intro resolving
    funext name
    simp only [lookUpTo, lookUpBy, definitionOf, columnIndex?, hname, hcolumns, ih]

/-- Looking up names depends on the name and the columns of a table only. -/
theorem lookUp_congr (hname : u.name = t.name) (hcolumns : u.columns = t.columns) :
    u.lookUp = t.lookUp := by
  funext name
  rw [lookUp, lookUp, lookUpTo_congr hname hcolumns, hcolumns]

end Table

/-- What binds on tables by looking up names, and besides depends on the name and the columns of the
table only. -/
structure LooksUp {α : Type} (binding : Table → Binding α) : Prop where
  /-- On each table it does nothing but look up names. -/
  looks : ∀ t : Table, t.Looks (binding t)
  /-- Nothing else of the table counts. -/
  congr : ∀ {t u : Table}, u.name = t.name → u.columns = t.columns → binding u = binding t

namespace LooksUp

variable {α β : Type}

theorem lift {r : Table → Result α}
    (congr : ∀ {t u : Table}, u.name = t.name → u.columns = t.columns → r u = r t) :
    LooksUp fun t => liftM (r t) :=
  ⟨fun t => .lift (r t), fun hname hcolumns => by rw [congr hname hcolumns]⟩

/-- A result that is the same for all tables. -/
theorem const (r : Result α) : LooksUp fun _ => liftM r := lift fun _ _ => rfl

/-- A value that depends on the name of the table only. -/
theorem named (value : String → α) : LooksUp fun t => pure (value t.name) :=
  lift fun hname _ => congrArg (Except.ok ∘ value) hname

theorem bind {m : Table → Binding α} {f : Table → α → Binding β} (hm : LooksUp m)
    (hf : ∀ a, LooksUp fun t => f t a) : LooksUp fun t => m t >>= f t := by
  refine ⟨fun t => .bind (hm.looks t) fun a => (hf a).looks t, fun hname hcolumns => ?_⟩
  have hcongr : f _ = f _ := funext fun a => (hf a).congr hname hcolumns
  rw [hm.congr hname hcolumns, hcongr]

theorem tryCatch {m : Table → Binding α} {f : Table → Error → Binding α} (hm : LooksUp m)
    (hf : ∀ e, LooksUp fun t => f t e) : LooksUp fun t => tryCatch (m t) (f t) := by
  refine ⟨fun t => .tryCatch (hm.looks t) fun e => (hf e).looks t, fun hname hcolumns => ?_⟩
  have hcongr : f _ = f _ := funext fun e => (hf e).congr hname hcolumns
  rw [hm.congr hname hcolumns, hcongr]

theorem lookUp (name : String) : LooksUp fun t => t.lookUp name :=
  ⟨fun _ => .lookUp name, fun hname hcolumns => by rw [Table.lookUp_congr hname hcolumns]⟩

theorem bindTerm (a : Term) : LooksUp fun t => t.bindTerm a := by
  refine ⟨fun _ => .bindTerm a, fun hname hcolumns => ?_⟩
  rw [Table.bindTerm, Table.bindTerm, Table.lookUp_congr hname hcolumns]

theorem bindOrder (items : List OrderItem) : LooksUp fun t => t.bindOrder items := by
  refine ⟨fun _ => .bindOrder items, fun {t u} hname hcolumns => ?_⟩
  have item : u.bindOrderItem = t.bindOrderItem := by
    funext item
    rw [Table.bindOrderItem, Table.bindOrderItem, Table.lookUp_congr hname hcolumns]
  rw [Table.bindOrder, Table.bindOrder, item]

theorem bindText (text : String) : LooksUp fun t => t.bindText text :=
  (const (Term.ofText text)).bind fun a =>
    (bindTerm a).bind fun root => named fun name => Tree.ofRoot name root

theorem bindSelection (condition : String) (order : Option String) (limit : Int) :
    LooksUp fun t => t.bindSelection condition order limit := by
  refine (const (Term.ofText condition)).bind fun a => (bindTerm a).bind fun root => ?_
  have selection (terms : List OrderTerm) :
      LooksUp fun t => pure (⟨t.name, root, limit, terms⟩ : Tree) :=
    named fun name => (⟨name, root, limit, terms⟩ : Tree)
  dsimp only
  split
  · next text _ =>
    exact (const (OrderItem.listOfText text)).bind fun items => (bindOrder items).bind selection
  · exact (const (.ok [])).bind selection

/-- From whatever coherent things are remembered, the result is that on a table of the same name and
columns that remembers nothing. -/
theorem run_eq {binding : Table → Binding α} (h : LooksUp binding) {t u : Table}
    (hname : u.name = t.name) (hcolumns : u.columns = t.columns) (hbound : u.bound = [])
    (coherent : t.Coherent t.bound) :
    (t.remembering binding).1 = (u.remembering binding).1 := by
  change ((binding t).run t.bound).1 = ((binding u).run u.bound).1
  rw [h.congr hname hcolumns, hbound]
  exact (h.looks t).isSteady.result_eq coherent Table.coherent_nil

end LooksUp

namespace Table

/-- **Remembering is invisible.** Whatever was done with a table before, texts, selections and
columns are bound on it as on a table of the same name and columns that remembers nothing, with the
same error where binding fails. What is remembered for a place belongs to a computed column, and is
the expression that the formula of this column is bound as. -/
theorem Reachable.remembering_invisible (t : Table) (reachable : t.Reachable) :
    (∀ u : Table, u.name = t.name → u.columns = t.columns → u.bound = [] →
      (∀ text, (t.remembering (·.bindText text)).1 = (u.remembering (·.bindText text)).1) ∧
      (∀ condition order limit, (t.remembering (·.bindSelection condition order limit)).1 =
        (u.remembering (·.bindSelection condition order limit)).1) ∧
      ∀ name, (t.remembering (·.lookUp name)).1 = (u.remembering (·.lookUp name)).1) ∧
    ∀ k e, t.bound.lookup k = some e →
      ∃ c formula, t.columns[k]? = some c ∧ c.formula = some formula ∧
        (remembering { t with bound := [] } (·.bindText formula)).1 = .ok (.ofRoot t.name e) := by
  constructor
  · intro u hname hcolumns hbound
    refine ⟨fun text => ?_, fun condition order limit => ?_, fun name => ?_⟩
    · exact (LooksUp.bindText text).run_eq hname hcolumns hbound reachable.coherent
    · exact (LooksUp.bindSelection condition order limit).run_eq hname hcolumns hbound
        reachable.coherent
    · exact (LooksUp.lookUp name).run_eq hname hcolumns hbound reachable.coherent
  · intro k e hk
    obtain ⟨c, formula, term, hc, hf, hread, hbinds⟩ := reachable.coherent k e hk
    refine ⟨c, formula, hc, hf, ?_⟩
    -- The remembered expression is what the formula stands for, which is found on each table.
    have found : t.Finds (t.bindText formula) (.ofRoot t.name e) := by
      have read : t.Finds (liftM (Term.ofText formula)) term := .lift hread
      exact read.bind (hbinds.bindTerm_finds.bind (.pure rfl))
    have fresh : (t.remembering (·.bindText formula)).1 =
        (remembering { t with bound := [] } (·.bindText formula)).1 :=
      (LooksUp.bindText formula).run_eq rfl rfl rfl reachable.coherent
    exact fresh.symm.trans (found t.bound reachable.coherent).1

/-- After the double was bound it is remembered, and all is bound as before. -/
theorem doubled_remembering_invisible :
    doubled.Reachable ∧
      doubled.bound.lookup 1 = some (.binary (.arithmetic .add) (.column ⟨0, "N", .int32⟩)
        (.column ⟨0, "N", .int32⟩)) ∧
      (doubled.remembering (·.bindText "Twice > 1")).1 =
        (doubling.remembering (·.bindText "Twice > 1")).1 ∧
      ∃ c formula, doubled.columns[1]? = some c ∧ c.formula = some formula ∧
        (remembering { doubled with bound := [] } (·.bindText formula)).1 =
          .ok (.ofRoot "Doubling" (.binary (.arithmetic .add) (.column ⟨0, "N", .int32⟩)
            (.column ⟨0, "N", .int32⟩))) := by
  obtain ⟨hbinding, hremembered⟩ := Reachable.remembering_invisible doubled doubled_reachable
  exact ⟨doubled_reachable, rfl, (hbinding doubling rfl rfl rfl).1 "Twice > 1",
    hremembered 1 _ rfl⟩

end Table

end TableFilter
