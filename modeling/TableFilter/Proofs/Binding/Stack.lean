import Mathlib.Data.Finset.Card
import TableFilter.Proofs.Maintenance
import TableFilter.Binding

/-!
# Binding with a stack

A binder keeps a stack of the columns whose formulas it is binding. It puts a column on the stack
before it binds the formula of the column, and takes it off again whether this failed or not. A
column that is on the stack already is refused.

Nothing but the stack keeps such a binder from following formulas for ever, so that it may have no
outcome. It always has one: each column on the stack is another one, so that formulas lead from one
to the next as many times at most as there are columns. What it gives and what it remembers is what
looking up names gives and remembers, and in the end its stack is what it was.

## Main definitions

* `BinderState`, `Binder`: what a binder holds, and what it does
* `Term.bindBy`, `Table.columnBy`, `Table.orderBy`: terms, columns and columns to sort by
* `Binder.Performs`: a binder does what an action does and puts its stack back
* `Table.unfollowed`: how many columns are not on the stack

## Main results

* `Table.columnBy_performs`: a column by a binder is a column by name
* `Term.bindBy_performs`, `Table.orderBy_performs`: the same for terms and columns to sort by
-/

namespace TableFilter

/-- What a binder holds: the expressions that are remembered, and a stack of the columns whose
formulas are being bound, the innermost first. -/
structure BinderState where
  bound : BoundColumns
  resolving : List Nat

/-- What a binder does. There is an outcome only if it comes to an end. -/
abbrev Binder := ExceptT Error (StateT BinderState Option)

/-! ### What binders do -/

/-- What does not come to an end. -/
def Binder.never {α : Type} : Binder α := fun _ => none

/-- Puts a column on the stack, does something, and takes the column off the stack whether this
failed or not. -/
def Binder.following {α : Type} (k : Nat) (b : Binder α) : Binder α := do
  modify fun s => { s with resolving := k :: s.resolving }
  let result ← tryCatch (Except.ok (ε := Error) <$> b) fun e => return .error e
  modify fun s => { s with resolving := s.resolving.tail }
  liftM result

/-- Remembers the expression of a column, unless one is remembered already. -/
def Binder.remember (k : Nat) (e : Expr) : Binder Expr := do
  match (← get).bound.lookup k with
  | some known => return known
  | none => do
    modify fun s => { s with bound := (k, e) :: s.bound }
    return e

namespace Term

mutual

/-- A term bound by a way to look up columns. -/
def bindBy (column : String → Binder BoundColumn) : Term → Binder Expr
  | .literal v => return .literal v
  | .column name => do return (← column name).toExpr
  | .unary op e => do return .unary op (← e.bindBy column)
  | .binary op a b => do
    let a ← a.bindBy column
    let b ← b.bindBy column
    return .binary op a b
  | .nullTest negated e => do return .nullTest negated (← e.bindBy column)
  | .inList negated exact e es => do
    let e ← e.bindBy column
    let es ← bindAllBy column es
    return .inList negated exact e es
  | .call f es => do
    f.checkCount es.length
    return .call f (← bindAllBy column es)

/-- Terms bound one after the other. -/
def bindAllBy (column : String → Binder BoundColumn) : List Term → Binder (List Expr)
  | [] => return []
  | e :: es => do
    let e ← e.bindBy column
    return e :: (← bindAllBy column es)

end

end Term

namespace Table

/-- The expression of a computed column: the remembered one, or else its formula bound with the
column on the stack. -/
def definitionBy (t : Table) (k : Nat) (c : Column) (formula : String)
    (column : String → Binder BoundColumn) : Binder Expr := do
  let s ← get
  match s.bound.lookup k with
  | some known => return known
  | none =>
    if s.resolving.contains k then throw (.resolution (.selfReference c.name t.name))
    else
      let e ← Binder.following k do (← Term.ofText formula).bindBy column
      Binder.remember k e

/-- A column by name. There is no outcome where look-ups stand one inside the other `steps` times
and do not come to an end. -/
def columnBy (t : Table) : Nat → String → Binder BoundColumn
  | 0, _ => .never
  | steps + 1, name =>
    match t.columnIndex? name with
    | none => throw (.resolution (.unknownColumn name t.name))
    | some k =>
      match t.columns[k]? with
      | none => throw (.resolution (.unknownColumn name t.name))
      | some c =>
        let head : ColumnHead := ⟨k, c.name, c.type⟩
        match c.formula with
        | none => return ⟨head, none⟩
        | some formula => do
          return ⟨head, some (← t.definitionBy k c formula (t.columnBy steps))⟩

/-- Columns to sort by. -/
def orderBy (t : Table) (steps : Nat) (items : List OrderItem) : Binder (List OrderTerm) :=
  items.mapM fun item => do
    return ⟨← t.columnBy steps item.column, item.ascending, item.exact⟩

end Table

/-! ### Doing what an action does -/

namespace Binder

variable {α β : Type} {resolving : List Nat}

theorem run_bind (b : Binder α) (f : α → Binder β) (s : BinderState) :
    (b >>= f).run s =
      match b.run s with
      | none => none
      | some (.ok a, s') => (f a).run s'
      | some (.error e, s') => some (.error e, s') := by
  change (b.run s).bind _ = _
  rcases b.run s with _ | ⟨_ | _, _⟩ <;> rfl

theorem run_tryCatch (b : Binder α) (f : Error → Binder α) (s : BinderState) :
    (tryCatch b f).run s =
      match b.run s with
      | none => none
      | some (.ok a, s') => some (.ok a, s')
      | some (.error e, s') => (f e).run s' := by
  change (b.run s).bind _ = _
  rcases b.run s with _ | ⟨_ | _, _⟩ <;> rfl

/-- A binder with this stack does what an action does, whatever is remembered, and puts its stack
back. -/
def Performs (b : Binder α) (resolving : List Nat) (m : Binding α) : Prop :=
  ∀ bound, b.run ⟨bound, resolving⟩ = some ((m.run bound).1, ⟨(m.run bound).2, resolving⟩)

namespace Performs

variable {b : Binder α} {m : Binding α} {f : α → Binder β} {g : α → Binding β}

theorem pure (a : α) : Performs (pure a) resolving (pure a) := fun _ => rfl

theorem throw (e : Error) : Performs (throw e : Binder α) resolving (throw e) := fun _ => rfl

theorem lift (r : Result α) : Performs (liftM r : Binder α) resolving (liftM r) := by
  intro bound
  cases r <;> rfl

theorem bind (hb : b.Performs resolving m) (hf : ∀ a, (f a).Performs resolving (g a)) :
    (b >>= f).Performs resolving (m >>= g) := by
  intro bound
  rw [run_bind, TableFilter.run_bind, hb bound]
  cases (m.run bound).1 with
  | ok a => exact hf a _
  | error e => rfl

/-- What goes on with the expressions that are remembered. -/
theorem get_bind {f : BinderState → Binder β} {g : BoundColumns → Binding β}
    (h : ∀ bound, (f ⟨bound, resolving⟩).Performs resolving (g bound)) :
    (get >>= f).Performs resolving (get >>= g) :=
  fun bound => h bound bound

/-- Whatever happens above a column on the stack, the column is taken off. -/
theorem following {k : Nat} (h : b.Performs (k :: resolving) m) :
    (following k b).Performs resolving m := by
  intro bound
  have observed : ((tryCatch (Except.ok (ε := Error) <$> b) fun e => return .error e).run
      ⟨bound, k :: resolving⟩ : Option (Result (Result α) × BinderState)) =
        some (.ok (m.run bound).1, ⟨(m.run bound).2, k :: resolving⟩) := by
    rw [run_tryCatch, map_eq_pure_bind, run_bind, h bound]
    cases (m.run bound).1 <;> rfl
  change ((tryCatch _ _ : Binder (Result α)) >>= _).run ⟨bound, k :: resolving⟩ = _
  rw [run_bind, observed]
  cases (m.run bound).1 <;> rfl

theorem remember (k : Nat) (e : Expr) :
    (remember k e).Performs resolving (TableFilter.remember k e) := by
  refine get_bind fun bound => ?_
  cases bound.lookup k with
  | some known => exact .pure known
  | none => exact fun _ => rfl

end Performs

end Binder

/-! ### Terms -/

namespace Term

variable {resolving : List Nat} {column : String → Binder BoundColumn}
  {lookUp : String → Binding BoundColumn}

mutual

theorem bindBy_performs (h : ∀ name, (column name).Performs resolving (lookUp name)) :
    ∀ a : Term, (a.bindBy column).Performs resolving (a.bindWith lookUp)
  | .literal _ => .pure _
  | .column name => (h name).bind fun _ => .pure _
  | .unary _ a => (bindBy_performs h a).bind fun _ => .pure _
  | .binary _ a b => (bindBy_performs h a).bind fun _ => (bindBy_performs h b).bind fun _ => .pure _
  | .nullTest _ a => (bindBy_performs h a).bind fun _ => .pure _
  | .inList _ _ a items =>
    (bindBy_performs h a).bind fun _ => (bindAllBy_performs h items).bind fun _ => .pure _
  | .call _ args =>
    (Binder.Performs.lift _).bind fun _ => (bindAllBy_performs h args).bind fun _ => .pure _

theorem bindAllBy_performs (h : ∀ name, (column name).Performs resolving (lookUp name)) :
    ∀ as : List Term, (bindAllBy column as).Performs resolving (bindAllWith lookUp as)
  | [] => .pure _
  | a :: as =>
    (bindBy_performs h a).bind fun _ => (bindAllBy_performs h as).bind fun _ => .pure _

end

end Term

/-! ### Columns -/

namespace Table

variable {t : Table} {resolving : List Nat} {steps depth : Nat}

/-- How many columns are not on the stack. -/
def unfollowed (t : Table) (resolving : List Nat) : Nat :=
  (Finset.range t.columns.length \ resolving.toFinset).card

theorem unfollowed_le (t : Table) (resolving : List Nat) :
    t.unfollowed resolving ≤ t.columns.length :=
  (Finset.card_le_card Finset.sdiff_subset).trans (Finset.card_range _).le

/-- A column that is put on the stack is one less that is not there. -/
theorem unfollowed_cons_lt {k : Nat} (hk : k < t.columns.length) (hnew : k ∉ resolving) :
    t.unfollowed (k :: resolving) < t.unfollowed resolving := by
  unfold unfollowed
  rw [List.toFinset_cons, Finset.sdiff_insert]
  exact Finset.card_erase_lt_of_mem (by simp [hk, hnew])

theorem definitionBy_performs {k : Nat} {c : Column} {formula : String}
    {column : String → Binder BoundColumn} {lookUp : String → Binding BoundColumn}
    (h : k ∉ resolving → ∀ name, (column name).Performs (k :: resolving) (lookUp name)) :
    (t.definitionBy k c formula column).Performs resolving
      (t.definitionOf resolving k c formula lookUp) := by
  refine .get_bind fun bound => ?_
  cases bound.lookup k with
  | some known => exact .pure known
  | none =>
    dsimp only
    split
    · exact .throw _
    · next hnew =>
      have binds (a : Term) := a.bindBy_performs (h (by simpa using hnew))
      have follows := ((Binder.Performs.lift (Term.ofText formula)).bind binds).following
      have remembers := follows.bind fun e => .remember k e
      rwa [bind_assoc] at remembers

/-- Looking up a column takes one step, and leaves the others for the columns of its formula. -/
theorem columnBy_succ_performs {inner : Nat → Column → String → Binding BoundColumn}
    (h : ∀ k c, k < t.columns.length → k ∉ resolving →
      ∀ name, (t.columnBy steps name).Performs (k :: resolving) (inner k c name)) (name : String) :
    (t.columnBy (steps + 1) name).Performs resolving (t.lookUpBy resolving inner name) := by
  unfold columnBy lookUpBy
  cases t.columnIndex? name with
  | none => exact .throw _
  | some k =>
    dsimp only
    cases hc : t.columns[k]? with
    | none => exact .throw _
    | some c =>
      dsimp only
      cases c.formula with
      | none => exact .pure _
      | some formula =>
        have hk := (List.getElem?_eq_some_iff.1 hc).1
        exact (definitionBy_performs (h k c hk)).bind fun _ => .pure _

/-- With more steps than there are columns that are not on the stack, a binder looks up a column. -/
theorem columnBy_performs (enough : t.unfollowed resolving < steps)
    (deep : t.unfollowed resolving ≤ depth) (name : String) :
    (t.columnBy steps name).Performs resolving (t.lookUpTo depth resolving name) := by
  induction steps generalizing resolving depth name with
  | zero => exact absurd enough (Nat.not_lt_zero _)
  | succ steps ih =>
    have less {k : Nat} (hk : k < t.columns.length) (hnew : k ∉ resolving) :
        t.unfollowed (k :: resolving) < t.unfollowed resolving := unfollowed_cons_lt hk hnew
    cases depth with
    | zero =>
      refine columnBy_succ_performs (fun k c hk hnew name => ?_) name
      have := less hk hnew
      omega
    | succ depth =>
      refine columnBy_succ_performs (fun k c hk hnew name => ?_) name
      have := less hk hnew
      exact ih (by omega) (by omega) name

theorem orderBy_performs {lookUp : String → Binding BoundColumn}
    (h : ∀ name, (t.columnBy steps name).Performs resolving (lookUp name))
    (items : List OrderItem) : (t.orderBy steps items).Performs resolving (items.mapM fun item => do
      return ⟨← lookUp item.column, item.ascending, item.exact⟩) := by
  unfold orderBy
  induction items with
  | nil => exact .pure _
  | cons item items ih =>
    rw [List.mapM_cons, List.mapM_cons]
    exact ((h item.column).bind fun _ => .pure _).bind fun _ => ih.bind fun _ => .pure _

end Table

end TableFilter
