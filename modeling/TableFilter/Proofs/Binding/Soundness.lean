import TableFilter.Planning
import TableFilter.Proofs.Binding.Resolution
import TableFilter.Proofs.Maintenance

/-!
# Soundness of binding

What binding gives is what the term stands for, and what it leaves remembered stays the expressions
of the columns it is remembered for, also where binding fails.

## Main definitions

* `Table.Coherent`: what is remembered for each column is the expression that computes it
* `Table.Yields`: an action keeps this and gives values of a kind
* `Table.Looks`: an action reads a table only by looking up names

## Main results

* `Table.lookUp_yields`, `Table.bindTerm_yields`, `Table.bindOrder_yields`: looking up names and
  binding terms are sound
* `Table.Looks.maintains`: whatever looks up names keeps what is remembered coherent
-/

namespace TableFilter

namespace Table

/-- What is remembered for each column is the expression that computes it. -/
def Coherent (t : Table) (bound : BoundColumns) : Prop :=
  ∀ k e, bound.lookup k = some e → t.Defines k e

/-- Where nothing is remembered, what is remembered is coherent. -/
theorem coherent_nil {t : Table} : t.Coherent [] := fun _ _ hk => nomatch hk

/-- An action that keeps what is remembered coherent and gives values of a kind unless it fails. -/
def Yields {α : Type} (t : Table) (m : Binding α) (kind : α → Prop) : Prop :=
  Maintains t.Coherent m fun r => ∀ a, r = .ok a → kind a

variable {α β : Type} {t : Table}

namespace Yields

variable {m : Binding α} {f : α → Binding β} {kind : α → Prop} {kind' : β → Prop}

theorem pure {a : α} (h : kind a) : t.Yields (pure a) kind :=
  Maintains.pure fun _ ha => Except.ok.inj ha ▸ h

theorem throw (e : Error) : t.Yields (throw e) kind :=
  Maintains.throw fun _ h => nomatch h

theorem lift {r : Result α} (h : ∀ a, r = .ok a → kind a) : t.Yields (liftM r) kind :=
  Maintains.lift h

theorem bind (hm : t.Yields m kind) (hf : ∀ a, kind a → t.Yields (f a) kind') :
    t.Yields (m >>= f) kind' :=
  Maintains.bind_ok hm hf

theorem get_bind {f : BoundColumns → Binding β}
    (h : ∀ bound, t.Coherent bound → t.Yields (f bound) kind') : t.Yields (get >>= f) kind' :=
  Maintains.get_bind h

end Yields

/-! ### Terms -/

section Term

variable {lookUp : String → Binding BoundColumn}

mutual

theorem bindWith_yields (h : ∀ name, t.Yields (lookUp name) (t.Resolves name)) :
    ∀ a : Term, t.Yields (a.bindWith lookUp) (t.Binds a)
  | .literal v => .pure (.literal v)
  | .column name => (h name).bind fun _ hc => .pure (.column hc)
  | .unary _ a => (bindWith_yields h a).bind fun _ he => .pure (.unary he)
  | .binary _ a b =>
    (bindWith_yields h a).bind fun _ he =>
      (bindWith_yields h b).bind fun _ hf => .pure (.binary he hf)
  | .nullTest _ a => (bindWith_yields h a).bind fun _ he => .pure (.nullTest he)
  | .inList _ _ a items =>
    (bindWith_yields h a).bind fun _ he =>
      (bindAllWith_yields h items).bind fun _ hes => .pure (.inList he hes)
  | .call _ args =>
    Yields.bind (.lift fun _ hf => hf) fun _ hf =>
      (bindAllWith_yields h args).bind fun _ hes => .pure (.call hf hes)

theorem bindAllWith_yields (h : ∀ name, t.Yields (lookUp name) (t.Resolves name)) :
    ∀ as : List Term, t.Yields (Term.bindAllWith lookUp as) (t.BindsAll as)
  | [] => .pure .nil
  | a :: as =>
    (bindWith_yields h a).bind fun _ he =>
      (bindAllWith_yields h as).bind fun _ hes => .pure (.cons he hes)

end

end Term

/-! ### Names -/

/-- Remembering the expression of a column gives this expression. -/
theorem remember_eq {k : Nat} {e : Expr} (h : t.Defines k e) :
    Maintains t.Coherent (remember k e) (· = .ok e) := by
  refine Maintains.get_bind fun bound hbound => ?_
  cases hk : bound.lookup k with
  | some known => exact .pure (congrArg _ ((hbound k known hk).unique h))
  | none =>
    have kept : Maintains t.Coherent (modify ((k, e) :: ·)) (· = .ok ⟨⟩) := by
      refine Maintains.modify rfl fun s hs j f hj => ?_
      rw [List.lookup_cons] at hj
      split at hj
      case h_1 hjk =>
        obtain rfl := Option.some.inj hj
        exact eq_of_beq hjk ▸ h
      case h_2 => exact hs j f hj
    exact kept.bind (fun _ _ => .pure rfl) fun _ he => nomatch he

theorem resolves_of_defines {name : String} {k : Nat} {c : Column} {e : Expr}
    (hk : t.columnIndex? name = some k) (hc : t.columns[k]? = some c) (h : t.Defines k e) :
    t.Resolves name ⟨⟨k, c.name, c.type⟩, some e⟩ := by
  obtain ⟨c', formula', term, hc', hf', hread, hbinds⟩ := h
  obtain rfl := Option.some.inj (hc.symm.trans hc')
  exact .computed hk hc hf' hread hbinds

theorem definitionOf_yields {resolving : List Nat} {k : Nat} {c : Column} {formula : String}
    {lookUp : String → Binding BoundColumn} (hc : t.columns[k]? = some c)
    (hf : c.formula = some formula) (h : ∀ name, t.Yields (lookUp name) (t.Resolves name)) :
    t.Yields (t.definitionOf resolving k c formula lookUp) (t.Defines k) := by
  refine Yields.get_bind fun bound hbound => ?_
  cases hk : bound.lookup k with
  | some known => exact .pure (hbound k known hk)
  | none =>
    dsimp only
    split
    · exact .throw _
    · refine Yields.bind (.lift fun _ hread => hread) fun term hread => ?_
      refine (bindWith_yields h term).bind fun e he => ?_
      have hd : t.Defines k e := ⟨c, formula, term, hc, hf, hread, he⟩
      exact (remember_eq hd).mono fun r hr a ha => Except.ok.inj (hr.symm.trans ha) ▸ hd

theorem lookUpBy_yields {resolving : List Nat} {inner : Nat → Column → String → Binding BoundColumn}
    (h : ∀ k c name, t.Yields (inner k c name) (t.Resolves name)) (name : String) :
    t.Yields (t.lookUpBy resolving inner name) (t.Resolves name) := by
  unfold lookUpBy
  split
  · exact .throw _
  · next k hk =>
    split
    · exact .throw _
    · next c hc =>
      split
      · next hf => exact .pure (.stored hk hc hf)
      · next formula hf =>
        refine (definitionOf_yields hc hf (h k c)).bind fun e he => ?_
        exact .pure (resolves_of_defines hk hc he)

theorem lookUpTo_yields (depth : Nat) : ∀ (resolving : List Nat) (name : String),
    t.Yields (t.lookUpTo depth resolving name) (t.Resolves name) := by
  induction depth with
  | zero =>
    intro resolving name
    exact lookUpBy_yields (fun _ _ _ => .throw _) name
  | succ depth ih =>
    intro resolving name
    exact lookUpBy_yields (fun k _ => ih (k :: resolving)) name

/-- Looking up a name is sound. -/
theorem lookUp_yields (name : String) : t.Yields (t.lookUp name) (t.Resolves name) :=
  lookUpTo_yields t.columns.length [] name

/-- Binding a term is sound. -/
theorem bindTerm_yields (a : Term) : t.Yields (t.bindTerm a) (t.Binds a) :=
  bindWith_yields lookUp_yields a

theorem bindOrderItem_yields (item : OrderItem) :
    t.Yields (t.bindOrderItem item) fun o => t.Resolves item.column o.column :=
  (lookUp_yields item.column).bind fun _ hc => .pure hc

/-- Binding columns to sort by is sound. -/
theorem bindOrder_yields (items : List OrderItem) :
    t.Yields (t.bindOrder items) fun os =>
      ∀ o ∈ os, ∃ item ∈ items, t.Resolves item.column o.column := by
  unfold bindOrder
  induction items with
  | nil => exact .pure (List.forall_mem_nil _)
  | cons item items ih =>
    rw [List.mapM_cons]
    refine (bindOrderItem_yields item).bind fun o ho => ih.bind fun os hos => .pure ?_
    refine List.forall_mem_cons.2 ⟨⟨item, .head _, ho⟩, fun o ho => ?_⟩
    obtain ⟨item, hitem, h⟩ := hos o ho
    exact ⟨item, .tail _ hitem, h⟩

/-- Binding a text is sound. -/
theorem bindText_yields (text : String) :
    t.Yields (t.bindText text) fun tree => ∃ a, t.Binds a tree.root :=
  Yields.bind (.lift fun _ ha => ha) fun a _ =>
    (bindTerm_yields a).bind fun _ he => .pure ⟨a, he⟩

/-! ### Everything that looks up names -/

/-- An action that reads a table only by looking up names. -/
inductive Looks (t : Table) : {α : Type} → Binding α → Prop
  | lift {α : Type} (r : Result α) : Looks t (liftM r : Binding α)
  | lookUp (name : String) : Looks t (t.lookUp name)
  | bind {α β : Type} {m : Binding α} {f : α → Binding β} : Looks t m → (∀ a, Looks t (f a)) →
      Looks t (m >>= f)
  | tryCatch {α : Type} {m : Binding α} {f : Error → Binding α} : Looks t m →
      (∀ e, Looks t (f e)) → Looks t (tryCatch m f)

namespace Looks

theorem pure {α : Type} (a : α) : t.Looks (pure a) := lift (.ok a)

mutual

theorem bindTerm : ∀ a : Term, t.Looks (a.bindWith t.lookUp)
  | .literal _ => .pure _
  | .column name => .bind (.lookUp name) fun _ => .pure _
  | .unary _ a => .bind (bindTerm a) fun _ => .pure _
  | .binary _ a b => .bind (bindTerm a) fun _ => .bind (bindTerm b) fun _ => .pure _
  | .nullTest _ a => .bind (bindTerm a) fun _ => .pure _
  | .inList _ _ a items => .bind (bindTerm a) fun _ => .bind (bindAll items) fun _ => .pure _
  | .call _ args => .bind (.lift _) fun _ => .bind (bindAll args) fun _ => .pure _

theorem bindAll : ∀ as : List Term, t.Looks (Term.bindAllWith t.lookUp as)
  | [] => .pure _
  | a :: as => .bind (bindTerm a) fun _ => .bind (bindAll as) fun _ => .pure _

end

theorem bindText (text : String) : t.Looks (t.bindText text) :=
  .bind (.lift (Term.ofText text)) fun a => .bind (bindTerm a) fun _ => .pure _

theorem bindOrder (items : List OrderItem) : t.Looks (t.bindOrder items) := by
  unfold Table.bindOrder
  induction items with
  | nil => exact .pure _
  | cons item items ih =>
    rw [List.mapM_cons]
    exact .bind (.bind (.lookUp item.column) fun _ => .pure _) fun _ => .bind ih fun _ => .pure _

/-- Whatever looks up names keeps what is remembered coherent. -/
theorem maintains {α : Type} {m : Binding α} (h : t.Looks m) :
    Maintains t.Coherent m fun _ => True := by
  induction h with
  | lift r => exact .lift trivial
  | lookUp name => exact (lookUp_yields name).mono fun _ _ => trivial
  | bind _ _ ihm ihf => exact ihm.bind (fun a _ => ihf a) fun _ _ => trivial
  | tryCatch _ _ ihm ihf => exact ihm.tryCatch (fun _ _ => trivial) fun e _ => ihf e

end Looks

end Table

end TableFilter
