import Mathlib.Data.List.Perm.Subperm
import TableFilter.Proofs.Binding.Soundness

/-!
# Completeness of binding

What a name or a term stands for is found, from whatever is remembered, as long as that is coherent.

Two things could keep it from being found: the depth to which formulas are followed, and the refusal
of a column whose formula is being followed already. Depth suffices because the columns that are
followed are columns of the table and none of them is followed twice. No column is refused, because
an expression that computes a column is larger than each expression that it embeds: a column that a
formula leads to is computed by less than the column with the formula.

A name that stands for nothing fails, and its error does not depend on what is remembered either:
the columns that lead to it stand for nothing, so that none of them can have been remembered.

## Main definitions

* `Table.HasRoom`: columns that are being followed, and a depth that suffices for the others
* `Table.Encloses`: columns that are being followed are computed by something larger

## Main results

* `Table.Resolves.lookUp_finds`, `Table.Binds.bindTerm_finds`: what names and terms stand for is
  found
* `Table.Looks.isSteady`: whatever looks up names has one result from all that can be remembered
-/

namespace TableFilter

namespace Table

variable {t : Table} {depth : Nat} {resolving : List Nat}

/-! ### Columns that are being followed -/

/-- Columns of the table, none of them twice, and a depth that suffices for all other columns. -/
structure HasRoom (t : Table) (depth : Nat) (resolving : List Nat) : Prop where
  /-- No column is followed twice. -/
  nodup : resolving.Nodup
  /-- Each place is that of a column. -/
  lt_length : ∀ k ∈ resolving, k < t.columns.length
  /-- The depth suffices for the columns besides. -/
  length_le : t.columns.length ≤ depth + resolving.length

theorem HasRoom.start (t : Table) : t.HasRoom t.columns.length [] :=
  ⟨List.nodup_nil, List.forall_mem_nil _, Nat.le_add_right _ _⟩

/-- Another column can be followed, which takes one off the depth. -/
theorem HasRoom.push (room : t.HasRoom depth resolving) {k : Nat} (hk : k < t.columns.length)
    (hnew : k ∉ resolving) : ∃ d, depth = d + 1 ∧ t.HasRoom d (k :: resolving) := by
  have nodup : (k :: resolving).Nodup := List.nodup_cons.2 ⟨hnew, room.nodup⟩
  have columns : ∀ j ∈ k :: resolving, j < t.columns.length :=
    List.forall_mem_cons.2 ⟨hk, room.lt_length⟩
  have hlength : (k :: resolving).length ≤ t.columns.length := by
    have hsubset : k :: resolving ⊆ List.range t.columns.length :=
      fun j hj => List.mem_range.2 (columns j hj)
    simpa using (List.subperm_of_subset nodup hsubset).length_le
  have hle := room.length_le
  rw [List.length_cons] at hlength
  obtain _ | d := depth
  · omega
  · exact ⟨d, rfl, nodup, columns, by rw [List.length_cons]; omega⟩

/-- What computes the columns that are being followed is at least as large as an expression, or as
a list of expressions. -/
def Encloses {α : Type} [SizeOf α] (t : Table) (resolving : List Nat) (e : α) : Prop :=
  ∀ k ∈ resolving, ∀ d, t.Defines k d → sizeOf e ≤ sizeOf d

theorem Encloses.mono {α β : Type} [SizeOf α] [SizeOf β] {e : α} {f : β}
    (h : t.Encloses resolving e) (le : sizeOf f ≤ sizeOf e) : t.Encloses resolving f :=
  fun k hk d hd => Nat.le_trans le (h k hk d hd)

/-- A computed column that is enclosed is not being followed. -/
theorem Encloses.notMem {head : ColumnHead} {e : Expr}
    (h : t.Encloses resolving (Expr.computed head e)) {k : Nat} (hd : t.Defines k e) :
    k ∉ resolving := by
  intro hk
  have hle := h k hk e hd
  rw [Expr.computed.sizeOf_spec] at hle
  omega

/-- What computes a column that is enclosed is enclosed where this column is followed besides. -/
theorem Encloses.push {head : ColumnHead} {e : Expr}
    (h : t.Encloses resolving (Expr.computed head e)) {k : Nat} (hd : t.Defines k e) :
    t.Encloses (k :: resolving) e := by
  refine List.forall_mem_cons.2 ⟨fun d hd' => hd.unique hd' ▸ Nat.le_refl _, fun j hj d hd' => ?_⟩
  exact Nat.le_trans (by rw [Expr.computed.sizeOf_spec]; omega) (h j hj d hd')

/-! ### What a name stands for is found -/

/-- An action that gives a value, whatever is remembered. -/
abbrev Finds {α : Type} (t : Table) (m : Binding α) (a : α) : Prop :=
  Maintains t.Coherent m (· = .ok a)

theorem Finds.bind {α β : Type} {m : Binding α} {f : α → Binding β} {a : α} {b : β}
    (hm : t.Finds m a) (hf : t.Finds (f a) b) : t.Finds (m >>= f) b :=
  Maintains.bind hm (fun _ ha => Except.ok.inj ha ▸ hf) fun _ he => nomatch he

section Steps

variable {inner : Nat → Column → String → Binding BoundColumn} {name : String} {k : Nat}
  {c : Column} {formula : String} {term : Term} {e : Expr}

theorem definitionOf_finds {lookUp : String → Binding BoundColumn} (hd : t.Defines k e)
    (hread : Term.ofText formula = .ok term) (hnew : k ∉ resolving)
    (h : t.Finds (term.bindWith lookUp) e) :
    t.Finds (t.definitionOf resolving k c formula lookUp) e := by
  refine Maintains.get_bind fun bound hbound => ?_
  cases hk : bound.lookup k with
  | some known => exact .pure (congrArg _ ((hbound k known hk).unique hd))
  | none =>
    dsimp only
    rw [if_neg (by simpa using hnew)]
    have read : t.Finds (liftM (Term.ofText formula)) term := .lift hread
    exact read.bind (h.bind (remember_eq hd))

theorem lookUpBy_stored (hk : t.columnIndex? name = some k) (hc : t.columns[k]? = some c)
    (hf : c.formula = none) :
    t.Finds (t.lookUpBy resolving inner name) ⟨⟨k, c.name, c.type⟩, none⟩ := by
  simp only [lookUpBy, hk, hc, hf]
  exact .pure rfl

theorem lookUpBy_computed (hk : t.columnIndex? name = some k) (hc : t.columns[k]? = some c)
    (hf : c.formula = some formula)
    (h : t.Finds (t.definitionOf resolving k c formula (inner k c)) e) :
    t.Finds (t.lookUpBy resolving inner name) ⟨⟨k, c.name, c.type⟩, some e⟩ := by
  simp only [lookUpBy, hk, hc, hf]
  exact h.bind (.pure rfl)

end Steps

mutual

theorem Resolves.lookUpTo_finds {name : String} {b : BoundColumn} : t.Resolves name b →
    ∀ {depth resolving}, t.HasRoom depth resolving → t.Encloses resolving b.toExpr →
      t.Finds (t.lookUpTo depth resolving name) b
  | .stored hk hc hf, depth, _, _, _ => by
    cases depth <;> exact lookUpBy_stored hk hc hf
  | .computed hk hc hf hread hbinds, _, _, room, enclosed => by
    have hd : t.Defines _ _ := ⟨_, _, _, hc, hf, hread, hbinds⟩
    have hnew := enclosed.notMem hd
    obtain ⟨d, rfl, room'⟩ := room.push (List.getElem?_eq_some_iff.1 hc).1 hnew
    refine lookUpBy_computed hk hc hf (definitionOf_finds hd hread hnew ?_)
    exact hbinds.bindWith_finds room' (enclosed.push hd)

theorem Binds.bindWith_finds {a : Term} {e : Expr} : t.Binds a e →
    ∀ {depth resolving}, t.HasRoom depth resolving → t.Encloses resolving e →
      t.Finds (a.bindWith (t.lookUpTo depth resolving)) e
  | .literal _, _, _, _, _ => .pure rfl
  | .column h, _, _, room, enclosed => (h.lookUpTo_finds room enclosed).bind (.pure rfl)
  | .unary h, _, _, room, enclosed =>
    (h.bindWith_finds room (enclosed.mono (by simp))).bind (.pure rfl)
  | .binary hl hr, _, _, room, enclosed => by
    have left := hl.bindWith_finds room (enclosed.mono (by simp; omega))
    have right := hr.bindWith_finds room (enclosed.mono (by simp))
    exact left.bind (right.bind (.pure rfl))
  | .nullTest h, _, _, room, enclosed =>
    (h.bindWith_finds room (enclosed.mono (by simp))).bind (.pure rfl)
  | .inList h hs, _, _, room, enclosed => by
    have probe := h.bindWith_finds room (enclosed.mono (by simp; omega))
    have items := hs.bindAllWith_finds room (enclosed.mono (by simp))
    exact probe.bind (items.bind (.pure rfl))
  | .call hf hs, _, _, room, enclosed => by
    have count : t.Finds (liftM (Builtin.checkCount _ _)) () := .lift hf
    have args := hs.bindAllWith_finds room (enclosed.mono (by simp))
    exact count.bind (args.bind (.pure rfl))

theorem BindsAll.bindAllWith_finds {as : List Term} {es : List Expr} : t.BindsAll as es →
    ∀ {depth resolving}, t.HasRoom depth resolving → t.Encloses resolving es →
      t.Finds (Term.bindAllWith (t.lookUpTo depth resolving) as) es
  | .nil, _, _, _, _ => .pure rfl
  | .cons h hs, _, _, room, enclosed => by
    have first := h.bindWith_finds room (enclosed.mono (by simp; omega))
    have further := hs.bindAllWith_finds room (enclosed.mono (by simp))
    exact first.bind (further.bind (.pure rfl))

end

theorem encloses_nil {α : Type} [SizeOf α] (e : α) : t.Encloses [] e := List.forall_mem_nil _

/-- What a name stands for is found. -/
theorem Resolves.lookUp_finds {name : String} {b : BoundColumn} (h : t.Resolves name b) :
    t.Finds (t.lookUp name) b :=
  h.lookUpTo_finds (.start t) (encloses_nil _)

/-- What a term stands for is found. -/
theorem Binds.bindTerm_finds {a : Term} {e : Expr} (h : t.Binds a e) :
    t.Finds (t.bindTerm a) e :=
  h.bindWith_finds (.start t) (encloses_nil _)

/-! ### One result from all that can be remembered -/

/-- An action with one result from whatever is remembered. -/
abbrev Steady {α : Type} (t : Table) (m : Binding α) : Prop := IsSteady t.Coherent m

section Term

variable {lookUp : String → Binding BoundColumn}

mutual

theorem bindWith_steady (h : ∀ name, t.Steady (lookUp name)) :
    ∀ a : Term, t.Steady (a.bindWith lookUp)
  | .literal _ => .pure _
  | .column name => (h name).bind fun _ => .pure _
  | .unary _ a => (bindWith_steady h a).bind fun _ => .pure _
  | .binary _ a b => (bindWith_steady h a).bind fun _ => (bindWith_steady h b).bind fun _ => .pure _
  | .nullTest _ a => (bindWith_steady h a).bind fun _ => .pure _
  | .inList _ _ a items =>
    (bindWith_steady h a).bind fun _ => (bindAllWith_steady h items).bind fun _ => .pure _
  | .call _ args =>
    (IsSteady.lift _).bind fun _ => (bindAllWith_steady h args).bind fun _ => .pure _

theorem bindAllWith_steady (h : ∀ name, t.Steady (lookUp name)) :
    ∀ as : List Term, t.Steady (Term.bindAllWith lookUp as)
  | [] => .pure _
  | a :: as => (bindWith_steady h a).bind fun _ => (bindAllWith_steady h as).bind fun _ => .pure _

end

end Term

/-- A computed column that no expression computes has one error: nothing can be remembered for it,
and its formula fails to bind. -/
theorem definitionOf_steady {k : Nat} {c : Column} {formula : String}
    {lookUp : String → Binding BoundColumn} (hc : t.columns[k]? = some c)
    (hf : c.formula = some formula) (undefined : ∀ d, ¬t.Defines k d)
    (sound : ∀ name, t.Yields (lookUp name) (t.Resolves name))
    (h : k ∉ resolving → ∀ name, t.Steady (lookUp name)) :
    t.Steady (t.definitionOf resolving k c formula lookUp) := by
  have fails : t.Steady (if resolving.contains k then
        throw (.resolution (.selfReference c.name t.name))
      else do
        let term ← Term.ofText formula
        remember k (← term.bindWith lookUp)) := by
    split
    · exact .throw _
    · next hnew =>
      cases hread : Term.ofText formula with
      | error e => exact .throw e
      | ok term =>
        obtain ⟨r, hr⟩ := bindWith_steady (h (by simpa using hnew)) term
        have nothing : ∀ e, r ≠ .ok e := by
          rintro e rfl
          have hbinds : t.Binds term e :=
            (bindWith_yields sound term [] coherent_nil).1 e (hr [] coherent_nil).1
          exact undefined e ⟨c, formula, term, hc, hf, hread, hbinds⟩
        obtain e | e := r
        · exact ⟨.error e, hr.bind (fun _ ha => nomatch ha) fun _ he => by rw [Except.error.inj he]⟩
        · exact absurd rfl (nothing e)
  obtain ⟨r, hr⟩ := fails
  refine ⟨r, Maintains.get_bind fun bound hbound => ?_⟩
  cases hk : bound.lookup k with
  | some known => exact absurd (hbound k known hk) (undefined known)
  | none => exact hr

theorem lookUpBy_steady {inner : Nat → Column → String → Binding BoundColumn} {name : String}
    (nothing : ∀ b, ¬t.Resolves name b)
    (sound : ∀ k c name, t.Yields (inner k c name) (t.Resolves name))
    (h : ∀ k c, k < t.columns.length → (∀ d, ¬t.Defines k d) → k ∉ resolving →
      ∀ name, t.Steady (inner k c name)) :
    t.Steady (t.lookUpBy resolving inner name) := by
  unfold lookUpBy
  split
  · exact .throw _
  · next k hk =>
    split
    · exact .throw _
    · next c hc =>
      split
      · exact .pure _
      · next formula hf =>
        have undefined : ∀ d, ¬t.Defines k d := fun d hd => nothing _ (resolves_of_defines hk hc hd)
        have hlength := (List.getElem?_eq_some_iff.1 hc).1
        refine (definitionOf_steady hc hf undefined (sound k c) (h k c hlength undefined)).bind ?_
        exact fun _ => .pure _

theorem Resolves.lookUpTo_steady {name : String} {b : BoundColumn} (h : t.Resolves name b)
    (room : t.HasRoom depth resolving) (undefined : ∀ k ∈ resolving, ∀ d, ¬t.Defines k d) :
    t.Steady (t.lookUpTo depth resolving name) :=
  ⟨.ok b, h.lookUpTo_finds room fun k hk d hd => absurd hd (undefined k hk d)⟩

/-- Where the columns that are being followed stand for nothing, a name has one result. -/
theorem lookUpTo_steady (depth : Nat) : ∀ {resolving : List Nat}, t.HasRoom depth resolving →
    (∀ k ∈ resolving, ∀ d, ¬t.Defines k d) →
      ∀ name, t.Steady (t.lookUpTo depth resolving name) := by
  induction depth with
  | zero =>
    intro resolving room undefined name
    rcases Classical.em (∃ b, t.Resolves name b) with ⟨b, hb⟩ | hname
    · exact hb.lookUpTo_steady room undefined
    · exact lookUpBy_steady (not_exists.1 hname) (fun _ _ _ => .throw _) fun _ _ _ _ _ _ => .throw _
  | succ depth ih =>
    intro resolving room undefined name
    rcases Classical.em (∃ b, t.Resolves name b) with ⟨b, hb⟩ | hname
    · exact hb.lookUpTo_steady room undefined
    · refine lookUpBy_steady (not_exists.1 hname) (fun k _ => lookUpTo_yields depth _) ?_
      intro k c hk hundefined hnew name
      obtain ⟨d, hd, room'⟩ := room.push hk hnew
      obtain rfl := Nat.succ.inj hd
      exact ih room' (List.forall_mem_cons.2 ⟨hundefined, undefined⟩) name

/-- A name has one result from whatever is remembered. -/
theorem lookUp_steady (name : String) : t.Steady (t.lookUp name) :=
  lookUpTo_steady t.columns.length (.start t) (List.forall_mem_nil _) name

/-- Whatever looks up names has one result from all that can be remembered. -/
theorem Looks.isSteady {α : Type} {m : Binding α} (h : t.Looks m) : t.Steady m := by
  induction h with
  | lift r => exact .lift r
  | lookUp name => exact lookUp_steady name
  | bind _ _ ihm ihf => exact ihm.bind ihf
  | tryCatch _ _ ihm ihf => exact ihm.tryCatch ihf

end Table

end TableFilter
