import TableFilter.Proofs.Catalog.Reachable
import TableFilter.Proofs.Evaluation.Reference

/-!
# Keeping values is invisible

While a row is looked at, the values of computed columns are kept once they are known. An evaluation
gives what it gives without keeping anything, from any kept values that are right, and keeps only
values that are right.

Columns are told apart by place, and a computed column carries its expression with it. That what is
kept for a place is right for each expression that carries a column of this place rests on what
binding does: all of them carry the expression of the column.

## Main definitions

* `Table.ColumnValue`: the value of a computed column on a row
* `Table.KnownOn`: what is kept are values of computed columns
* `evalInTurn`: expressions evaluated one after the other, values being kept from one to the next
* `keeping`: reading a computed column, with any action in place of its expression

## Main results

* `Table.Binds.evalOn_eq_value`: the evaluation of an expression that was bound
* `evalInTurn_eq_value`: evaluations one after the other
-/

namespace TableFilter

/-- The results of expressions evaluated one after the other, values of computed columns being kept
from one to the next. -/
def evalInTurn (s : Surroundings) : List Expr → StateM KnownValues (List (Result Value))
  | [] => return []
  | e :: es => do
    let r ← (e.eval s).run
    return r :: (← evalInTurn s es)

/-- The value that is kept for a computed column, or else what an action gives, converted to the
type of the column and kept from then on. -/
def keeping (c : ColumnHead) (m : Evaluation Value) : Evaluation Value := do
  match (← get).lookup c.index with
  | some known => return known
  | none => do
    let v ← m
    let v ← v.convert c.type
    modify ((c.index, v) :: ·)
    return v

namespace Table

/-- The value that a computed column has where it is converted from its expression. -/
def ColumnValue (t : Table) (s : Surroundings) (k : Nat) (v : Value) : Prop :=
  ∃ c d, t.columns[k]? = some c ∧ t.Defines k d ∧
    Expr.value s (.computed ⟨k, c.name, c.type⟩ d) = .ok v

/-- What is kept are values of computed columns. -/
def KnownOn (t : Table) (s : Surroundings) (known : KnownValues) : Prop :=
  ∀ k v, known.lookup k = some v → t.ColumnValue s k v

/-- An evaluation gives the same result whatever is kept, and keeps values of computed columns
only. -/
abbrev Gives {α : Type} (t : Table) (s : Surroundings) (m : Evaluation α) (r : Result α) : Prop :=
  Maintains (t.KnownOn s) m (· = r)

variable {t : Table} {s : Surroundings}

/-! ### Lists of expressions -/

section Lists

variable {es : List Expr}

theorem evalAll_gives (h : ∀ e ∈ es, t.Gives s (e.eval s) (e.value s)) :
    t.Gives s (Expr.evalAll s es) (Expr.valueAll s es) := by
  induction es with
  | nil => exact .pure rfl
  | cons e es ih =>
    rw [Expr.evalAll, Expr.valueAll]
    refine (h e (List.mem_cons_self ..)).bind_eq fun v _ => ?_
    refine (ih fun e he => h e (List.mem_cons_of_mem _ he)).bind_eq fun vs _ => .pure rfl

theorem evalFirst_gives (h : ∀ e ∈ es, t.Gives s (e.eval s) (e.value s)) (last : Value) :
    t.Gives s (Expr.evalFirst s last es) (Expr.valueFirst s last es) := by
  induction es generalizing last with
  | nil => exact .pure rfl
  | cons e es ih =>
    rw [Expr.evalFirst, Expr.valueFirst]
    refine (h e (List.mem_cons_self ..)).bind_eq fun v _ => ?_
    split
    · exact ih (fun e he => h e (List.mem_cons_of_mem _ he)) v
    · exact .pure rfl

theorem evalBranch_gives (h : ∀ e ∈ es, t.Gives s (e.eval s) (e.value s)) :
    t.Gives s (Expr.evalBranch s es) (Expr.valueBranch s es) := by
  match es with
  | [test, first, second] =>
    rw [Expr.evalBranch, Expr.valueBranch]
    refine (h test (by simp)).bind_eq fun v _ => ?_
    refine Maintains.bind_eq (.lift rfl) fun chosen _ => ?_
    cases chosen with
    | true => exact h first (by simp)
    | false => exact h second (by simp)
  | [] | [_] | [_, _] | _ :: _ :: _ :: _ :: _ => exact .pure rfl

theorem holdsAny_gives (h : ∀ e ∈ es, t.Gives s (e.eval s) (e.value s)) (exact : Bool)
    (probe : Value) :
    t.Gives s (Expr.holdsAny s exact probe es) (Expr.holdsAnyValue s exact probe es) := by
  induction es with
  | nil => exact .pure rfl
  | cons e es ih =>
    rw [Expr.holdsAny, Expr.holdsAnyValue]
    refine (h e (List.mem_cons_self ..)).bind_eq fun v _ => ?_
    refine Maintains.bind_eq (.lift rfl) fun order _ => ?_
    split
    · exact .pure rfl
    · exact ih fun e he => h e (List.mem_cons_of_mem _ he)

/-- A call is evaluated right, if its arguments are. -/
theorem call_gives (f : Builtin) (h : ∀ e ∈ es, t.Gives s (e.eval s) (e.value s)) :
    t.Gives s (Expr.eval s (.call f es)) (Expr.value s (.call f es)) := by
  cases f
  case iif => exact Maintains.bind_eq (.lift rfl) fun _ _ => evalBranch_gives h
  case coalesce => exact Maintains.bind_eq (.lift rfl) fun _ _ => evalFirst_gives h _
  all_goals
    exact Maintains.bind_eq (.lift rfl) fun _ _ =>
      (evalAll_gives h).bind_eq fun _ _ => .lift rfl

/-- A membership test is evaluated right, if its probe and its items are. -/
theorem inList_gives (negated exact : Bool) {e : Expr} (he : t.Gives s (e.eval s) (e.value s))
    (h : ∀ e ∈ es, t.Gives s (e.eval s) (e.value s)) :
    t.Gives s (Expr.eval s (.inList negated exact e es))
      (Expr.value s (.inList negated exact e es)) := by
  rw [Expr.eval, Expr.value]
  refine he.bind_eq fun probe _ => ?_
  split
  · exact .pure rfl
  · exact (holdsAny_gives h exact probe).bind_eq fun _ _ => .pure rfl

end Lists

/-! ### Computed columns -/

/-- A computed column has the value of its expression, converted to its type. -/
theorem ColumnValue.value_eq {c : Column} {k : Nat} {d : Expr} {v : Value}
    (h : t.ColumnValue s k v) (hc : t.columns[k]? = some c) (hd : t.Defines k d) :
    Expr.value s (.computed ⟨k, c.name, c.type⟩ d) = .ok v := by
  obtain ⟨c', d', hc', hd', hv⟩ := h
  obtain rfl := Option.some.inj (hc.symm.trans hc')
  obtain rfl := hd.unique hd'
  exact hv

/-- Reading a computed column keeps what is kept right, if the values of an action in place of its
expression are right. Its results are then of a kind, if the values of the column are and the errors
that can occur. -/
theorem keeping_maintains {c : Column} {k : Nat} {d : Expr} {m : Evaluation Value}
    {first kind : Result Value → Prop} (hc : t.columns[k]? = some c) (hd : t.Defines k d)
    (hm : Maintains (t.KnownOn s) m first) (right : ∀ v, first (.ok v) → d.value s = .ok v)
    (values : ∀ v, t.ColumnValue s k v → kind (.ok v))
    (failed : ∀ e, first (.error e) → kind (.error e))
    (unmatched : ∀ v e, first (.ok v) → v.convert c.type = .error e → kind (.error e)) :
    Maintains (t.KnownOn s) (keeping ⟨k, c.name, c.type⟩ m) kind := by
  refine Maintains.get_bind fun known hknown => ?_
  cases hk : known.lookup k with
  | some v =>
    dsimp only
    exact .pure (values v (hknown k v hk))
  | none =>
    dsimp only
    refine hm.bind (fun v hv => ?_) failed
    have converted : t.Gives s (liftM (v.convert c.type)) (v.convert c.type) := .lift rfl
    refine converted.bind (fun w hw => ?_) fun e he => unmatched v e hv he.symm
    have hcolumn : t.ColumnValue s k w := by
      refine ⟨c, d, hc, hd, ?_⟩
      rw [Expr.value, right v hv]
      exact hw.symm
    have keeps (kept : ∀ known, t.KnownOn s known → t.KnownOn s ((k, w) :: known)) :
        t.Gives s (modify ((k, w) :: ·)) (.ok ⟨⟩) := .modify rfl kept
    refine (keeps fun known hknown => ?_).bind (fun _ _ => .pure (values w hcolumn))
      fun e he => nomatch he
    intro j u hj
    rw [List.lookup_cons] at hj
    split at hj
    case h_1 hjk =>
      obtain rfl := Option.some.inj hj
      exact eq_of_beq hjk ▸ hcolumn
    case h_2 => exact hknown j u hj

/-- A computed column is evaluated right, if its expression is. -/
theorem eval_computed_gives {c : Column} {k : Nat} {d : Expr} (hc : t.columns[k]? = some c)
    (hd : t.Defines k d) (h : t.Gives s (d.eval s) (d.value s)) :
    t.Gives s (Expr.eval s (.computed ⟨k, c.name, c.type⟩ d))
      (Expr.value s (.computed ⟨k, c.name, c.type⟩ d)) := by
  rw [Expr.eval]
  refine keeping_maintains hc hd h (fun v hv => hv.symm) (fun v hv => (hv.value_eq hc hd).symm)
    (fun e he => ?_) fun v e hv he => ?_
  · rw [Expr.value, ← he]
    rfl
  · rw [Expr.value, ← hv]
    exact he.symm

/-! ### All expressions -/

mutual

theorem Resolves.eval_gives {name : String} {c : BoundColumn} :
    t.Resolves name c → t.Gives s (c.toExpr.eval s) (c.toExpr.value s)
  | .stored _ _ _ => .lift rfl
  | .computed _ hc hf hread hbinds =>
    eval_computed_gives hc ⟨_, _, _, hc, hf, hread, hbinds⟩ hbinds.eval_gives

/-- An expression that a term stands for gives what it gives without keeping values. -/
theorem Binds.eval_gives {a : Term} {e : Expr} : t.Binds a e → t.Gives s (e.eval s) (e.value s)
  | .literal _ => .pure rfl
  | .column h => h.eval_gives
  | .unary h => h.eval_gives.bind_eq fun _ _ => .lift rfl
  | .binary hl hr => hl.eval_gives.bind_eq fun _ _ => hr.eval_gives.bind_eq fun _ _ => .lift rfl
  | .nullTest h => h.eval_gives.bind_eq fun _ _ => .pure rfl
  | .inList h hs => inList_gives _ _ h.eval_gives hs.eval_gives
  | .call _ hs => call_gives _ hs.eval_gives

theorem BindsAll.eval_gives {as : List Term} {es : List Expr} :
    t.BindsAll as es → ∀ e ∈ es, t.Gives s (e.eval s) (e.value s)
  | .nil => List.forall_mem_nil _
  | .cons h hs => List.forall_mem_cons.2 ⟨h.eval_gives, hs.eval_gives⟩

end

end Table

/-! ### One after the other -/

section InTurn

variable {t : Table} {s : Surroundings}

/-- From right kept values, expressions give their values one after the other, and what is kept
stays right. -/
theorem evalInTurn_of_knownOn {es : List Expr} (bound : ∀ e ∈ es, t.Bound e) {known : KnownValues}
    (hknown : t.KnownOn s known) :
    ((evalInTurn s es).run known).1 = es.map (·.value s) ∧
      t.KnownOn s ((evalInTurn s es).run known).2 := by
  induction es generalizing known with
  | nil => exact ⟨rfl, hknown⟩
  | cons e es ih =>
    obtain ⟨a, ha⟩ := (bound e (List.mem_cons_self ..)).binds
    obtain ⟨hvalue, hafter⟩ := ha.eval_gives known hknown
    obtain ⟨hvalues, hrest⟩ := ih (fun e he => bound e (List.mem_cons_of_mem _ he)) hafter
    exact ⟨congrArg₂ List.cons hvalue hvalues, hrest⟩

/-- Nothing kept is right. -/
theorem Table.knownOn_nil : t.KnownOn s [] := fun _ _ hk => nomatch hk

/-- With nothing kept before, an expression that a term stands for has its value. -/
theorem Table.Binds.evalOn_eq_value {a : Term} {e : Expr} (h : t.Binds a e) :
    e.evalOn s = e.value s :=
  (h.eval_gives [] Table.knownOn_nil).1

theorem Table.Resolves.evalOn_eq_value {name : String} {c : BoundColumn} (h : t.Resolves name c) :
    c.toExpr.evalOn s = c.toExpr.value s :=
  (Table.Binds.column h).evalOn_eq_value

/-- **Keeping values is invisible.** Expressions that were bound on a table give the same results
one after the other as each of them alone, and as without keeping anything. After each of them what
is kept for a column is its value. -/
theorem evalInTurn_eq_value (t : Table) (s : Surroundings) (es : List Expr)
    (bound : ∀ e ∈ es, t.Bound e) :
    ((evalInTurn s es).run []).1 = es.map (·.evalOn s) ∧
      ((evalInTurn s es).run []).1 = es.map (·.value s) ∧
      ∀ steps k v, ((evalInTurn s (es.take steps)).run []).2.lookup k = some v →
        t.ColumnValue s k v := by
  have hvalues := (evalInTurn_of_knownOn (s := s) bound Table.knownOn_nil).1
  refine ⟨?_, hvalues, fun steps => ?_⟩
  · rw [hvalues]
    refine List.map_congr_left fun e he => ?_
    obtain ⟨a, ha⟩ := (bound e he).binds
    exact ha.evalOn_eq_value.symm
  · have taken : ∀ e ∈ es.take steps, t.Bound e := fun e he => bound e (List.mem_of_mem_take he)
    exact (evalInTurn_of_knownOn taken Table.knownOn_nil).2

/-- The double of two, looked at twice, is kept after the first time. -/
theorem evalInTurn_twice :
    (∀ e ∈ [Table.twice, Table.twice], Table.doubled.Bound e) ∧
      Table.doubled.ColumnValue ⟨⟨default, default⟩, some [.int32 2, .null .int32]⟩ 1
        (.int32 4) := by
  have bound : ∀ e ∈ [Table.twice, Table.twice], Table.doubled.Bound e := by
    simp [Table.twice_bound]
  exact ⟨bound, (evalInTurn_eq_value Table.doubled _ _ bound).2.2 2 1 (.int32 4) rfl⟩

end InTurn

end TableFilter
