import Mathlib
import TableFilter.Proofs.Builtin.Faults
import TableFilter.Proofs.Evaluation.Cache
import TableFilter.Proofs.Value.Types

/-!
# Bound expressions stay well formed

An expression that was bound on a table can be evaluated on each row of the table, now and after all
changes to come: whatever goes wrong comes of values. Names were looked up and counts of arguments
checked when it was bound, and changes of the table keep its columns in their places and its rows
fitting them. For the same reasons a column in it has a value of the type that it is declared with.

All of this holds of the parts of the expression too, among which are the expressions of its
computed columns.

## Main definitions

* `Expr.PartOf`: an expression is part of another

## Main results

* `Table.Binds.of_partOf`: the parts of a bound expression are bound
* `Table.Binds.value_failsByValues`: a bound expression fails because of values only
* `Table.Resolves.dataType_of_value`: the type of what a column gives
* `Table.evaluates_after_changes`: all of this for good
-/

namespace TableFilter

open FailsByValues

/-! ### Parts -/

/-- An expression is part of another: it is that one, or part of an operand, an item, an argument
or the expression of a computed column. -/
inductive Expr.PartOf : Expr → Expr → Prop
  | refl (e : Expr) : PartOf e e
  | definition {part d : Expr} {c : ColumnHead} : PartOf part d → PartOf part (.computed c d)
  | operand {part e : Expr} {op : UnaryOperator} : PartOf part e → PartOf part (.unary op e)
  | left {part a b : Expr} {op : BinaryOperator} : PartOf part a → PartOf part (.binary op a b)
  | right {part a b : Expr} {op : BinaryOperator} : PartOf part b → PartOf part (.binary op a b)
  | only {part a : Expr} {op : BinaryOperator} : PartOf part a → PartOf part (.unfinished op a)
  | tested {part e : Expr} {negated : Bool} : PartOf part e → PartOf part (.nullTest negated e)
  | probe {part e : Expr} {negated exact : Bool} {es : List Expr} : PartOf part e →
      PartOf part (.inList negated exact e es)
  | item {part e f : Expr} {negated exact : Bool} {es : List Expr} : f ∈ es → PartOf part f →
      PartOf part (.inList negated exact e es)
  | argument {part e : Expr} {f : Builtin} {es : List Expr} : e ∈ es → PartOf part e →
      PartOf part (.call f es)

theorem BoundColumn.toExpr_injective {b c : BoundColumn} (h : b.toExpr = c.toExpr) : b = c := by
  obtain ⟨head, _ | d⟩ := b <;> obtain ⟨head', _ | d'⟩ := c <;> cases h <;> rfl

namespace Table

variable {t : Table} {part : Expr}

mutual

theorem Resolves.of_partOf {name : String} {c : BoundColumn} :
    t.Resolves name c → part.PartOf c.toExpr → ∃ b, t.Binds b part
  | .stored hk hc hf, h => by
    cases (h : part.PartOf (.column _))
    exact ⟨_, .column (.stored hk hc hf)⟩
  | .computed hk hc hf hread hbinds, h => by
    cases (h : part.PartOf (.computed _ _)) with
    | refl => exact ⟨_, .column (.computed hk hc hf hread hbinds)⟩
    | definition h => exact hbinds.of_partOf h

/-- The parts of an expression that a term stands for are what terms stand for. -/
theorem Binds.of_partOf {a : Term} {e : Expr} : t.Binds a e → part.PartOf e → ∃ b, t.Binds b part
  | .literal v, h => by
    cases h
    exact ⟨_, .literal v⟩
  | .column hc, h => hc.of_partOf h
  | .unary ha, h => by
    cases h with
    | refl => exact ⟨_, .unary ha⟩
    | operand h => exact ha.of_partOf h
  | .binary ha hb, h => by
    cases h with
    | refl => exact ⟨_, .binary ha hb⟩
    | left h => exact ha.of_partOf h
    | right h => exact hb.of_partOf h
  | .nullTest ha, h => by
    cases h with
    | refl => exact ⟨_, .nullTest ha⟩
    | tested h => exact ha.of_partOf h
  | .inList ha hs, h => by
    cases h with
    | refl => exact ⟨_, .inList ha hs⟩
    | probe h => exact ha.of_partOf h
    | item hf h => exact hs.of_partOf _ hf h
  | .call hf hs, h => by
    cases h with
    | refl => exact ⟨_, .call hf hs⟩
    | argument he h => exact hs.of_partOf _ he h

theorem BindsAll.of_partOf {as : List Term} {es : List Expr} :
    t.BindsAll as es → ∀ e ∈ es, part.PartOf e → ∃ b, t.Binds b part
  | .nil => List.forall_mem_nil _
  | .cons ha hs => List.forall_mem_cons.2 ⟨ha.of_partOf, hs.of_partOf⟩

end

/-- A column that a term stands for is what a name stands for. -/
theorem Binds.resolves {a : Term} {c : BoundColumn} (h : t.Binds a c.toExpr) :
    ∃ name, t.Resolves name c := by
  generalize he : c.toExpr = e at h
  cases h with
  | column hc => exact ⟨_, BoundColumn.toExpr_injective he ▸ hc⟩
  | _ => obtain ⟨head, _ | d⟩ := c <;> cases he

/-- An operation that lacks its right operand is no part of a bound expression. -/
theorem Binds.ne_unfinished {a : Term} {e : Expr} (h : t.Binds a e) (hpart : part.PartOf e)
    (op : BinaryOperator) (left : Expr) : part ≠ .unfinished op left := by
  rintro rfl
  obtain ⟨b, hb⟩ := h.of_partOf hpart
  generalize he : Expr.unfinished op left = e at hb
  cases hb with
  | @column _ c _ => obtain ⟨head, _ | d⟩ := c <;> cases he
  | _ => cases he

end Table

/-! ### Values of expressions -/

/-- A fitting row holds a value of its type for each column. -/
theorem Row.Fits.exists_value {columns : List Column} {row : Row} (h : row.Fits columns) {k : Nat}
    {c : Column} (hc : columns[k]? = some c) :
    ∃ v, row.value k = .ok v ∧ v.dataType = c.type := by
  have hk : k < row.length := h.length_eq ▸ (List.getElem?_eq_some_iff.1 hc).1
  have hv : row[k]? = some row[k] := List.getElem?_eq_getElem hk
  exact ⟨row[k], by rw [value, hv], h.dataType hc hv⟩

namespace Expr

/-- Each expression of a list has one value. -/
theorem length_of_valueAll {s : Surroundings} {es : List Expr} {vs : List Value}
    (h : valueAll s es = .ok vs) : vs.length = es.length := by
  induction es generalizing vs with
  | nil => exact Except.ok.inj h ▸ rfl
  | cons e es ih =>
    obtain ⟨v, -, h⟩ := Result.bind_eq_ok.1 h
    obtain ⟨vs, hvs, h⟩ := Result.bind_eq_ok.1 h
    rw [← Except.ok.inj h, List.length_cons, List.length_cons, ih hvs]

section Lists

variable {s : Surroundings} {es : List Expr} (h : ∀ e ∈ es, FailsByValues (e.value s))

include h

theorem valueAll_failsByValues : FailsByValues (valueAll s es) := by
  induction es with
  | nil => exact .ok []
  | cons e es ih =>
    obtain ⟨he, hes⟩ := List.forall_mem_cons.1 h
    exact bind he fun v => bind (ih hes) fun vs => .ok _

theorem valueFirst_failsByValues (last : Value) : FailsByValues (valueFirst s last es) := by
  induction es generalizing last with
  | nil => exact .ok last
  | cons e es ih =>
    obtain ⟨he, hes⟩ := List.forall_mem_cons.1 h
    refine bind he fun v => ?_
    split
    · exact ih hes v
    · exact .ok v

theorem valueBranch_failsByValues : FailsByValues (valueBranch s es) := by
  match es with
  | [test, first, second] =>
    refine bind (h test (by simp)) fun v => bind (Builtin.iifTest_failsByValues v) fun chosen => ?_
    cases chosen with
    | true => exact h first (by simp)
    | false => exact h second (by simp)
  | [] | [_] | [_, _] | _ :: _ :: _ :: _ :: _ => exact .ok _

theorem holdsAnyValue_failsByValues (exact : Bool) (probe : Value) :
    FailsByValues (holdsAnyValue s exact probe es) := by
  induction es with
  | nil => exact .ok false
  | cons e es ih =>
    obtain ⟨he, hes⟩ := List.forall_mem_cons.1 h
    refine bind he fun v => bind (probe.compare_failsByValues exact v) fun order => ?_
    split
    · exact .ok true
    · exact ih hes

/-- A call fails because of values only, if its arguments do and their count is accepted. -/
theorem call_failsByValues {f : Builtin} (hcount : f.checkCount es.length = .ok ()) :
    FailsByValues (value s (.call f es)) := by
  have counted : FailsByValues (f.checkCount es.length) := hcount ▸ .ok ()
  cases f
  case iif => exact bind counted fun _ => valueBranch_failsByValues h
  case coalesce => exact bind counted fun _ => valueFirst_failsByValues h _
  all_goals
    refine bind counted fun _ => bind_of_eq (valueAll_failsByValues h) fun vs hvs => ?_
    exact Builtin.call_failsByValues _ vs s.clock (length_of_valueAll hvs ▸ hcount)

end Lists

end Expr

namespace Table

variable {t u : Table} {clock : Clock} {row : Row}

theorem BindsAll.length_eq {as : List Term} {es : List Expr} :
    t.BindsAll as es → es.length = as.length
  | .nil => rfl
  | .cons _ hs => congrArg (· + 1) hs.length_eq

mutual

theorem Resolves.value_failsByValues {name : String} {c : BoundColumn}
    (fits : row.Fits t.columns) :
    t.Resolves name c → FailsByValues (c.toExpr.value ⟨clock, some row⟩)
  | .stored _ hc _ => by
    obtain ⟨v, hv, -⟩ := fits.exists_value hc
    change FailsByValues (row.value _)
    exact hv ▸ .ok v
  | .computed _ _ _ _ hbinds =>
    bind (hbinds.value_failsByValues fits) fun v => v.convert_failsByValues _

/-- On a fitting row an expression that a term stands for fails because of values only. -/
theorem Binds.value_failsByValues {a : Term} {e : Expr} (fits : row.Fits t.columns) :
    t.Binds a e → FailsByValues (e.value ⟨clock, some row⟩)
  | .literal v => .ok v
  | .column hc => hc.value_failsByValues fits
  | .unary ha => bind (ha.value_failsByValues fits) fun v => UnaryOperator.apply_failsByValues _ v
  | .binary ha hb =>
    bind (ha.value_failsByValues fits) fun v =>
      bind (hb.value_failsByValues fits) fun w => BinaryOperator.apply_failsByValues _ v w
  | .nullTest ha => bind (ha.value_failsByValues fits) fun v => .ok _
  | .inList ha hs => by
    refine bind (ha.value_failsByValues fits) fun probe => ?_
    split
    · exact .ok _
    · have hitems := hs.value_failsByValues fits
      exact bind (Expr.holdsAnyValue_failsByValues hitems _ probe) fun found => .ok _
  | .call hcount hs =>
    Expr.call_failsByValues (hs.value_failsByValues fits) (hs.length_eq ▸ hcount)

theorem BindsAll.value_failsByValues {as : List Term} {es : List Expr}
    (fits : row.Fits t.columns) :
    t.BindsAll as es → ∀ e ∈ es, FailsByValues (e.value ⟨clock, some row⟩)
  | .nil => List.forall_mem_nil _
  | .cons ha hs => List.forall_mem_cons.2 ⟨ha.value_failsByValues fits, hs.value_failsByValues fits⟩

end

/-- On a fitting row a column gives values of its type only. -/
theorem Resolves.dataType_of_value {name : String} {c : BoundColumn} (h : t.Resolves name c)
    (fits : row.Fits t.columns) {v : Value} (hv : c.toExpr.value ⟨clock, some row⟩ = .ok v) :
    v.dataType = c.head.type := by
  cases h with
  | stored _ hc _ =>
    obtain ⟨w, hw, htype⟩ := fits.exists_value hc
    exact Except.ok.inj (hw.symm.trans hv) ▸ htype
  | computed =>
    obtain ⟨w, -, hw⟩ := Result.bind_eq_ok.1 hv
    exact Value.dataType_of_convert hw

/-! ### Changes to come -/

theorem Reachable.changes (h : t.Reachable) (later : Relation.ReflTransGen Changes t u) :
    u.Reachable := by
  induction later with
  | refl => exact h
  | tail _ change ih => exact ih.change change

theorem columns_isPrefix_of_changes (later : Relation.ReflTransGen Changes t u) :
    t.columns <+: u.columns := by
  induction later with
  | refl => exact List.prefix_rfl
  | tail _ change ih => exact ih.trans change.columns_isPrefix

/-- **What was bound stays well formed.** Let a text be bound on a reachable table, and let the
table change after that. Whichever part of the bound expression is evaluated on whichever row that
the table then has, and whatever values of computed columns are kept from before: an error comes of
values, so that no text is malformed, no name or place missing and no count of arguments wrong, and
no operation lacks its right operand. Each column stands for one that the table has and gives values
of the type that this is declared with. -/
theorem evaluates_after_changes (reachable : t.Reachable) {text : String} {tree : Tree}
    (bound : (t.remembering (·.bindText text)).1 = .ok tree)
    (later : Relation.ReflTransGen Changes (t.remembering (·.bindText text)).2 u)
    (hrow : row ∈ u.rows) (clock : Clock) {known : KnownValues}
    (hknown : u.KnownOn ⟨clock, some row⟩ known) {part : Expr} (hpart : part.PartOf tree.root) :
    (∀ e, ((part.eval ⟨clock, some row⟩).run known).1 = .error e →
        e.OfValues ∧ ∀ op, e ≠ .evaluation (.missingOperand op)) ∧
      (∀ op left, part ≠ .unfinished op left) ∧
      ∀ c : BoundColumn, part = c.toExpr →
        ∃ column, u.columns[c.head.index]? = some column ∧
          c.head = ⟨c.head.index, column.name, column.type⟩ ∧
          ∀ v, ((part.eval ⟨clock, some row⟩).run known).1 = .ok v → v.dataType = column.type := by
  have changes : Relation.ReflTransGen Changes t u := .head (.binds (Looks.bindText text)) later
  obtain ⟨a, hroot⟩ := (bindText_yields text).remembering reachable.coherent bound
  obtain ⟨b, hbinds⟩ := (hroot.mono (columns_isPrefix_of_changes changes)).of_partOf hpart
  have heval : ((part.eval ⟨clock, some row⟩).run known).1 = part.value ⟨clock, some row⟩ :=
    (hbinds.eval_gives known hknown).1
  have fits : row.Fits u.columns := (reachable.changes changes).fits row hrow
  rw [heval]
  refine ⟨fun e he => ?_, fun op left => hbinds.ne_unfinished (.refl part) op left, ?_⟩
  · have values : e.OfValues := hbinds.value_failsByValues fits e he
    refine ⟨values, ?_⟩
    rintro op rfl
    exact values
  rintro c rfl
  obtain ⟨name, hresolves⟩ := hbinds.resolves
  obtain ⟨k, column, -, hcolumn, hhead⟩ := hresolves.head_eq
  refine ⟨column, by rw [hhead, hcolumn], by rw [hhead], fun v hv => ?_⟩
  rw [hresolves.dataType_of_value fits hv, hhead]

/-- The error of an operation that lacks its right operand, once its left one has a value. -/
example :
    (Expr.unfinished (.arithmetic .add) (.literal (.int32 1))).evalOn ⟨⟨default, default⟩, none⟩ =
      .error (.evaluation (.missingOperand (.arithmetic .add))) := rfl

/-- Ten divided by the double. -/
def tenByTwice : Expr := .binary (.arithmetic .divide) (.literal (.int32 10)) twice

/-- The table after the quotient was bound. -/
def divided : Table where
  name := doubling.name
  columns := doubling.columns
  rows := doubling.rows
  bound := [(1, .binary (.arithmetic .add) (.column ⟨0, "N", .int32⟩) (.column ⟨0, "N", .int32⟩))]

/-- The same table with a value set to zero. -/
def zeroed : Table :=
  { divided with rows := [[.int32 0, .null .int32], [.int32 1, .null .int32]] }

/-- After a value was set to zero, the quotient divides by zero, and the double is zero. -/
theorem tenByTwice_after_changes :
    doubling.Reachable ∧
      (doubling.remembering (·.bindText "10 / Twice")).1 = .ok (.ofRoot "Doubling" tenByTwice) ∧
      Relation.ReflTransGen Changes (doubling.remembering (·.bindText "10 / Twice")).2 zeroed ∧
      [.int32 0, .null .int32] ∈ zeroed.rows ∧
      (tenByTwice.evalOn ⟨⟨default, default⟩, some [.int32 0, .null .int32]⟩ =
        .error .divisionByZero ∧ Error.divisionByZero.OfValues) ∧
      twice.PartOf tenByTwice ∧
      twice.evalOn ⟨⟨default, default⟩, some [.int32 0, .null .int32]⟩ = .ok (.int32 0) ∧
        (Value.int32 0).dataType = .int32 := by
  have hbind : doubling.remembering (·.bindText "10 / Twice") =
      (.ok (.ofRoot "Doubling" tenByTwice), divided) := by cbv
  have bound := congrArg Prod.fst hbind
  have later : Relation.ReflTransGen Changes
      (doubling.remembering (·.bindText "10 / Twice")).2 zeroed := by
    rw [hbind]
    exact .single (.setValue (show divided.setValue 0 0 (.int32 0) = .ok zeroed from rfl))
  have hrow : [.int32 0, .null .int32] ∈ zeroed.rows := .head _
  have hpart : twice.PartOf tenByTwice := .right (.refl twice)
  have divides : tenByTwice.evalOn ⟨⟨default, default⟩, some [.int32 0, .null .int32]⟩ =
      .error .divisionByZero := by cbv
  have doubles : twice.evalOn ⟨⟨default, default⟩, some [.int32 0, .null .int32]⟩ =
      .ok (.int32 0) := by cbv
  have whole := evaluates_after_changes doubling_reachable bound later hrow ⟨default, default⟩
    knownOn_nil (.refl tenByTwice)
  have double := evaluates_after_changes doubling_reachable bound later hrow ⟨default, default⟩
    knownOn_nil hpart
  obtain ⟨column, hcolumn, -, htype⟩ := double.2.2 ⟨⟨1, "Twice", .int32⟩, some _⟩ rfl
  cases (show some ⟨"Twice", .int32, some "N + N"⟩ = some column from hcolumn)
  exact ⟨doubling_reachable, bound, later, hrow, ⟨divides, (whole.1 _ divides).1⟩, hpart, doubles,
    htype _ doubles⟩

end Table

end TableFilter
