import TableFilter.Proofs.Evaluation.Soundness

/-!
# What values depend on

The value of an expression depends on its parts only: on the stored columns among them, and on what
the functions give that it calls. A bound expression reads columns of its table, so further columns
of a row make no difference to it. The time makes none if no function shows it.

## Main definitions

* `Expr.AgreeOn`: two surroundings that agree on the parts of an expression
* `Expr.IsTimeless`: no part shows the time

## Main results

* `Expr.AgreeOn.value_eq`: surroundings that agree give the same value
* `Table.Binds.evalOn_append`: a bound expression on a row with further columns
* `Table.Binds.evalOn_of_isTimeless`: a bound expression at another time
-/

namespace TableFilter

namespace Expr

/-- Two surroundings agree on an expression: the stored columns in it have the same values, and the
functions that it calls give the same. -/
structure AgreeOn (s s' : Surroundings) (e : Expr) : Prop where
  /-- The stored columns have the same values. -/
  read_eq : ∀ c, PartOf (.column c) e → s'.read c = s.read c
  /-- The functions give the same. -/
  call_eq : ∀ f es, PartOf (.call f es) e → f.call s'.clock = f.call s.clock

/-- No function shows the time. -/
def IsTimeless (e : Expr) : Prop :=
  ∀ f es, PartOf (.call f es) e → f ≠ .now ∧ f ≠ .utcNow

variable {s s' : Surroundings}

/-- Surroundings agree on what has no further parts. -/
theorem AgreeOn.of_parts {e f : Expr} (h : AgreeOn s s' e)
    (parts : ∀ part, PartOf part f → PartOf part e) : AgreeOn s s' f :=
  ⟨fun c hc => h.read_eq c (parts _ hc), fun g es hg => h.call_eq g es (parts _ hg)⟩

namespace IsTimeless

theorem literal (v : Value) : (Expr.literal v).IsTimeless := by
  intro f es h
  cases h

theorem column (c : ColumnHead) : (Expr.column c).IsTimeless := by
  intro f es h
  cases h

theorem computed {c : ColumnHead} {d : Expr} (h : d.IsTimeless) :
    (Expr.computed c d).IsTimeless := by
  intro f es hf
  cases hf with
  | definition hf => exact h f es hf

theorem binary {op : BinaryOperator} {a b : Expr} (ha : a.IsTimeless) (hb : b.IsTimeless) :
    (Expr.binary op a b).IsTimeless := by
  intro f es hf
  cases hf with
  | left hf => exact ha f es hf
  | right hf => exact hb f es hf

end IsTimeless

/-! ### Lists of expressions -/

section Lists

variable {es : List Expr} (h : ∀ e ∈ es, e.value s' = e.value s)

include h

theorem valueAll_eq : valueAll s' es = valueAll s es := by
  induction es with
  | nil => rfl
  | cons e es ih =>
    obtain ⟨he, hes⟩ := List.forall_mem_cons.1 h
    rw [valueAll, valueAll, he, ih hes]

theorem valueFirst_eq (last : Value) : valueFirst s' last es = valueFirst s last es := by
  induction es generalizing last with
  | nil => rfl
  | cons e es ih =>
    obtain ⟨he, hes⟩ := List.forall_mem_cons.1 h
    simp only [valueFirst, he, ih hes]

theorem valueBranch_eq : valueBranch s' es = valueBranch s es := by
  match es with
  | [test, first, second] =>
    rw [valueBranch, valueBranch, h test (by simp), h first (by simp), h second (by simp)]
  | [] | [_] | [_, _] | _ :: _ :: _ :: _ :: _ => rfl

theorem holdsAnyValue_eq (exact : Bool) (probe : Value) :
    holdsAnyValue s' exact probe es = holdsAnyValue s exact probe es := by
  induction es with
  | nil => rfl
  | cons e es ih =>
    obtain ⟨he, hes⟩ := List.forall_mem_cons.1 h
    rw [holdsAnyValue, holdsAnyValue, he, ih hes]

theorem value_call_eq {f : Builtin} (hf : f.call s'.clock = f.call s.clock) :
    value s' (.call f es) = value s (.call f es) := by
  cases f
  case iif => exact bind_congr fun _ => valueBranch_eq h
  case coalesce => exact bind_congr fun _ => valueFirst_eq h _
  all_goals
    change (_ >>= fun _ => valueAll s' es >>= _) = (_ >>= fun _ => valueAll s es >>= _)
    rw [valueAll_eq h, hf]

end Lists

/-! ### All expressions -/

mutual

/-- Surroundings that agree on an expression give it the same value. -/
theorem AgreeOn.value_eq : ∀ {e : Expr}, AgreeOn s s' e → e.value s' = e.value s
  | .literal _, _ => rfl
  | .column c, h => h.read_eq c (.refl _)
  | .computed _ _, h => by rw [value, value, value_eq (h.of_parts fun _ => .definition)]
  | .unary _ _, h => by rw [value, value, value_eq (h.of_parts fun _ => .operand)]
  | .binary _ _ _, h => by
    rw [value, value, value_eq (h.of_parts fun _ => .left), value_eq (h.of_parts fun _ => .right)]
  | .unfinished _ _, h => by rw [value, value, value_eq (h.of_parts fun _ => .only)]
  | .nullTest _ _, h => by rw [value, value, value_eq (h.of_parts fun _ => .tested)]
  | .inList _ exact _ es, h => by
    have hitems := values_eq es fun f hf => h.of_parts fun _ => .item hf
    simp only [value, value_eq (h.of_parts fun _ => .probe), holdsAnyValue_eq hitems exact]
  | .call f es, h =>
    value_call_eq (values_eq es fun e he => h.of_parts fun _ => .argument he)
      (h.call_eq f es (.refl _))

theorem AgreeOn.values_eq : ∀ es : List Expr, (∀ e ∈ es, AgreeOn s s' e) →
    ∀ e ∈ es, e.value s' = e.value s
  | [], _ => List.forall_mem_nil _
  | e :: es, h =>
    List.forall_mem_cons.2 ⟨value_eq (h e (.head _)), values_eq es fun f hf => h f (.tail _ hf)⟩

end

end Expr

/-! ### Further columns of a row -/

theorem Row.value_append {r : Row} {k : Nat} (hk : k < r.length) (more : Row) :
    Row.value (r ++ more) k = r.value k := by
  rw [value, value, List.getElem?_append_left hk, List.getElem?_eq_getElem hk]

namespace Table

variable {t : Table} {clock clock' : Clock} {r : Row} {a : Term} {e : Expr}

/-- A stored column in a bound expression is one of the table. -/
theorem Binds.lt_length (h : t.Binds a e) {c : ColumnHead} (hc : Expr.PartOf (.column c) e) :
    c.index < t.columns.length := by
  obtain ⟨b, hb⟩ := h.of_partOf hc
  obtain ⟨name, hname⟩ := Binds.resolves (c := ⟨c, none⟩) hb
  obtain ⟨k, column, -, hcolumn, rfl⟩ := hname.head_eq
  exact (List.getElem?_eq_some_iff.1 hcolumn).1

/-- A bound expression gives the same on a row with further columns. -/
theorem Binds.evalOn_append (h : t.Binds a e) (fits : r.Fits t.columns) (more : Row) :
    e.evalOn ⟨clock, some (r ++ more)⟩ = e.evalOn ⟨clock, some r⟩ := by
  rw [h.evalOn_eq_value, h.evalOn_eq_value]
  refine Expr.AgreeOn.value_eq ⟨fun c hc => ?_, fun f es _ => rfl⟩
  exact Row.value_append (fits.length_eq ▸ h.lt_length hc) more

/-- A bound expression gives the same at another time, if no function in it shows the time. -/
theorem Binds.evalOn_of_isTimeless (h : t.Binds a e) (timeless : e.IsTimeless)
    (row : Option Row) : e.evalOn ⟨clock', row⟩ = e.evalOn ⟨clock, row⟩ := by
  rw [h.evalOn_eq_value, h.evalOn_eq_value]
  refine Expr.AgreeOn.value_eq ⟨fun c _ => rfl, fun f es hf => ?_⟩
  obtain ⟨hnow, hutc⟩ := timeless f es hf
  funext args
  have happly : f.apply .standard clock' args = f.apply .standard clock args := by
    cases f <;> first | rfl | contradiction
  rw [Builtin.call, Builtin.call, Builtin.callWith, Builtin.callWith, happly]

end Table

end TableFilter
