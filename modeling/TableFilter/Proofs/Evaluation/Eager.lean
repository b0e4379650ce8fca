import TableFilter.Proofs.Evaluation.Soundness

/-!
# Choosing before evaluating

A choice between arguments is made as soon as it can be: the branch that is not taken is never
evaluated, and neither is what stands behind the first value that is no null. The plain way to call
a function is to evaluate all of its arguments first. Where this succeeds the choice gives the same
value. It may succeed on more expressions, as what it leaves out cannot fail.

Both ways keep the values of computed columns while a row is looked at. The plain way comes by
columns that the other leaves out, so that the two do not keep the same.

## Main definitions

* `Expr.evalEagerly`: evaluation with the arguments of all functions evaluated first
* `Table.Refines`: all values that an action gives are right

## Main results

* `Expr.value_call`: the value of a call whose arguments have values
* `Table.Binds.evalEagerly_refines`: what is evaluated eagerly has the value that it is given
* `Table.lazily_as_eagerly`: both ways of evaluation
-/

namespace TableFilter

open Result

/-! ### Eager evaluation -/

namespace Expr

mutual

/-- The value of an expression where all functions are called with the values of all arguments. -/
def evalEagerly (s : Surroundings) : Expr → Evaluation Value
  | .literal v => return v
  | .column c => liftM (s.read c)
  | .computed c definition => keeping c (definition.evalEagerly s)
  | .unary op e => do op.apply (← e.evalEagerly s)
  | .binary op a b => do
    let v ← a.evalEagerly s
    let w ← b.evalEagerly s
    op.apply v w
  | .unfinished op a => do
    let _ ← a.evalEagerly s
    throw (.evaluation (.missingOperand op))
  | .nullTest negated e => do return testNull negated (← e.evalEagerly s)
  | .inList negated exact e es => do
    let probe ← e.evalEagerly s
    if probe.isNull then return .null .boolean
    else return .boolean ((← holdsAnyEagerly s exact probe es) != negated)
  | .call f es => do f.call s.clock (← evalAllEagerly s es)

/-- The values of expressions, evaluated eagerly from left to right. -/
def evalAllEagerly (s : Surroundings) : List Expr → Evaluation (List Value)
  | [] => return []
  | e :: es => do
    let v ← e.evalEagerly s
    return v :: (← evalAllEagerly s es)

/-- Whether a value equals that of an expression in a list. A list is no function: it is looked at
only as far as needed. -/
def holdsAnyEagerly (s : Surroundings) (exact : Bool) (probe : Value) :
    List Expr → Evaluation Bool
  | [] => return false
  | e :: es => do
    let v ← e.evalEagerly s
    if (← probe.compare exact v) == some .eq then return true
    else holdsAnyEagerly s exact probe es

end

/-! ### Calls whose arguments have values -/

variable {s : Surroundings} {es : List Expr} {vs : List Value}

/-- Of expressions that have values, the first value that is no null, or else the last one. -/
theorem valueFirst_of_valueAll (h : valueAll s es = .ok vs) (last : Value) :
    valueFirst s last es = .ok ((vs.find? fun v => !v.isNull).getD (vs.getLast?.getD last)) := by
  induction es generalizing vs last with
  | nil =>
    obtain rfl : [] = vs := Except.ok.inj h
    rfl
  | cons e es ih =>
    obtain ⟨v, hv, h⟩ := bind_eq_ok.1 h
    obtain ⟨rest, hrest, h⟩ := bind_eq_ok.1 h
    obtain rfl := Except.ok.inj h
    rw [valueFirst, hv, ok_bind]
    cases hnull : v.isNull with
    | true =>
      rw [if_pos rfl, ih hrest, List.find?_cons_of_neg (by simp [hnull])]
      rw [List.getLast?_cons, Option.getD_some]
    | false =>
      rw [if_neg Bool.false_ne_true, List.find?_cons_of_pos (by simp [hnull])]
      rfl

/-- Of three expressions that have values, the value of the branch that the first one takes. -/
theorem valueBranch_of_valueAll (h : valueAll s es = .ok vs) (hlength : es.length = 3) :
    valueBranch s es = Builtin.callIIf vs := by
  obtain ⟨test, first, second, rfl⟩ := List.length_eq_three.1 hlength
  obtain ⟨x, hx, h⟩ := bind_eq_ok.1 h
  obtain ⟨_, h, hvs⟩ := bind_eq_ok.1 h
  obtain ⟨y, hy, h⟩ := bind_eq_ok.1 h
  obtain ⟨_, h, hvs'⟩ := bind_eq_ok.1 h
  obtain ⟨z, hz, h⟩ := bind_eq_ok.1 h
  obtain ⟨_, h, hvs''⟩ := bind_eq_ok.1 h
  cases h; cases hvs''; cases hvs'; cases hvs
  rw [valueBranch, hx, hy, hz]
  change (Builtin.iifTest x >>= _) = (Builtin.iifTest x >>= _)
  cases Builtin.iifTest x with
  | error e => rfl
  | ok chosen => cases chosen <;> rfl

/-- Going on in two ways that give the same for a result. -/
theorem bind_congr_of_ok {α β : Type} {r : Result α} {f g : α → Result β}
    (h : ∀ a, r = .ok a → f a = g a) : (r >>= f) = (r >>= g) := by
  cases r with
  | ok a => exact h a rfl
  | error e => rfl

/-- A call whose arguments have values gives what the function gives for them. For a choice this
says that making it first and making it last comes to the same. -/
theorem value_call (f : Builtin) (h : valueAll s es = .ok vs) :
    value s (.call f es) = f.call s.clock vs := by
  have hlength : vs.length = es.length := length_of_valueAll h
  rw [Builtin.call, Builtin.callWith, hlength]
  cases f
  case iif =>
    refine bind_congr_of_ok fun accepted hcount => valueBranch_of_valueAll h ?_
    unfold Builtin.checkCount at hcount
    split at hcount
    case isTrue haccepts => exact eq_of_beq haccepts
    case isFalse => cases hcount
  case coalesce =>
    refine bind_congr_of_ok fun accepted hcount => ?_
    rw [valueFirst_of_valueAll h]
    change _ = Except.ok (Builtin.firstPresent vs)
    unfold Builtin.firstPresent
    cases vs.find? fun v => !v.isNull <;> rfl
  all_goals
    refine bind_congr_of_ok fun accepted hcount => ?_
    rw [h, ok_bind, Builtin.call, Builtin.callWith, hlength, hcount]
    rfl

end Expr

/-! ### Values that are right -/

namespace Table

/-- All values that an action gives are those of a result, and it keeps values of computed columns
only. Nothing is said of its errors. -/
abbrev Refines {α : Type} (t : Table) (s : Surroundings) (m : Evaluation α) (r : Result α) : Prop :=
  Maintains (t.KnownOn s) m fun r' => ∀ a, r' = .ok a → r = .ok a

variable {t : Table} {s : Surroundings}

namespace Refines

variable {α β : Type} {m : Evaluation α} {r : Result α}

theorem lift (r : Result α) : t.Refines s (liftM r) r := Maintains.lift fun _ h => h

theorem pure (a : α) : t.Refines s (pure a) (.ok a) := Maintains.pure fun _ h => h

theorem bind {f : α → Evaluation β} {g : α → Result β} (hm : t.Refines s m r)
    (hf : ∀ a, r = .ok a → t.Refines s (f a) (g a)) : t.Refines s (m >>= f) (r >>= g) := by
  refine Maintains.bind hm (fun a ha => ?_) fun _ _ _ h => nomatch h
  have hr : r = .ok a := ha a rfl
  rw [hr]
  exact hf a hr

end Refines

/-! ### Lists of expressions -/

section Lists

variable {es : List Expr}

theorem evalAllEagerly_refines (h : ∀ e ∈ es, t.Refines s (e.evalEagerly s) (e.value s)) :
    t.Refines s (Expr.evalAllEagerly s es) (Expr.valueAll s es) := by
  induction es with
  | nil => exact .pure []
  | cons e es ih =>
    rw [Expr.evalAllEagerly, Expr.valueAll]
    refine Refines.bind (h e (List.mem_cons_self ..)) fun v _ => ?_
    exact Refines.bind (ih fun e he => h e (List.mem_cons_of_mem _ he)) fun vs _ => .pure _

theorem holdsAnyEagerly_refines (h : ∀ e ∈ es, t.Refines s (e.evalEagerly s) (e.value s))
    (exact : Bool) (probe : Value) :
    t.Refines s (Expr.holdsAnyEagerly s exact probe es) (Expr.holdsAnyValue s exact probe es) := by
  induction es with
  | nil => exact .pure false
  | cons e es ih =>
    rw [Expr.holdsAnyEagerly, Expr.holdsAnyValue]
    refine Refines.bind (h e (List.mem_cons_self ..)) fun v _ => ?_
    refine Refines.bind (.lift _) fun order _ => ?_
    split
    · exact .pure true
    · exact ih fun e he => h e (List.mem_cons_of_mem _ he)

theorem call_refines (f : Builtin) (h : ∀ e ∈ es, t.Refines s (e.evalEagerly s) (e.value s)) :
    t.Refines s (Expr.evalEagerly s (.call f es)) (Expr.value s (.call f es)) := by
  rw [Expr.evalEagerly]
  refine Maintains.bind (evalAllEagerly_refines h) (fun vs hvs => ?_) fun _ _ _ h => nomatch h
  rw [Expr.value_call f (hvs vs rfl)]
  exact Refines.lift _

theorem inList_refines (negated exact : Bool) {e : Expr}
    (he : t.Refines s (e.evalEagerly s) (e.value s))
    (h : ∀ e ∈ es, t.Refines s (e.evalEagerly s) (e.value s)) :
    t.Refines s (Expr.evalEagerly s (.inList negated exact e es))
      (Expr.value s (.inList negated exact e es)) := by
  rw [Expr.evalEagerly, Expr.value]
  refine Refines.bind he fun probe _ => ?_
  split
  · exact .pure _
  · exact Refines.bind (holdsAnyEagerly_refines h exact probe) fun _ _ => .pure _

end Lists

/-! ### All expressions -/

mutual

theorem Resolves.evalEagerly_refines {name : String} {c : BoundColumn} :
    t.Resolves name c → t.Refines s (c.toExpr.evalEagerly s) (c.toExpr.value s)
  | .stored _ _ _ => .lift _
  | .computed _ hc hf hread hbinds => by
    have defines : t.Defines _ _ := ⟨_, _, _, hc, hf, hread, hbinds⟩
    exact keeping_maintains hc defines hbinds.evalEagerly_refines (fun v hv => hv v rfl)
      (fun v hv w hw => Except.ok.inj hw ▸ hv.value_eq hc defines) (fun _ _ _ h => nomatch h)
      fun _ _ _ _ _ h => nomatch h

/-- What is evaluated eagerly has the value that it is given. -/
theorem Binds.evalEagerly_refines {a : Term} {e : Expr} :
    t.Binds a e → t.Refines s (e.evalEagerly s) (e.value s)
  | .literal _ => .pure _
  | .column h => h.evalEagerly_refines
  | .unary h => Refines.bind h.evalEagerly_refines fun _ _ => .lift _
  | .binary hl hr =>
    Refines.bind hl.evalEagerly_refines fun _ _ =>
      Refines.bind hr.evalEagerly_refines fun _ _ => .lift _
  | .nullTest h => Refines.bind h.evalEagerly_refines fun _ _ => .pure _
  | .inList h hs => inList_refines _ _ h.evalEagerly_refines hs.evalEagerly_refines
  | .call _ hs => call_refines _ hs.evalEagerly_refines

theorem BindsAll.evalEagerly_refines {as : List Term} {es : List Expr} :
    t.BindsAll as es → ∀ e ∈ es, t.Refines s (e.evalEagerly s) (e.value s)
  | .nil => List.forall_mem_nil _
  | .cons h hs => List.forall_mem_cons.2 ⟨h.evalEagerly_refines, hs.evalEagerly_refines⟩

end

/-! ### Both ways -/

/-- **Choosing first is right.** Let an expression be bound on a table, and let it be evaluated on a
row in both ways, each with some values of computed columns kept from before. A value that it has
with all arguments evaluated first it has with choices made first too. Where all arguments of a call
have values, both ways give one result for the call, be it a value or an error, and this is what the
function gives for these values. -/
theorem lazily_as_eagerly {e : Expr} (bound : t.Bound e) {known known' : KnownValues}
    (hknown : t.KnownOn s known) (hknown' : t.KnownOn s known') :
    (∀ v, ((e.evalEagerly s).run known).1 = .ok v → ((e.eval s).run known').1 = .ok v) ∧
      ∀ f es, e = .call f es →
        (∀ vs, ((Expr.evalAllEagerly s es).run known).1 = .ok vs →
          ((e.eval s).run known').1 = ((e.evalEagerly s).run known).1) ∧
        ∀ vs, ((Expr.evalAll s es).run known).1 = .ok vs →
          ((e.eval s).run known').1 = f.call s.clock vs := by
  obtain ⟨a, ha⟩ := bound.binds
  have lazily : ((e.eval s).run known').1 = e.value s := (ha.eval_gives known' hknown').1
  refine ⟨fun v hv => ?_, ?_⟩
  · rw [lazily]
    exact (ha.evalEagerly_refines known hknown).1 v hv
  · rintro f es rfl
    have args : ∀ e ∈ es, ∃ b, t.Binds b e := fun e he => ha.of_partOf (.argument he (.refl e))
    refine ⟨fun vs hvs => ?_, fun vs hvs => ?_⟩
    · have refines : ∀ e ∈ es, t.Refines s (e.evalEagerly s) (e.value s) := fun e he => by
        obtain ⟨b, hb⟩ := args e he
        exact hb.evalEagerly_refines
      have hvalues := (evalAllEagerly_refines refines known hknown).1 vs hvs
      rw [lazily, Expr.value_call f hvalues, Expr.evalEagerly, run_bind, hvs]
      dsimp only
      cases f.call s.clock vs <;> rfl
    · have gives : ∀ e ∈ es, t.Gives s (e.eval s) (e.value s) := fun e he => by
        obtain ⟨b, hb⟩ := args e he
        exact hb.eval_gives
      rw [(evalAll_gives gives known hknown).1] at hvs
      rw [lazily, Expr.value_call f hvs]

/-- The double if it is above three, and otherwise the number. -/
def cappedTwice : Expr :=
  .call .iif [.binary (.comparison .greater) twice (.literal (.int32 3)), twice,
    .column ⟨0, "N", .int32⟩]

/-- A choice by a number, which is no truth value. -/
def twiceAsTest : Expr := .call .iif [twice, .literal (.int32 1), .literal (.int32 2)]

/-- Two has a double above three. The double is refused as a test in both ways. -/
theorem choices_lazily_as_eagerly :
    doubled.Bound cappedTwice ∧ doubled.Bound twiceAsTest ∧
      cappedTwice.evalOn ⟨⟨default, default⟩, some [.int32 2, .null .int32]⟩ = .ok (.int32 4) ∧
      twiceAsTest.evalOn ⟨⟨default, default⟩, some [.int32 2, .null .int32]⟩ =
        ((twiceAsTest.evalEagerly ⟨⟨default, default⟩, some [.int32 2, .null .int32]⟩).run []).1 ∧
      twiceAsTest.evalOn ⟨⟨default, default⟩, some [.int32 2, .null .int32]⟩ =
        .error (.typing (.testNotBoolean .int32)) := by
  have capped : doubled.Bound cappedTwice :=
    .bindTerm (a := .call .iif [.binary (.comparison .greater) (.column "Twice")
      (.literal (.int32 3)), .column "Twice", .column "N"]) doubling_reachable rfl
  have tested : doubled.Bound twiceAsTest :=
    .bindTerm (a := .call .iif [.column "Twice", .literal (.int32 1), .literal (.int32 2)])
      doubling_reachable rfl
  obtain ⟨values, -⟩ := lazily_as_eagerly capped
    (s := ⟨⟨default, default⟩, some [.int32 2, .null .int32]⟩) knownOn_nil knownOn_nil
  obtain ⟨-, calls⟩ := lazily_as_eagerly tested
    (s := ⟨⟨default, default⟩, some [.int32 2, .null .int32]⟩) knownOn_nil knownOn_nil
  obtain ⟨eagerly, lazily⟩ := calls _ _ rfl
  exact ⟨capped, tested, values _ rfl, eagerly [.int32 4, .int32 1, .int32 2] rfl,
    lazily [.int32 4, .int32 1, .int32 2] rfl⟩

end Table

end TableFilter
