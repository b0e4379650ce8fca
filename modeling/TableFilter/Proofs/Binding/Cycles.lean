import Mathlib.Logic.Relation
import TableFilter.Proofs.Binding.Completeness
import TableFilter.Proofs.Binding.Errors
import TableFilter.Proofs.Binding.Stack
import TableFilter.Proofs.Catalog.Reachable

/-!
# Cycles of columns

The formula of a column refers to the columns that it names. Where the formulas of a table can be
read, name columns only and call functions with as many arguments as they accept, a column is
refused exactly if references lead from it into a cycle. A column to which several references lead
is not on a cycle for that.

That a column outside of all cycles is found is seen from the columns that are being followed: each
of them leads to the column that is looked up, so that this one closes a cycle if it is among them.
That a column inside of a cycle is not found is seen from the size of expressions: what computes a
column is larger than what computes the columns that it refers to.

## Main definitions

* `Table.Refers`, `Table.LeadsIntoCycle`: references between columns
* `Table.Admits`, `Table.IsWellWritten`: terms and tables that give no other reason to fail
* `Binder.Ends`: a binder comes to an end and puts its stack back

## Main results

* `Table.lookUp_failsOnly`: a column is refused only if references lead from it into a cycle
* `Table.Resolves.not_leadsIntoCycle`: what stands for something leads into no cycle
* `Table.binding_refuses_cycles`: binding comes to an end, and refuses what leads into cycles
-/

namespace TableFilter

open Relation

/-- A binder has an outcome from each state, and its stack is then what it was. -/
def Binder.Ends {α : Type} (b : Binder α) : Prop :=
  ∀ s, ∃ r bound, b.run s = some (r, ⟨bound, s.resolving⟩)

theorem Binder.Ends.of_performs {α : Type} {b : Binder α}
    (h : ∀ resolving, ∃ m, b.Performs resolving m) : b.Ends := by
  rintro ⟨bound, resolving⟩
  obtain ⟨m, hm⟩ := h resolving
  exact ⟨_, _, hm bound⟩

namespace Table

/-! ### References -/

/-- The formula of a column names another. -/
def Refers (t : Table) (i j : Nat) : Prop :=
  ∃ c formula a name, t.columns[i]? = some c ∧ c.formula = some formula ∧
    Term.ofText formula = .ok a ∧ Term.PartOf (.column name) a ∧ t.columnIndex? name = some j

/-- References lead from a column to one from which they lead back to it. -/
def LeadsIntoCycle (t : Table) (k : Nat) : Prop :=
  ∃ j, ReflTransGen t.Refers k j ∧ TransGen t.Refers j j

/-- A term calls functions with as many arguments as they accept, and names columns only. -/
structure Admits (t : Table) (a : Term) : Prop where
  /-- Each function accepts the count of its arguments. -/
  counts : ∀ f args, Term.PartOf (.call f args) a → f.checkCount args.length = .ok ()
  /-- Each name is that of a column. -/
  names : ∀ name, Term.PartOf (.column name) a → ∃ k, t.columnIndex? name = some k

/-- Each formula can be read, calls functions with as many arguments as they accept, and names
columns only. -/
def IsWellWritten (t : Table) : Prop :=
  ∀ c ∈ t.columns, ∀ formula, c.formula = some formula →
    ∃ a, Term.ofText formula = .ok a ∧ t.Admits a

variable {t : Table}

/-! ### What is refused leads into a cycle -/

/-- The refusal of a column of the table, from one that leads into a cycle. -/
def RefusesCycle (t : Table) (start : Nat) (e : Error) : Prop :=
  t.LeadsIntoCycle start ∧ ∃ c ∈ t.columns, e = .resolution (.selfReference c.name t.name)

/-- The columns on the stack lead to the column that is looked up, which closes a cycle if it is on
the stack. -/
theorem lookUpBy_refuses (hw : t.IsWellWritten) {start k : Nat} {resolving : List Nat}
    {inner : Nat → Column → String → Binding BoundColumn} {name : String}
    (hk : t.columnIndex? name = some k) (path : ReflTransGen t.Refers start k)
    (chain : ∀ j ∈ resolving, TransGen t.Refers j k)
    (h : k < t.columns.length → k ∉ resolving → ∀ c name' j, t.columnIndex? name' = some j →
      t.Refers k j → FailsOnly (inner k c name') (t.RefusesCycle start)) :
    FailsOnly (t.lookUpBy resolving inner name) (t.RefusesCycle start) := by
  refine lookUpBy_failsOnly (fun hnone => nomatch hnone.symm.trans hk) ?_
  intro k' c formula hk' hc hf
  obtain rfl := Option.some.inj (hk'.symm.trans hk)
  have hmem : c ∈ t.columns := List.mem_of_getElem? hc
  obtain ⟨a, hread, admits⟩ := hw c hmem formula hf
  refine definitionOf_failsOnly (fun hstack => ?_) (fun e he => nomatch he.symm.trans hread) ?_
  · exact ⟨⟨k', path, chain k' hstack⟩, c, hmem, rfl⟩
  · intro hnew a' hread'
    obtain rfl := Except.ok.inj (hread.symm.trans hread')
    refine a.bindWith_failsOnly (fun f args hpart e he => ?_) fun name' hpart => ?_
    · exact nomatch he.symm.trans (admits.counts f args hpart)
    · obtain ⟨j, hj⟩ := admits.names name' hpart
      have refers : t.Refers k' j := ⟨c, formula, a, name', hc, hf, hread, hpart, hj⟩
      exact h (List.getElem?_eq_some_iff.1 hc).1 hnew c name' j hj refers

theorem lookUpTo_failsOnly (hw : t.IsWellWritten) {start : Nat} (depth : Nat) :
    ∀ {resolving : List Nat} {name : String} {k : Nat}, t.HasRoom depth resolving →
      t.columnIndex? name = some k → ReflTransGen t.Refers start k →
      (∀ j ∈ resolving, TransGen t.Refers j k) →
      FailsOnly (t.lookUpTo depth resolving name) (t.RefusesCycle start) := by
  induction depth with
  | zero =>
    intro resolving name k room hk path chain
    refine lookUpBy_refuses hw hk path chain fun hlength hnew => ?_
    obtain ⟨d, hd, -⟩ := room.push hlength hnew
    exact nomatch hd
  | succ depth ih =>
    intro resolving name k room hk path chain
    refine lookUpBy_refuses hw hk path chain fun hlength hnew c name' j hj refers => ?_
    obtain ⟨d, hd, room'⟩ := room.push hlength hnew
    obtain rfl := Nat.succ.inj hd
    refine ih room' hj (path.tail refers) (List.forall_mem_cons.2 ⟨.single refers, ?_⟩)
    exact fun i hi => (chain i hi).tail refers

/-- A column is refused only if references lead from it into a cycle. -/
theorem lookUp_failsOnly (hw : t.IsWellWritten) {name : String} {k : Nat}
    (hk : t.columnIndex? name = some k) : FailsOnly (t.lookUp name) (t.RefusesCycle k) :=
  lookUpTo_failsOnly hw t.columns.length (.start t) hk .refl (List.forall_mem_nil _)

/-! ### What leads into a cycle stands for nothing -/

mutual

/-- What a name in a term stands for is embedded in what the term stands for. -/
theorem Binds.resolves_name {name : String} {a : Term} {e : Expr} : t.Binds a e →
    Term.PartOf (.column name) a → ∃ b, t.Resolves name b ∧ sizeOf b.toExpr ≤ sizeOf e
  | .literal _, h => nomatch h
  | .column hc, h => by
    cases h
    exact ⟨_, hc, Nat.le_refl _⟩
  | .unary ha, .operand h => by
    obtain ⟨b, hb, hle⟩ := ha.resolves_name h
    exact ⟨b, hb, by rw [Expr.unary.sizeOf_spec]; omega⟩
  | .binary ha _, .left h => by
    obtain ⟨b, hb, hle⟩ := ha.resolves_name h
    exact ⟨b, hb, by rw [Expr.binary.sizeOf_spec]; omega⟩
  | .binary _ ha, .right h => by
    obtain ⟨b, hb, hle⟩ := ha.resolves_name h
    exact ⟨b, hb, by rw [Expr.binary.sizeOf_spec]; omega⟩
  | .nullTest ha, .tested h => by
    obtain ⟨b, hb, hle⟩ := ha.resolves_name h
    exact ⟨b, hb, by rw [Expr.nullTest.sizeOf_spec]; omega⟩
  | .inList ha _, .probe h => by
    obtain ⟨b, hb, hle⟩ := ha.resolves_name h
    exact ⟨b, hb, by rw [Expr.inList.sizeOf_spec]; omega⟩
  | .inList _ hs, .item ha h => by
    obtain ⟨b, hb, hle⟩ := hs.resolves_name _ ha h
    exact ⟨b, hb, by rw [Expr.inList.sizeOf_spec]; omega⟩
  | .call _ hs, .argument ha h => by
    obtain ⟨b, hb, hle⟩ := hs.resolves_name _ ha h
    exact ⟨b, hb, by rw [Expr.call.sizeOf_spec]; omega⟩

theorem BindsAll.resolves_name {name : String} {as : List Term} {es : List Expr} :
    t.BindsAll as es → ∀ a ∈ as, Term.PartOf (.column name) a →
      ∃ b, t.Resolves name b ∧ sizeOf b.toExpr ≤ sizeOf es
  | .nil => List.forall_mem_nil _
  | .cons ha hs => List.forall_mem_cons.2
    ⟨fun h => by
      obtain ⟨b, hb, hle⟩ := ha.resolves_name h
      exact ⟨b, hb, by rw [List.cons.sizeOf_spec]; omega⟩,
    fun a hmem h => by
      obtain ⟨b, hb, hle⟩ := hs.resolves_name a hmem h
      exact ⟨b, hb, by rw [List.cons.sizeOf_spec]; omega⟩⟩

end

/-- A column that stands for something and refers to another is computed. -/
theorem Resolves.exists_defines {name : String} {b : BoundColumn} {k l : Nat}
    (h : t.Resolves name b) (hk : t.columnIndex? name = some k) (refers : t.Refers k l) :
    ∃ d, t.Defines k d ∧ sizeOf d < sizeOf b.toExpr := by
  obtain ⟨c, formula, a, name', hc, hf, hread, -⟩ := refers
  cases h with
  | stored hk' hc' hf' =>
    obtain rfl := Option.some.inj (hk'.symm.trans hk)
    obtain rfl := Option.some.inj (hc'.symm.trans hc)
    cases hf'.symm.trans hf
  | @computed _ _ _ _ _ d hk' hc' hf' hread' hbinds =>
    obtain rfl := Option.some.inj (hk'.symm.trans hk)
    refine ⟨d, ⟨_, _, _, hc', hf', hread', hbinds⟩, ?_⟩
    change sizeOf d < sizeOf (Expr.computed _ d)
    rw [Expr.computed.sizeOf_spec]
    omega

/-- What computes a column is larger than what computes the columns that it refers to. -/
theorem Defines.exists_lt {i j l : Nat} {e : Expr} (hd : t.Defines i e) (hij : t.Refers i j)
    (hjl : t.Refers j l) : ∃ d, t.Defines j d ∧ sizeOf d < sizeOf e := by
  obtain ⟨c, formula, a, name, hc, hf, hread, hpart, hj⟩ := hij
  obtain ⟨c', formula', a', hc', hf', hread', hbinds⟩ := hd
  obtain rfl := Option.some.inj (hc.symm.trans hc')
  obtain rfl := Option.some.inj (hf.symm.trans hf')
  obtain rfl := Except.ok.inj (hread.symm.trans hread')
  obtain ⟨b, hb, hle⟩ := hbinds.resolves_name hpart
  obtain ⟨d, hd, hlt⟩ := hb.exists_defines hj hjl
  exact ⟨d, hd, Nat.lt_of_lt_of_le hlt hle⟩

theorem Defines.exists_lt_of_path {i j l : Nat} {e : Expr} (hd : t.Defines i e)
    (path : TransGen t.Refers i j) (hjl : t.Refers j l) :
    ∃ d, t.Defines j d ∧ sizeOf d < sizeOf e := by
  induction path generalizing l with
  | single hij => exact hd.exists_lt hij hjl
  | tail _ hbc ih =>
    obtain ⟨d, hdefines, hlt⟩ := ih hbc
    obtain ⟨d', hdefines', hlt'⟩ := hdefines.exists_lt hbc hjl
    exact ⟨d', hdefines', Nat.lt_trans hlt' hlt⟩

/-- What computes a column is no larger than itself, so that the column is on no cycle. -/
theorem Defines.not_cycle {k : Nat} {e : Expr} (hd : t.Defines k e) : ¬TransGen t.Refers k k := by
  intro cycle
  obtain ⟨l, hkl, -⟩ := TransGen.head'_iff.1 cycle
  obtain ⟨d, hdefines, hlt⟩ := hd.exists_lt_of_path cycle hkl
  rw [hd.unique hdefines] at hlt
  exact Nat.lt_irrefl _ hlt

/-- What stands for something leads into no cycle. -/
theorem Resolves.not_leadsIntoCycle {name : String} {b : BoundColumn} {k : Nat}
    (h : t.Resolves name b) (hk : t.columnIndex? name = some k) : ¬t.LeadsIntoCycle k := by
  rintro ⟨j, path, cycle⟩
  obtain ⟨l, hjl, -⟩ := TransGen.head'_iff.1 cycle
  rcases reflTransGen_iff_eq_or_transGen.1 path with rfl | path
  · obtain ⟨d, hd, -⟩ := h.exists_defines hk hjl
    exact hd.not_cycle cycle
  · obtain ⟨i, hki, -⟩ := TransGen.head'_iff.1 path
    obtain ⟨d, hd, -⟩ := h.exists_defines hk hki
    obtain ⟨d', hd', -⟩ := hd.exists_lt_of_path path hjl
    exact hd'.not_cycle cycle

/-! ### Binding comes to an end -/

/-- **Binding ends, and refuses cycles.** A binder with a stack comes to an end for each table,
whatever its formulas are, whatever is remembered and whatever is on the stack, as soon as look-ups
may stand one inside the other once more than there are columns. It leaves its stack as it was, and
from an empty stack it gives and remembers what looking up names gives and remembers.

Where the formulas of a table are well written, a column is found exactly if references do not lead
from it into a cycle, and otherwise a column of the table is refused. -/
theorem binding_refuses_cycles (t : Table) :
    (∀ steps, t.columns.length < steps →
      (∀ name, (t.columnBy steps name).Ends ∧
        (t.columnBy steps name).Performs [] (t.lookUp name)) ∧
      (∀ a : Term, (a.bindBy (t.columnBy steps)).Ends ∧
        (a.bindBy (t.columnBy steps)).Performs [] (t.bindTerm a)) ∧
      (∀ as : List Term, (Term.bindAllBy (t.columnBy steps) as).Ends ∧
        (Term.bindAllBy (t.columnBy steps) as).Performs [] (Term.bindAllWith t.lookUp as)) ∧
      ∀ items, (t.orderBy steps items).Ends ∧
        (t.orderBy steps items).Performs [] (t.bindOrder items)) ∧
    (t.Reachable → t.IsWellWritten → ∀ name k, t.columnIndex? name = some k →
      ((∃ c, (t.remembering (·.lookUp name)).1 = .ok c) ↔ ¬t.LeadsIntoCycle k) ∧
      (t.LeadsIntoCycle k → ∃ c ∈ t.columns, (t.remembering (·.lookUp name)).1 =
        .error (.resolution (.selfReference c.name t.name)))) := by
  constructor
  · intro steps enough
    have anywhere (resolving : List Nat) (name : String) :
        (t.columnBy steps name).Performs resolving
          (t.lookUpTo t.columns.length resolving name) := by
      have le := t.unfollowed_le resolving
      exact columnBy_performs (le.trans_lt enough) le name
    have start : ∀ name, (t.columnBy steps name).Performs [] (t.lookUp name) := anywhere []
    refine ⟨fun name => ⟨?_, start name⟩, fun a => ⟨?_, a.bindBy_performs start⟩,
      fun as => ⟨?_, Term.bindAllBy_performs start as⟩,
      fun items => ⟨?_, orderBy_performs start items⟩⟩
    · exact .of_performs fun resolving => ⟨_, anywhere resolving name⟩
    · exact .of_performs fun resolving => ⟨_, a.bindBy_performs (anywhere resolving)⟩
    · exact .of_performs fun resolving => ⟨_, Term.bindAllBy_performs (anywhere resolving) as⟩
    · exact .of_performs fun resolving => ⟨_, orderBy_performs (anywhere resolving) items⟩
  · intro reachable hw name k hk
    have found {c : BoundColumn} (hc : (t.remembering (·.lookUp name)).1 = .ok c) :
        ¬t.LeadsIntoCycle k :=
      ((lookUp_yields name).remembering reachable.coherent hc).not_leadsIntoCycle hk
    have refused {e : Error} (he : (t.remembering (·.lookUp name)).1 = .error e) :
        t.RefusesCycle k e :=
      (lookUp_failsOnly hw hk t.bound trivial).1 e he
    cases hresult : (t.remembering (·.lookUp name)).1 with
    | ok c =>
      have hnone := found hresult
      exact ⟨iff_of_true ⟨c, rfl⟩ hnone, fun hcycle => absurd hcycle hnone⟩
    | error e =>
      obtain ⟨hcycle, c, hc, rfl⟩ := refused hresult
      exact ⟨iff_of_false (fun ⟨_, h⟩ => nomatch h) (not_not.2 hcycle), fun _ => ⟨c, hc, rfl⟩⟩

theorem Admits.column {name : String} {k : Nat} (hk : t.columnIndex? name = some k) :
    t.Admits (.column name) := by
  refine ⟨fun f args h => (nomatch h), fun name' h => ?_⟩
  cases h
  exact ⟨k, hk⟩

theorem Admits.binary {op : BinaryOperator} {a b : Term} (ha : t.Admits a) (hb : t.Admits b) :
    t.Admits (.binary op a b) := by
  refine ⟨fun f args h => ?_, fun name h => ?_⟩
  · cases h with
    | left h => exact ha.counts f args h
    | right h => exact hb.counts f args h
  · cases h with
    | left h => exact ha.names name h
    | right h => exact hb.names name h

/-- A number, a column `S` with two references to one column, two columns that refer to each other,
and a column `L` that refers to `S` and to one of those. -/
def circling : Table where
  name := "T"
  columns := [⟨"N", .int32, none⟩, ⟨"D", .int32, some "N + N"⟩, ⟨"S", .int32, some "D + d"⟩,
    ⟨"P", .int32, some "Q"⟩, ⟨"Q", .int32, some "P"⟩, ⟨"L", .int32, some "S + P"⟩]
  rows := []
  bound := []

theorem circling_reachable : circling.Reachable :=
  Reachable.empty "T"
    |>.change (.addColumn (c := ⟨"N", .int32, none⟩) rfl)
    |>.change (.addColumn (c := ⟨"D", .int32, some "N + N"⟩) rfl)
    |>.change (.addColumn (c := ⟨"S", .int32, some "D + d"⟩) rfl)
    |>.change (.addColumn (c := ⟨"P", .int32, some "Q"⟩) rfl)
    |>.change (.addColumn (c := ⟨"Q", .int32, some "P"⟩) rfl)
    |>.change (.addColumn (c := ⟨"L", .int32, some "S + P"⟩) rfl)

theorem circling_isWellWritten : circling.IsWellWritten := by
  intro c hc formula hf
  simp only [circling, List.mem_cons, List.not_mem_nil, or_false] at hc
  rcases hc with rfl | rfl | rfl | rfl | rfl | rfl <;> cases hf
  · refine ⟨.binary (.arithmetic .add) (.column "N") (.column "N"), by rfl, ?_⟩
    exact .binary (.column (k := 0) rfl) (.column (k := 0) rfl)
  · refine ⟨.binary (.arithmetic .add) (.column "D") (.column "d"), by rfl, ?_⟩
    exact .binary (.column (k := 1) rfl) (.column (k := 1) rfl)
  · exact ⟨.column "Q", rfl, .column (k := 4) rfl⟩
  · exact ⟨.column "P", rfl, .column (k := 3) rfl⟩
  · refine ⟨.binary (.arithmetic .add) (.column "S") (.column "P"), by rfl, ?_⟩
    exact .binary (.column (k := 2) rfl) (.column (k := 3) rfl)

/-- Two references to one column make no cycle, and what leads into a cycle is refused. -/
theorem circling_refuses_cycles :
    circling.Reachable ∧ circling.IsWellWritten ∧
      ¬circling.LeadsIntoCycle 2 ∧ circling.LeadsIntoCycle 5 ∧
      (circling.remembering (·.lookUp "L")).1 =
        .error (.resolution (.selfReference "P" "T")) ∧
      ∃ r bound, (circling.columnBy 7 "S").run ⟨[], [3]⟩ = some (r, ⟨bound, [3]⟩) := by
  obtain ⟨ends, columns⟩ := binding_refuses_cycles circling
  have columns := columns circling_reachable circling_isWellWritten
  have found : ∃ c, (circling.remembering (·.lookUp "S")).1 = .ok c := ⟨_, rfl⟩
  have refused : (circling.remembering (·.lookUp "L")).1 =
    .error (.resolution (.selfReference "P" "T")) := rfl
  refine ⟨circling_reachable, circling_isWellWritten, (columns "S" 2 rfl).1.1 found, ?_, refused,
    ((ends 7 (by decide)).1 "S").1 ⟨[], [3]⟩⟩
  by_contra outside
  obtain ⟨c, hc⟩ := (columns "L" 5 rfl).1.2 outside
  exact nomatch hc.symm.trans refused

end Table

end TableFilter
