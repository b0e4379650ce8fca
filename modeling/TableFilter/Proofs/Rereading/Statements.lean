import TableFilter.Proofs.Planning
import TableFilter.Proofs.Rereading.Binding
import TableFilter.Proofs.Rereading.Expressions
import TableFilter.Proofs.Selection.EntryPoints

/-!
# Written statements are read

A bound statement is written as a statement on the named table that it was bound on, whatever kind
of statement it was bound from. This statement is read and bound again, on the same table.

## Main definitions

* `Tree.statement`: the statement that a bound one is written as
* `Tree.IsOver`: bound statements on a table, with an expression that can be written

## Main results

* `Tree.IsOver.exists_tokens`: the text of a bound statement is that of the statement
* `Tree.IsOver.treeOn_eq`: the statement is bound as what the bound one reads back as
* `isOver_of_treeOn`: statements that were read are bound as such ones
-/

namespace TableFilter

open Grammar Number

/-! ### Columns to sort by -/

/-- A column to sort by, by its name. -/
def OrderTerm.item (o : OrderTerm) : OrderItem := ⟨o.column.head.name, o.ascending, o.exact⟩

theorem OrderTerm.exists_tokens {o : OrderTerm} (named : IsName o.column.head.name) :
    ∃ ts, Writes o.text.toList ts ∧ DerivesItem ts o.item := by
  obtain ⟨column, ascending, exact⟩ := o
  have directed : ∃ direction,
      Writes (column.head.name.toList ++ (if ascending then " ASC" else " DESC").toList)
        (.identifier column.head.name :: direction) ∧ Direction direction ascending := by
    cases ascending with
    | true => exact ⟨_, (Writes.name named).spaced (.keyword .asc), .asc⟩
    | false => exact ⟨_, (Writes.name named).spaced (.keyword .desc), .desc⟩
  obtain ⟨direction, writes, directed⟩ := directed
  refine ⟨_, ?_, .column exact column.head.name directed⟩
  cases exact with
  | false => simpa [text, binaryTokens] using writes
  | true => simpa [text, binaryTokens, Keyword.text] using (Writes.keyword .binary).spaced writes

theorem exists_orderTokens {os : List OrderTerm} (hne : os ≠ [])
    (named : ∀ o ∈ os, IsName o.column.head.name) :
    ∃ ts, Writes (", ".intercalate (os.map OrderTerm.text)).toList ts ∧
      DerivesItems ts (os.map OrderTerm.item) := by
  induction os with
  | nil => exact absurd rfl hne
  | cons o os ih =>
    obtain ⟨ho, hos⟩ := List.forall_mem_cons.1 named
    obtain ⟨ts, writes, item⟩ := OrderTerm.exists_tokens ho
    cases os with
    | nil => exact ⟨ts, by simpa using writes, .one item⟩
    | cons p os =>
      obtain ⟨us, hwrites, items⟩ := ih (List.cons_ne_nil _ _) hos
      refine ⟨_, ?_, .cons item items⟩
      simpa [String.intercalate_cons_cons] using
        writes.append rfl (.cons spells_comma hwrites.blank)

/-- The clause that sorts, after another text. -/
theorem exists_orderClause {os : List OrderTerm} (named : ∀ o ∈ os, IsName o.column.head.name) :
    ∃ us, DerivesOrder us (os.map OrderTerm.item) ∧
      ∀ {cs ts}, Writes cs ts → Writes (cs ++ (Tree.orderText os).toList) (ts ++ us) := by
  cases os with
  | nil => exact ⟨[], .none, fun h => by simpa [Tree.orderText] using h⟩
  | cons o os =>
    obtain ⟨us, writes, items⟩ := exists_orderTokens (List.cons_ne_nil o os) named
    refine ⟨_, .by_ items, fun h => ?_⟩
    simpa [Tree.orderText, Keyword.text] using
      h.spaced ((Writes.keyword .order).spaced ((Writes.keyword .by_).spaced writes))

/-! ### Limits -/

/-- The number of rows that a bound statement is written with, if it has a limit. -/
def Tree.shownLimit (limit : Int) : Option Int := if 0 ≤ limit then some limit else none

/-- The clause that cuts off, before another text. -/
theorem exists_limitClause {limit : Int} (hle : limit ≤ 2147483647) :
    ∃ us, DerivesLimit us (Tree.shownLimit limit) ∧
      ∀ {cs ts}, Writes cs ts → Writes ((Tree.limitText limit).toList ++ cs) (us ++ ts) := by
  unfold Tree.shownLimit Tree.limitText
  split
  · next hnonneg =>
    obtain ⟨n, rfl⟩ := Int.eq_ofNat_of_zero_le hnonneg
    have hn : toString n = String.ofList (natText n) := rfl
    have hlimit := derivesLimit_toString (n := n) (by omega)
    have hdigits : Writes (natText n) [.integer (toString n)] :=
      hn ▸ Writes.of_spells (spells_integer (isDigits_natText n))
    have htext : intText n = natText n := by
      rw [intText_eq, decide_eq_false (by omega), Int.natAbs_natCast]
      rfl
    refine ⟨_, hlimit, fun h => ?_⟩
    simpa [htext, Keyword.text] using (Writes.keyword .top).spaced (hdigits.spaced h)
  · exact ⟨[], .none, fun h => by simpa using h⟩

/-! ### Bound statements -/

namespace Tree

/-- The statement that a bound one is written as. -/
def statement (tree : Tree) : FilterStatement :=
  ⟨tree.table, shownLimit tree.limit, tree.root.reread.term, tree.order.map OrderTerm.item⟩

/-- A bound statement on a table, whose expression can be written. -/
structure IsOver (tree : Tree) (t : Table) : Prop where
  /-- The statement is one on the table. -/
  table_eq : tree.table = t.name
  /-- The expression can be written. -/
  written : ∃ ts, tree.root.Written ts
  /-- What the expression reads back as is bound on the table. -/
  binds : t.Binds tree.root.reread.term tree.root.reread
  /-- The columns to sort by are columns of the table. -/
  sorts : ∀ o ∈ tree.order, t.Resolves o.column.head.name o.column
  /-- The limit is a number of 32 bits. -/
  limit_le : tree.limit ≤ 2147483647

variable {tree : Tree} {t : Table}

/-- The text of a bound statement is the statement that it is written as. -/
theorem IsOver.exists_tokens (h : tree.IsOver t) (named : IsName t.name)
    (columns : ∀ c ∈ t.columns, IsName c.name) :
    ∃ ts, Writes tree.text.toList ts ∧ DerivesStatement ts (.filter tree.statement) := by
  obtain ⟨htable, ⟨condition, written⟩, -, sorts, hle⟩ := h
  obtain ⟨table, root, limit, order⟩ := tree
  obtain rfl : table = t.name := htable
  have sorted : ∀ o ∈ order, IsName o.column.head.name := by
    intro o ho
    obtain ⟨k, c, -, hc, hhead⟩ := (sorts o ho).head_eq
    rw [hhead]
    exact columns c (List.mem_of_getElem? hc)
  obtain ⟨first, limited, before⟩ := exists_limitClause hle
  obtain ⟨last, ordered, after⟩ := exists_orderClause sorted
  have derives := DerivesFilter.where_ t.name limited written.disjunction ordered .none (.inr rfl)
  have clauses := (Writes.name named).spaced ((Writes.keyword .where_).spaced
    (after written.writes))
  have writes := (Writes.keyword .filter).spaced (before clauses)
  refine ⟨_, ?_, .filter derives⟩
  simpa [text, named.isEmpty, Keyword.text] using writes

open Table in
/-- The statement that a bound one is written as is bound as what the bound one reads back as. -/
theorem IsOver.treeOn_eq {r : Request} {ds : DataSet} {k : Nat} (h : tree.IsOver t)
    (found : ds.table t.name = .ok (k, t)) (coherent : t.Coherent t.bound) :
    (Statement.filter tree.statement).treeOn r ds = .ok tree.reread := by
  obtain ⟨htable, -, hbinds, sorts, -⟩ := h
  obtain ⟨table, root, limit, order⟩ := tree
  obtain rfl : table = t.name := htable
  have ordered : t.Finds (t.bindOrder (order.map OrderTerm.item)) order := by
    unfold bindOrder
    clear hbinds
    induction order with
    | nil => exact .pure rfl
    | cons o os ih =>
      obtain ⟨ho, hos⟩ := List.forall_mem_cons.1 sorts
      rw [List.map_cons, List.mapM_cons]
      have item : t.Finds (t.bindOrderItem o.item) o := ho.lookUp_finds.bind (.pure rfl)
      exact item.bind ((ih hos).bind (.pure rfl))
  have found' : (Statement.filter (statement ⟨t.name, root, limit, order⟩)).targetOn r ds =
      .ok (k, t) := found
  have hlimit : (shownLimit limit).getD noLimit = if 0 ≤ limit then limit else noLimit := by
    unfold shownLimit
    split <;> rfl
  have bound : t.Finds (Statement.bindOn r (.filter (statement ⟨t.name, root, limit, order⟩)) t)
      (Tree.reread ⟨t.name, root, limit, order⟩) :=
    hbinds.bindTerm_finds.bind (ordered.bind (.pure (by rw [statement, hlimit]; rfl)))
  rw [Statement.treeOn, found', Result.ok_bind]
  exact (bound t.bound coherent).1

end Tree

/-! ### What statements are bound as -/

/-- A limit that was read is a number of 32 bits. -/
theorem DerivesLimit.getD_le {ts : List Token} {limit : Option Int} (h : DerivesLimit ts limit) :
    limit.getD noLimit ≤ 2147483647 := by
  cases h with
  | none => decide
  | top _ value =>
    have hfits := fitsInt32_iff.1 (Option.filter_eq_some_iff.1 value).2
    rw [Option.getD_some]
    omega

section Bound

variable {r : Request} {ds : DataSet} {t : Table} {tree : Tree} {s : Statement} {ts : List Token}

/-- A statement that was read is bound on a table as one that can be written. -/
theorem bindOn_yields_isOver (columns : ∀ c ∈ t.columns, IsName c.name)
    (h : DerivesStatement ts s) : t.Yields (s.bindOn r t) fun tree => tree.IsOver t := by
  have none_le : noLimit ≤ 2147483647 := by decide
  cases h with
  | @identifier _ id =>
    have column : t.Yields (orElseFault (t.lookUp (id.field r.idFields))
        (.resolution (.noPrimaryIdField t.name (id.field r.idFields))))
        (t.Resolves (id.field r.idFields)) :=
      (Table.lookUp_yields _).tryCatch (fun _ hc => hc) fun _ _ => .throw nofun
    refine column.bind fun c hc => .pure ?_
    obtain ⟨ts, left⟩ := exists_written_resolved columns hc
    obtain ⟨us, right⟩ := Expr.exists_written_literal id.toValue
    exact ⟨rfl, Expr.exists_written_binary _ left right,
      (Table.Binds.binary (.column hc) (.literal _)).reread, List.forall_mem_nil _, none_le⟩
  | condition _ h =>
    refine (Table.bindTerm_yields _).bind fun e he => .pure ?_
    exact ⟨rfl, exists_written columns h he, he.reread, List.forall_mem_nil _, none_le⟩
  | filter h =>
    cases h with
    | where_ table limited h sorted limitedLast once =>
      refine (Table.bindTerm_yields _).bind fun e he =>
        (Table.bindOrder_yields _).bind fun order ho => .pure ?_
      refine ⟨rfl, exists_written columns h he, he.reread, fun o hmem => ?_, ?_⟩
      · obtain ⟨item, -, hresolves⟩ := ho o hmem
        exact hresolves.own_name
      · rcases once with rfl | rfl
        · simpa using DerivesLimit.getD_le limitedLast
        · simpa using DerivesLimit.getD_le limited

/-- A statement that was read is bound as one on a table that is found by its name. -/
theorem isOver_of_treeOn (reachable : ∀ t ∈ ds.tables, t.Reachable)
    (columns : ∀ t ∈ ds.tables, ∀ c ∈ t.columns, IsName c.name) (hs : DerivesStatement ts s)
    (h : s.treeOn r ds = .ok tree) :
    ∃ k, ∃ t ∈ ds.tables, ds.table t.name = .ok (k, t) ∧ tree.IsOver t := by
  obtain ⟨⟨k, t⟩, htarget, hbind⟩ := Result.bind_eq_ok.1 h
  have hmem := Statement.mem_of_targetOn htarget
  have found : ∃ name, ds.find? name = some (k, t) := by
    cases s with
    | filter f => exact ⟨_, DataSet.table_eq_ok.1 htarget⟩
    | condition _ | identifier _ => exact ⟨_, (Request.primaryOn_eq_ok.1 htarget).2⟩
  obtain ⟨name, hfind⟩ := found
  exact ⟨k, t, hmem, DataSet.table_eq_ok.2 (DataSet.find?_name hfind),
    (bindOn_yields_isOver (columns t hmem) hs).remembering (reachable t hmem).coherent hbind⟩

end Bound

end TableFilter
