import TableFilter.Proofs.Statement.Grammar

/-!
# Statements that are read are those of the grammar

Both directions at once: what a reader takes is in the grammar, and what is in the grammar is taken,
with all of its tokens and no more. A semicolon and the end are all that may follow a statement, and
no reader tells them apart.

## Main results

* `orderItems_run'_iff`: columns to sort by
* `statements_run'_iff`: filters
-/

namespace TableFilter.Grammar

open Result TokenReader

variable {ts rest : List Token}

/-- The next token ends the statement before it. -/
def Ends (rest : List Token) : Prop := (rest.head?.getD .eof).endsStatement = true

theorem ends_of_eof (h : rest.head?.getD .eof = .eof) : Ends rest := by
  rw [Ends, h]
  rfl

theorem ends_semicolon (rest : List Token) : Ends (.symbol .semicolon :: rest) := rfl

theorem Ends.ne (h : Ends rest) {t : Token} (ht : t.endsStatement = false) :
    rest.head?.getD .eof ≠ t := by
  rintro rfl
  exact Bool.false_ne_true (ht.symm.trans h)

/-- A statement ends at a semicolon or at the end of the tokens. -/
theorem Ends.cases (h : Ends rest) :
    rest.head?.getD .eof = .eof ∨ ∃ tail, rest = .symbol .semicolon :: tail := by
  cases rest with
  | nil => exact .inl rfl
  | cons t tail =>
    unfold Ends Token.endsStatement at h
    split at h
    · next heq =>
      obtain rfl : t = .symbol .semicolon := heq
      exact .inr ⟨tail, rfl⟩
    · next heq => exact .inl heq
    · cases h

/-! ### Sorting -/

theorem reads_ascending : Reads ascending Direction := by
  intro ts a rest h
  cases ts with
  | nil =>
    cases h
    exact ⟨[], rfl, .none⟩
  | cons t ts =>
    simp only [ascending, bind_apply, peek_apply, List.head?_cons, Option.getD_some, ok_bind] at h
    split at h
    · cases h
      exact ⟨_, rfl, .asc⟩
    · cases h
      exact ⟨_, rfl, .desc⟩
    · cases h
      exact ⟨[], rfl, .none⟩

theorem ascending_apply {direction : List Token} {asc : Bool} (h : Direction direction asc)
    (hasc : rest.head?.getD .eof ≠ .keyword .asc) (hdesc : rest.head?.getD .eof ≠ .keyword .desc) :
    ascending (direction ++ rest) = .ok (asc, rest) := by
  cases h with
  | none =>
    simp only [ascending, bind_apply, List.nil_append, peek_apply, ok_bind]
    rfl
  | asc => rfl
  | desc => rfl

theorem reads_orderItem : Reads orderItem DerivesItem := by
  intro ts item rest h
  obtain ⟨exact, mid, hexact, hmore⟩ := bind_ok.1 h
  obtain ⟨name, mid₂, hname, hafter⟩ := bind_ok.1 hmore
  obtain rfl := identifier_ok hname
  obtain ⟨asc, mid₃, hasc, hend⟩ := bind_ok.1 hafter
  obtain ⟨direction, rfl, hdirection⟩ := reads_ascending hasc
  cases hend
  rcases skipIf_ok (by decide) hexact with ⟨rfl, rfl⟩ | ⟨rfl, rfl, -⟩
  · exact ⟨_, by simp [binaryTokens], .column true name hdirection⟩
  · exact ⟨_, by simp [binaryTokens], .column false name hdirection⟩

theorem orderItem_apply {item : OrderItem} (h : DerivesItem ts item)
    (hasc : rest.head?.getD .eof ≠ .keyword .asc) (hdesc : rest.head?.getD .eof ≠ .keyword .desc) :
    orderItem (ts ++ rest) = .ok (item, rest) := by
  obtain ⟨exact, name, directed⟩ := h
  have hexact : ∀ more, skipIf (.keyword .binary) (binaryTokens exact ++ .identifier name :: more) =
      .ok (exact, .identifier name :: more) := by
    intro more
    cases exact with
    | true => exact skipIf_cons _ _
    | false => exact skipIf_of_ne (by simp [binaryTokens])
  have hname : ∀ more, identifier (.identifier name :: more) = .ok (name, more) := fun more => rfl
  simp only [orderItem, bind_apply, List.append_assoc, List.cons_append, hexact, hname, ok_bind,
    ascending_apply directed hasc hdesc, pure_apply]

theorem reads_orderItems : Reads orderItems DerivesItems :=
  reads_orderItem.commaSeparated .one .cons

theorem DerivesItems.length_le {items : List OrderItem} (h : DerivesItems ts items) :
    items.length ≤ ts.length := by
  have hitem : ∀ {ts item}, DerivesItem ts item → 0 < ts.length := by
    rintro _ _ ⟨exact, name, directed⟩
    rw [List.length_append, List.length_cons]
    omega
  induction h with
  | one h => exact hitem h
  | cons h _ ih =>
    have := hitem h
    simp only [List.length_append, List.length_cons]
    omega

theorem DerivesItems.length_pos {items : List OrderItem} (h : DerivesItems ts items) :
    0 < items.length := by
  cases h <;> exact Nat.succ_pos _

/-- Columns are read up to a token that goes on with none of them. -/
theorem orderItems_apply {items : List OrderItem} (h : DerivesItems ts items)
    (hrest : ∀ t ∈ [.keyword .asc, .keyword .desc, .symbol .comma], rest.head?.getD .eof ≠ t) :
    orderItems (ts ++ rest) = .ok (items, rest) := by
  have hlast : ∀ {ts item}, DerivesItem ts item → orderItem (ts ++ rest) = .ok (item, rest) :=
    fun h => orderItem_apply h (hrest _ (by simp)) (hrest _ (by simp))
  have hcomma : rest.head? ≠ some (.symbol .comma) := fun h =>
    hrest (.symbol .comma) (by simp) (by rw [h]; rfl)
  have hnext : ∀ {ts item} more, DerivesItem ts item →
      orderItem (ts ++ .symbol .comma :: more) = .ok (item, .symbol .comma :: more) :=
    fun more h => orderItem_apply h (by simp) (by simp)
  -- The bound on the number of items counts those after the first.
  have hall : ∀ {ts items}, DerivesItems ts items → ∀ n, items.length ≤ n + 1 →
      (orderItem (ts ++ rest) >>= fun p =>
        (commaSeparatedFrom orderItem n p.2).map fun q => (p.1 :: q.1, q.2)) =
          .ok (items, rest) := by
    intro ts items h
    induction h with
    | one h =>
      intro n _
      rw [hlast h, ok_bind, commaSeparatedFrom_of_ne orderItem n hcomma]
      rfl
    | @cons ts more item items h all ih =>
      intro n hn
      have hmore := all.length_pos
      rw [List.length_cons] at hn
      obtain ⟨n, rfl⟩ : ∃ k, n = k + 1 := Nat.exists_eq_succ_of_ne_zero (by omega)
      rw [List.append_assoc, List.cons_append, hnext _ h, ok_bind, commaSeparatedFrom_comma,
        ih n (by omega)]
      rfl
  rw [orderItems, commaSeparated_apply]
  cases h with
  | one h =>
    have hread := hall (.one h) rest.length (by simp)
    rw [hlast h] at hread ⊢
    exact hread
  | @cons ts more item items h all =>
    have hlength := all.length_le
    have hread := hall (.cons h all) (.symbol .comma :: (more ++ rest)).length (by simp; omega)
    rw [List.append_assoc, List.cons_append, hnext _ h] at hread ⊢
    exact hread

/-! ### Statements on a named table -/

theorem reads_minusSign : Reads minusSign LimitSign := by
  intro ts negative rest h
  obtain ⟨minus, mid, hminus, hmore⟩ := bind_ok.1 h
  rcases skipIf_ok (by decide) hminus with ⟨rfl, rfl⟩ | ⟨rfl, rfl, -⟩
  · cases hmore
    exact ⟨_, rfl, .minus⟩
  · obtain ⟨plus, mid₂, hplus, hend⟩ := bind_ok.1 hmore
    cases hend
    rcases skipIf_ok (by decide) hplus with ⟨rfl, rfl⟩ | ⟨rfl, rfl, -⟩
    · exact ⟨_, rfl, .plus⟩
    · exact ⟨[], rfl, .none⟩

theorem minusSign_apply {sign : List Token} {negative : Bool} (h : LimitSign sign negative)
    (digits : String) (rest : List Token) :
    minusSign (sign ++ .integer digits :: rest) = .ok (negative, .integer digits :: rest) := by
  cases h <;> rfl

theorem reads_rowLimit? : Reads rowLimit? DerivesLimit := by
  intro ts limit rest h
  obtain ⟨found, mid, htop, hmore⟩ := bind_ok.1 h
  rcases skipIf_ok (by decide) htop with ⟨rfl, rfl⟩ | ⟨rfl, rfl, -⟩
  · obtain ⟨i, mid₂, hlimit, hend⟩ := bind_ok.1 hmore
    cases hend
    obtain ⟨negative, mid₃, hsign, hdigits⟩ := bind_ok.1 hlimit
    obtain ⟨sign, rfl, hsigned⟩ := reads_minusSign hsign
    cases mid₃ with
    | nil => cases hdigits
    | cons t tail =>
      cases t with
      | integer digits =>
        simp only [bind_apply, peek_apply, List.head?_cons, Option.getD_some, ok_bind,
          advance_apply, List.tail_cons] at hdigits
        cases hvalue : (intOfText? (signedText negative digits).toList).filter fitsInt32 with
        | some i =>
          rw [hvalue] at hdigits
          cases hdigits
          exact ⟨_, by simp, .top hsigned hvalue⟩
        | none =>
          rw [hvalue] at hdigits
          cases hdigits
      | _ => cases hdigits
  · cases hmore
    exact ⟨[], rfl, .none⟩

theorem rowLimit?_apply {limit : Option Int} (h : DerivesLimit ts limit)
    (hrest : rest.head?.getD .eof ≠ .keyword .top) :
    rowLimit? (ts ++ rest) = .ok (limit, rest) := by
  cases h with
  | none =>
    rw [List.nil_append, rowLimit?, bind_apply, skipIf_of_ne hrest]
    rfl
  | @top sign negative digits i signed value =>
    simp only [rowLimit?, rowLimit, bind_apply, List.cons_append, List.append_assoc,
      List.nil_append, skipIf_cons, ok_bind, minusSign_apply signed, peek_apply, List.head?_cons,
      Option.getD_some, advance_apply, List.tail_cons, value, if_true, pure_apply]

theorem reads_orderClause : Reads orderClause DerivesOrder := by
  intro ts items rest h
  obtain ⟨found, mid, horder, hmore⟩ := bind_ok.1 h
  rcases skipIf_ok (by decide) horder with ⟨rfl, rfl⟩ | ⟨rfl, rfl, -⟩
  · obtain ⟨_, mid₂, hby, hitems⟩ := bind_ok.1 hmore
    obtain rfl := expect_ok (by decide) hby
    obtain ⟨used, rfl, hd⟩ := reads_orderItems hitems
    exact ⟨_, by simp, .by_ hd⟩
  · cases hmore
    exact ⟨[], rfl, .none⟩

theorem orderClause_apply {items : List OrderItem} (h : DerivesOrder ts items)
    (hrest : ∀ t ∈ [.keyword .asc, .keyword .desc, .symbol .comma, .keyword .order],
      rest.head?.getD .eof ≠ t) : orderClause (ts ++ rest) = .ok (items, rest) := by
  cases h with
  | none =>
    rw [List.nil_append, orderClause, bind_apply, skipIf_of_ne (hrest _ (by simp))]
    rfl
  | by_ h =>
    have hread := orderItems_apply h fun t ht =>
      hrest t (List.mem_append_left [Token.keyword .order] ht)
    simp only [orderClause, bind_apply, List.cons_append, skipIf_cons, ok_bind, if_true,
      expect_cons, hread]

theorem finalLimit_ok {before limit : Option Int} (h : finalLimit before ts = .ok (limit, rest)) :
    ∃ used after, ts = used ++ rest ∧ DerivesLimit used after ∧
      (before = none ∨ after = none) ∧ limit = (after <|> before) := by
  obtain ⟨t, mid, hpeek, hmore⟩ := bind_ok.1 h
  cases hpeek
  split at hmore
  · cases hmore
  · next hrepeated =>
    obtain ⟨after, mid₂, hlimit, hend⟩ := bind_ok.1 hmore
    cases hend
    obtain ⟨used, rfl, hd⟩ := reads_rowLimit? hlimit
    refine ⟨used, after, rfl, hd, ?_, rfl⟩
    cases before with
    | none => exact .inl rfl
    | some i =>
      cases hd with
      | none => exact .inr rfl
      | top => exact absurd rfl hrepeated

theorem finalLimit_apply {before after : Option Int} (h : DerivesLimit ts after)
    (once : before = none ∨ after = none) (hrest : rest.head?.getD .eof ≠ .keyword .top) :
    finalLimit before (ts ++ rest) = .ok (after <|> before, rest) := by
  have hrepeated :
      (before.isSome && (ts ++ rest).head?.getD .eof == .keyword .top) = false := by
    rcases once with rfl | rfl
    · rfl
    · cases h
      rw [List.nil_append, beq_eq_false_iff_ne.2 hrest, Bool.and_false]
  simp only [finalLimit, bind_apply, peek_apply, ok_bind, hrepeated, Bool.false_eq_true, if_false,
    rowLimit?_apply h hrest, pure_apply]

theorem reads_reader : Reads Term.reader (Derives .disjunction) := fun _ _ _ h =>
  readerTo_reads _ h

/-- A term is read if a token follows that does not go on with it. -/
theorem reader_apply {e : Term} (h : Derives .disjunction ts e) (hrest : nextRank rest = 0) :
    Term.reader (ts ++ rest) = .ok (e, rest) := by
  refine (reaches_of_derives h).readerTo_eq ?_ hrest
  rw [List.length_append]
  omega

theorem reads_filterStatement : Reads filterStatement DerivesFilter := by
  intro ts f rest h
  obtain ⟨_, mid, hfilter, hmore⟩ := bind_ok.1 h
  obtain rfl := expect_ok (by decide) hfilter
  obtain ⟨before, mid₂, hbefore, hafterLimit⟩ := bind_ok.1 hmore
  obtain ⟨first, rfl, hfirst⟩ := reads_rowLimit? hbefore
  obtain ⟨table, mid₃, htable, hafterName⟩ := bind_ok.1 hafterLimit
  obtain rfl := identifier_ok htable
  obtain ⟨_, mid₄, hwhere, hafterWhere⟩ := bind_ok.1 hafterName
  obtain rfl := expect_ok (by decide) hwhere
  obtain ⟨e, mid₅, hcondition, hafterTerm⟩ := bind_ok.1 hafterWhere
  obtain ⟨condition, rfl, hd⟩ := reads_reader hcondition
  obtain ⟨items, mid₆, horder, hafterOrder⟩ := bind_ok.1 hafterTerm
  obtain ⟨order, rfl, hsorted⟩ := reads_orderClause horder
  obtain ⟨limit, mid₇, hlimit, hend⟩ := bind_ok.1 hafterOrder
  obtain ⟨last, after, rfl, hlast, once, rfl⟩ := finalLimit_ok hlimit
  cases hend
  exact ⟨_, by simp, .where_ table hfirst hd hsorted hlast once⟩

theorem Ends.nextRank_eq (h : Ends rest) : nextRank rest = 0 := by
  rcases h.cases with heof | ⟨tail, rfl⟩
  · rw [nextRank, heof]
    rfl
  · rfl

/-- After the columns to sort by, there is a number of rows or the end of the statement. -/
theorem DerivesLimit.next {limit : Option Int} (h : DerivesLimit ts limit) (hrest : Ends rest) :
    (ts ++ rest).head?.getD .eof = .keyword .top ∨ Ends (ts ++ rest) := by
  cases h with
  | none => exact .inr hrest
  | top => exact .inl rfl

theorem DerivesOrder.nextRank_eq {items : List OrderItem} (h : DerivesOrder ts items)
    (hrest : nextRank rest = 0) : nextRank (ts ++ rest) = 0 := by
  cases h with
  | none => exact hrest
  | by_ => rfl

theorem filterStatement_apply {f : FilterStatement} (h : DerivesFilter ts f) (hrest : Ends rest) :
    filterStatement (ts ++ rest) = .ok (f, rest) := by
  obtain @⟨table, first, condition, order, last, before, after, e, items, limited, hd, sorted,
    limitedLast, once⟩ := h
  have hbefore (more : List Token) : rowLimit? (first ++ .identifier table :: more) =
      .ok (before, .identifier table :: more) := rowLimit?_apply limited (by simp)
  have hname : ∀ more, identifier (.identifier table :: more) = .ok (table, more) := fun more => rfl
  have hnext := limitedLast.next hrest
  have hrank : nextRank (last ++ rest) = 0 := by
    rcases hnext with htop | hends
    · rw [nextRank, htop]
      rfl
    · exact hends.nextRank_eq
  have hreader : Term.reader (condition ++ (order ++ (last ++ rest))) = _ :=
    reader_apply hd (sorted.nextRank_eq hrank)
  have horder : orderClause (order ++ (last ++ rest)) = .ok (items, last ++ rest) := by
    refine orderClause_apply sorted fun t ht => ?_
    simp only [List.mem_cons, List.not_mem_nil, or_false] at ht
    rcases hnext with htop | hends
    · rw [htop]
      rcases ht with rfl | rfl | rfl | rfl <;> simp
    · rcases ht with rfl | rfl | rfl | rfl <;> exact hends.ne rfl
  have hlimit := finalLimit_apply limitedLast once (hrest.ne rfl)
  simp only [filterStatement, bind_apply, List.cons_append, List.append_assoc, expect_cons, ok_bind,
    hbefore, hname, hreader, horder, hlimit, pure_apply]

/-! ### Single statements -/

theorem idLiteral?_eq_some_iff {t : Token} {id : IdLiteral} :
    idLiteral? t = some (.ok id) ↔ Identifies t id := by
  constructor
  · intro h
    unfold idLiteral? at h
    split at h
    · next text =>
      cases hg : guidLiteral text with
      | error e =>
        rw [hg] at h
        cases h
      | ok g =>
        rw [hg] at h
        cases h
        exact .guid hg
    · cases h
      exact .measurementKey _
    · cases h
      exact .pointTag _
    · cases h
  · intro h
    cases h with
    | guid h =>
      rw [idLiteral?, h]
      rfl
    | measurementKey => rfl
    | pointTag => rfl

theorem idLiteral?_eq_none {t : Token} : idLiteral? t = none ↔ ¬ StandsAlone t := by
  constructor
  · rintro h ⟨⟩ <;> cases h
  · intro h
    unfold idLiteral?
    split
    · exact absurd (.guid _) h
    · exact absurd (.measurementKey _) h
    · exact absurd (.pointTag _) h
    · rfl

/-- The identifier at the start of the tokens, if it is a statement. -/
def aloneId? (ts : List Token) : Option (Result IdLiteral) :=
  if (ts[1]?.getD Token.eof).endsStatement then idLiteral? (ts.head?.getD .eof) else none

theorem statement_of_some {id : Result IdLiteral} (h : aloneId? ts = some id) :
    statement ts = id.map fun id => (.identifier id, ts.tail) := by
  unfold aloneId? at h
  rw [statement, bind_apply]
  cases id <;> simp [bind_apply, h, Except.map]

theorem statement_of_none (h : aloneId? ts = none) :
    statement ts =
      if ts.head?.getD .eof = .keyword .filter then
        (filterStatement ts).map fun p => (.filter p.1, p.2)
      else (Term.reader ts).map fun p => (.condition p.1, p.2) := by
  unfold aloneId? at h
  rw [statement, bind_apply]
  simp only [bind_apply, peek_apply, peekSecond_apply, ok_bind, h, beq_iff_eq]
  split
  · cases hread : filterStatement ts <;> simp [hread, Except.map]
  · cases hread : Term.reader ts <;> simp [hread, Except.map]

/-- A token that is all there is of a statement. -/
theorem aloneId?_singleton (t : Token) (hrest : Ends rest) :
    aloneId? ([t] ++ rest) = idLiteral? t := by
  have hsecond : (([t] ++ rest)[1]?.getD Token.eof).endsStatement = true := by
    rw [List.singleton_append, List.getElem?_cons_succ, ← List.head?_eq_getElem?]
    exact hrest
  rw [aloneId?, if_pos hsecond]
  rfl

/-- What is read up to the end of a statement is a statement. -/
theorem statement_ok {s : Statement} (h : statement ts = .ok (s, rest)) (hrest : Ends rest) :
    ∃ used, ts = used ++ rest ∧ DerivesStatement used s := by
  cases hid : aloneId? ts with
  | some id =>
    rw [statement_of_some hid] at h
    obtain ⟨a, rfl, heq⟩ := map_eq_ok.1 h
    cases heq
    unfold aloneId? at hid
    split at hid
    · cases ts with
      | nil => cases hid
      | cons t tail => exact ⟨[t], rfl, .identifier (idLiteral?_eq_some_iff.1 hid)⟩
    · cases hid
  | none =>
    rw [statement_of_none hid] at h
    split at h
    · obtain ⟨⟨f, mid⟩, hfilter, heq⟩ := map_eq_ok.1 h
      cases heq
      obtain ⟨used, rfl, hd⟩ := reads_filterStatement hfilter
      exact ⟨used, rfl, .filter hd⟩
    · obtain ⟨⟨e, mid⟩, hterm, heq⟩ := map_eq_ok.1 h
      cases heq
      obtain ⟨used, rfl, hd⟩ := reads_reader hterm
      refine ⟨used, rfl, .condition ?_ hd⟩
      rintro t rfl
      rw [aloneId?_singleton t hrest] at hid
      exact idLiteral?_eq_none.1 hid

/-- A statement is read with all of its tokens. -/
theorem statement_apply {s : Statement} (h : DerivesStatement ts s) (hrest : Ends rest) :
    statement (ts ++ rest) = .ok (s, rest) := by
  have hcontinues := continues_of_statement h
  cases h with
  | @identifier t id h =>
    have hid : aloneId? ([t] ++ rest) = some (.ok id) :=
      (aloneId?_singleton t hrest).trans (idLiteral?_eq_some_iff.2 h)
    rw [statement_of_some hid]
    rfl
  | filter h =>
    have hread := filterStatement_apply h hrest
    cases h
    have hid : ∀ more, aloneId? (.keyword .filter :: more) = none := fun more => by
      unfold aloneId?
      split <;> rfl
    have hhead : ∀ more, (Token.keyword .filter :: more).head?.getD .eof = .keyword .filter :=
      fun _ => rfl
    rw [List.cons_append] at hread ⊢
    rw [statement_of_none (hid _), if_pos (hhead _), hread, map_ok]
  | condition alone h =>
    obtain ⟨t, tail, rfl, hstarts⟩ := (reaches_of_derives h).1
    have hid : aloneId? (t :: tail ++ rest) = none := by
      cases tail with
      | nil =>
        rw [aloneId?_singleton t hrest]
        exact idLiteral?_eq_none.2 (alone t rfl)
      | cons u tail =>
        simp only [continues_cons] at hcontinues
        have hsecond : ((t :: u :: tail ++ rest)[1]?.getD Token.eof).endsStatement = false :=
          hcontinues.2.1
        rw [aloneId?, hsecond]
        rfl
    have hfilter : (t :: tail ++ rest).head?.getD .eof ≠ .keyword .filter := by
      rintro heq
      obtain rfl : t = .keyword .filter := heq
      cases hstarts
    rw [statement_of_none hid, if_neg hfilter, reader_apply h hrest.nextRank_eq, map_ok]

theorem endedStatement_apply (ts : List Token) :
    endedStatement ts = (statement ts >>= fun p =>
      if (p.2.head?.getD Token.eof).endsStatement then .ok p
      else .error (.malformed (.unexpectedToken .statementEnd (p.2.head?.getD .eof)))) := by
  rw [endedStatement, bind_apply]
  cases statement ts with
  | error e => rfl
  | ok p =>
    simp only [ok_bind, bind_apply, peek_apply]
    split <;> rfl

/-! ### All statements -/

theorem statementsTo_eof (h : ts.head?.getD .eof = .eof) (n : Nat) :
    statementsTo n ts = .ok ([], ts) := by
  cases n with
  | zero => rfl
  | succ n =>
    rw [statementsTo, bind_apply]
    simp only [peek_apply, ok_bind, h]
    rfl

theorem statementsTo_semicolon (n : Nat) (ts : List Token) :
    statementsTo (n + 1) (.symbol .semicolon :: ts) = statementsTo n ts := rfl

theorem statementsTo_of_not_ends (h : ¬ Ends ts) (n : Nat) :
    statementsTo (n + 1) ts = (endedStatement ts >>= fun p =>
      (statementsTo n p.2).map fun q => (p.1 :: q.1, q.2)) := by
  have heof : ts.head?.getD .eof ≠ .eof := fun heq => h (ends_of_eof heq)
  have hsemicolon : ts.head?.getD .eof ≠ .symbol .semicolon := fun heq => h (by rw [Ends, heq]; rfl)
  rw [statementsTo, bind_apply]
  simp [bind_apply]

theorem beforeEnd_cons {t : Token} (h : t ≠ .eof) (ts : List Token) :
    beforeEnd (t :: ts) = t :: beforeEnd ts :=
  List.takeWhile_cons_of_pos (bne_iff_ne.2 h)

theorem derives_of_statementsTo {n : Nat} : ∀ {ts rest : List Token} {ss : List Statement},
    ts.length < n → statementsTo n ts = .ok (ss, rest) → DerivesStatements (beforeEnd ts) ss := by
  induction n with
  | zero => exact fun h _ => absurd h (Nat.not_lt_zero _)
  | succ n ih =>
    intro ts rest ss hn h
    by_cases hends : Ends ts
    · rcases hends.cases with heof | ⟨tail, rfl⟩
      · rw [statementsTo_eof heof] at h
        cases h
        rw [beforeEnd_eof heof]
        exact .done
      · rw [statementsTo_semicolon] at h
        rw [beforeEnd_cons (by decide)]
        exact .empty (ih (by simpa using hn) h)
    · rw [statementsTo_of_not_ends hends, endedStatement_apply] at h
      obtain ⟨⟨s, mid⟩, hended, hmore⟩ := bind_eq_ok.1 h
      obtain ⟨⟨s', mid'⟩, hstatement, hcheck⟩ := bind_eq_ok.1 hended
      split at hcheck
      · next hmid =>
        cases hcheck
        obtain ⟨⟨ss, rest'⟩, hothers, heq⟩ := map_eq_ok.1 hmore
        cases heq
        obtain ⟨used, rfl, hd⟩ := statement_ok hstatement hmid
        have hshorter : mid.length < n := by
          have := List.length_pos_iff.2 (ne_nil_of_statement hd)
          rw [List.length_append] at hn
          omega
        have hothers' := ih hshorter hothers
        rw [beforeEnd_append (continues_of_statement hd).eof_notMem]
        rcases Ends.cases hmid with hlast | ⟨tail, rfl⟩
        · rw [statementsTo_eof hlast] at hothers
          cases hothers
          rw [beforeEnd_eof hlast, List.append_nil]
          exact .last hd
        · rw [beforeEnd_cons (by decide), derivesStatements_semicolon] at hothers'
          rw [beforeEnd_cons (by decide)]
          exact .cons hd hothers'
      · cases hcheck

theorem endedStatement_of_derives {s : Statement} (h : DerivesStatement ts s) (hrest : Ends rest) :
    endedStatement (ts ++ rest) = .ok (s, rest) := by
  rw [endedStatement_apply, statement_apply h hrest]
  exact if_pos hrest

theorem not_ends_append {s : Statement} (h : DerivesStatement ts s) (rest : List Token) :
    ¬ Ends (ts ++ rest) := by
  obtain ⟨t, tail, rfl⟩ := List.exists_cons_of_ne_nil (ne_nil_of_statement h)
  intro hends
  exact Bool.false_ne_true ((continues_of_statement h t (.head _)).symm.trans hends)

theorem statementsTo_of_derives {ss : List Statement} (h : DerivesStatements ts ss)
    (hrest : rest.head?.getD .eof = .eof) :
    ∀ {n : Nat}, ts.length < n → statementsTo n (ts ++ rest) = .ok (ss, rest) := by
  have hends : Ends rest := ends_of_eof hrest
  induction h with
  | done => exact fun _ => statementsTo_eof hrest _
  | @empty ts ss _ ih =>
    intro n hn
    obtain ⟨n, rfl⟩ := Nat.exists_eq_succ_of_ne_zero (Nat.ne_of_gt (Nat.zero_lt_of_lt hn))
    rw [List.cons_append, statementsTo_semicolon]
    exact ih (by simpa using hn)
  | @last ts s h =>
    intro n hn
    obtain ⟨n, rfl⟩ := Nat.exists_eq_succ_of_ne_zero (Nat.ne_of_gt (Nat.zero_lt_of_lt hn))
    rw [statementsTo_of_not_ends (not_ends_append h rest), endedStatement_of_derives h hends,
      ok_bind, statementsTo_eof hrest]
    rfl
  | @cons ts more s ss h _ ih =>
    intro n hn
    rw [List.length_append, List.length_cons] at hn
    have hpos := List.length_pos_iff.2 (ne_nil_of_statement h)
    obtain ⟨n, rfl⟩ : ∃ k, n = k + 2 := ⟨n - 2, by omega⟩
    rw [List.append_assoc, List.cons_append, statementsTo_of_not_ends (not_ends_append h _),
      endedStatement_of_derives h (ends_semicolon _), ok_bind, statementsTo_semicolon,
      ih (by omega)]
    rfl

/-- The statements that are read are those of the tokens before the end. -/
theorem statements_run'_iff {ss : List Statement} :
    statements.run' ts = .ok ss ↔ DerivesStatements (beforeEnd ts) ss := by
  rw [run'_ok_iff]
  constructor
  · rintro ⟨rest, h⟩
    exact derives_of_statementsTo (Nat.lt_succ_self _) h
  · intro h
    have hlength : (beforeEnd ts).length < ts.length + 1 :=
      Nat.lt_succ_of_le (List.takeWhile_sublist _).length_le
    have hread := statementsTo_of_derives h (head_dropWhile_eof ts) hlength
    rw [beforeEnd, List.takeWhile_append_dropWhile] at hread
    exact ⟨_, hread⟩

/-- The columns to sort by that are read are those of the tokens before the end. -/
theorem orderItems_run'_iff {items : List OrderItem} :
    (toEnd orderItems).run' ts = .ok items ↔ DerivesItems (beforeEnd ts) items := by
  rw [run'_ok_iff]
  constructor
  · rintro ⟨rest, h⟩
    obtain ⟨items', mid, hread, hmore⟩ := bind_ok.1 h
    obtain ⟨t, mid₂, hpeek, hend⟩ := bind_ok.1 hmore
    cases hpeek
    obtain ⟨used, rfl, hd⟩ := reads_orderItems hread
    split at hend
    · next heof =>
      cases hend
      rwa [beforeEnd_append (continues_of_items hd).eof_notMem, beforeEnd_eof (eq_of_beq heof),
        List.append_nil]
    · cases hend
  · intro h
    have heof := head_dropWhile_eof ts
    have hread : orderItems (beforeEnd ts ++ ts.dropWhile (· != .eof)) =
        .ok (items, ts.dropWhile (· != .eof)) := by
      refine orderItems_apply h fun t ht => ?_
      rw [heof]
      simp only [List.mem_cons, List.not_mem_nil, or_false] at ht
      rcases ht with rfl | rfl | rfl <;> simp
    rw [beforeEnd, List.takeWhile_append_dropWhile] at hread
    refine ⟨ts.dropWhile (· != .eof), ?_⟩
    rw [toEnd, bind_apply, hread]
    simp [bind_apply, heof]

end TableFilter.Grammar
