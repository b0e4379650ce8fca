import TableFilter.Proofs.Number.Digits
import TableFilter.Proofs.Selection.Single
import TableFilter.Proofs.Statement.Joining

/-!
# One selection, three ways to ask for it

Rows of a table can be selected by a term, columns to sort by and a limit that are given apart, by a
statement that names the table, and by a bare term with the table as the primary one. All three come
down to binding the same on the same table, so that they select the same rows and fail alike.

The texts stand in the statement line by line. A term ends where the keyword of the sort clause
starts, comments end with their lines, and empty statements before a bare term are the one thing
that a statement on a named table has no place for.

## Main results

* `lexes_filterHead`: the tokens at the start of a statement on a named table
* `bindSelection_eq`: a selection from one table binds as a statement does
* `selectRows_filterText`: the ways to select agree
-/

namespace TableFilter

open Grammar TableFilter.Text TableFilter.Number

variable {text : String} {cs : List Char} {ts : List Token}

/-! ### Blank text -/

theorem skipIgnored_of_blank (h : ∀ c ∈ cs, isBlank c = true) : skipIgnored false cs = [] := by
  induction cs with
  | nil => rfl
  | cons c cs ih =>
    rw [skipIgnored, if_neg Bool.false_ne_true, if_pos (h c (.head _))]
    exact ih fun d hd => h d (.tail _ hd)

theorem isBlank_of_trim_eq_nil (h : trim cs = []) : ∀ c ∈ cs, isBlank c = true := by
  induction cs with
  | nil => exact fun _ hc => nomatch hc
  | cons c cs ih =>
    rw [trim, trimLeft, List.dropWhile_cons] at h
    split at h
    · next hc => exact List.forall_mem_cons.2 ⟨hc, ih h⟩
    · next hc =>
      rw [trimRight, List.reverse_eq_nil_iff, List.dropWhile_eq_nil_iff] at h
      exact absurd (h c (List.mem_reverse.2 (.head _))) hc

/-- Text that holds columns to sort by is not blank. -/
theorem trim_of_items {items : List OrderItem} (h : OrderItem.listOfText text = .ok items) :
    (trim text.toList).isEmpty = false := by
  obtain ⟨ts, hlexes, hd⟩ := orderItem_listOfText_iff.1 h
  rw [List.isEmpty_eq_false_iff]
  intro htrim
  have hskip := skipIgnored_of_blank (isBlank_of_trim_eq_nil htrim)
  cases hlexes with
  | done => exact absurd hd.length_le (Nat.not_le.2 hd.length_pos)
  | token skip =>
    rw [hskip] at skip
    cases skip

/-! ### The written statement -/

section Texts

variable {name : String}

/-- The name of a table and the keyword after it. -/
theorem lexes_named (named : IsName name) :
    Lexes (name.toList ++ ' ' :: "WHERE".toList) [.identifier name, .keyword .where_, .eof] := by
  have hwhere : Lexes ("WHERE".toList ++ []) [.keyword .where_, .eof] :=
    (spells_keyword .where_ separated_nil).cons (.done rfl)
  exact (named.spells (separated_cons rfl _)).cons (.cons_blank (by decide) hwhere)

/-- The start of a statement on a named table with a limit. -/
theorem lexes_limitedHead (named : IsName name) (n : Nat) :
    Lexes ("FILTER TOP " ++ toString n ++ " " ++ name ++ " WHERE").toList
      [.keyword .filter, .keyword .top, .integer (toString n), .identifier name,
        .keyword .where_, .eof] := by
  have hn : (toString n).toList = natText n := String.toList_ofList
  have hlimit : Lexes (natText n ++ ' ' :: (name.toList ++ ' ' :: "WHERE".toList))
      [.integer (toString n), .identifier name, .keyword .where_, .eof] :=
    (spells_integer (isDigits_natText n) (separated_cons rfl _)).cons
      (.cons_blank (by decide) (lexes_named named))
  have htop := (spells_keyword .top (separated_cons rfl _)).cons
    (.cons_blank (show isBlank ' ' = true by decide) hlimit)
  have hfilter := (spells_keyword .filter (separated_cons rfl _)).cons
    (.cons_blank (show isBlank ' ' = true by decide) htop)
  simpa [hn, natText, Keyword.text] using hfilter

/-- The start of a statement on a named table without a limit. -/
theorem lexes_filterHead (named : IsName name) :
    Lexes ("FILTER " ++ name ++ " WHERE").toList
      [.keyword .filter, .identifier name, .keyword .where_, .eof] := by
  have hfilter := (spells_keyword .filter (separated_cons rfl _)).cons
    (.cons_blank (show isBlank ' ' = true by decide) (lexes_named named))
  simpa [Keyword.text] using hfilter

/-- The number of rows that a limit is written as. -/
theorem derivesLimit_toString {n : Nat} (hn : n ≤ 2147483647) :
    DerivesLimit [.keyword .top, .integer (toString n)] (some n) := by
  have hdigits : (signedText false (toString n)).toList = intText n := by
    have hn : (toString n).toList = natText n := String.toList_ofList
    have hnonneg : decide ((n : Int) < 0) = false := decide_eq_false (by omega)
    rw [toList_signedText, intText_eq, hn, hnonneg, Int.natAbs_natCast]
  have hvalue : (intOfText? (signedText false (toString n)).toList).filter fitsInt32 =
      some (n : Int) := by
    rw [hdigits, intOfText?_intText (by simp [fitsInt64]; omega)]
    exact if_pos (by simp [fitsInt32]; omega)
  exact .top .none hvalue

/-- A term, columns to sort by and a limit as a statement on a named table. -/
theorem limitedText_parsed (named : IsName name) {e o : String} {x : Term}
    {items : List OrderItem} (he : Term.ofText e = .ok x) (ho : OrderItem.listOfText o = .ok items)
    {n : Nat} (hn : n ≤ 2147483647) :
    Statement.listOfText
        ("FILTER TOP " ++ toString n ++ " " ++ name ++ " WHERE\n" ++ e ++ "\nORDER BY\n" ++ o) =
      .ok [.filter ⟨name, some n, x, items⟩] := by
  obtain ⟨es, hlexes, hx⟩ := term_ofText_iff.1 he
  obtain ⟨os, hsorts, hitems⟩ := orderItem_listOfText_iff.1 ho
  have hby : Lexes "ORDER BY".toList [.keyword .order, .keyword .by_, .eof] :=
    listOfText_eq_ok.1 (by cbv)
  have hall := (lexes_limitedHead named n).beforeEnd_line
    (hlexes.beforeEnd_line (hby.beforeEnd_line hsorts))
  have hderives : DerivesFilter (.keyword .filter :: ([.keyword .top, .integer (toString n)] ++
      .identifier name :: .keyword .where_ :: (beforeEnd es ++
        (.keyword .order :: .keyword .by_ :: beforeEnd os ++ [])))) ⟨name, some n, x, items⟩ :=
    .where_ name (derivesLimit_toString hn) hx (.by_ hitems) .none (.inr rfl)
  refine statement_listOfText_iff.2 ⟨_, by simpa using hall, ?_⟩
  simp only [beforeEnd_append (eof_notMem_beforeEnd _)]
  rw [List.append_nil] at hderives
  exact .last (.filter hderives)

/-- A text whose one statement is a term: the term comes first, and only semicolons follow. -/
theorem derives_of_condition {x : Term} (h : DerivesStatements ts [.condition x])
    (hhead : ts.head? ≠ some (.symbol .semicolon)) :
    ∃ term rest, ts = term ++ rest ∧ Derives .disjunction term x ∧
      (rest = [] ∨ ∃ more, rest = .symbol .semicolon :: more ∧ DerivesStatements more []) := by
  generalize hss : [Statement.condition x] = ss at h
  cases h with
  | done => cases hss
  | empty => exact absurd rfl hhead
  | last h =>
    cases hss
    cases h with
    | condition _ h => exact ⟨ts, [], by simp, h, .inl rfl⟩
  | cons h all =>
    cases hss
    cases h with
    | condition _ h => exact ⟨_, _, rfl, h, .inr ⟨_, rfl, all⟩⟩

/-- A bare term as a statement on a named table. -/
theorem filterText_parsed (named : IsName name) {e : String} {x : Term}
    (he : Statement.listOfText e = .ok [.condition x])
    (hfirst : ∀ ts, Token.listOfText e = .ok ts → ts.head? ≠ some (.symbol .semicolon)) :
    Statement.listOfText ("FILTER " ++ name ++ " WHERE\n" ++ e) =
      .ok [.filter ⟨name, none, x, []⟩] := by
  obtain ⟨es, hlexes, hstatements⟩ := statement_listOfText_iff.1 he
  have hhead : (beforeEnd es).head? ≠ some (.symbol .semicolon) := by
    intro hhead
    obtain ⟨more, hmore⟩ := List.head?_eq_some_iff.1 hhead
    refine hfirst es (listOfText_eq_ok.2 hlexes) ?_
    rw [hlexes.eq_beforeEnd, hmore]
    rfl
  obtain ⟨term, rest, hes, hx, hrest⟩ := derives_of_condition hstatements hhead
  have hderives : DerivesFilter (.keyword .filter :: ([] ++ .identifier name ::
      .keyword .where_ :: (term ++ ([] ++ [])))) ⟨name, none, x, []⟩ :=
    .where_ name .none hx .none .none (.inl rfl)
  rw [List.append_nil, List.append_nil, List.nil_append] at hderives
  have hall := (lexes_filterHead named).beforeEnd_line hlexes
  refine statement_listOfText_iff.2 ⟨_, by simpa using hall, ?_⟩
  rw [beforeEnd_append (eof_notMem_beforeEnd _), hes]
  rcases hrest with rfl | ⟨more, rfl, hmore⟩
  · rw [List.append_nil]
    exact .last (.filter hderives)
  · rw [← List.append_assoc]
    exact .cons (.filter hderives) hmore

/-- A semicolon stands where the term of a statement on a named table has to start. -/
theorem filterText_semicolon (named : IsName name) {e : String} {es : List Token}
    (he : Token.listOfText e = .ok (.symbol .semicolon :: es)) :
    Statement.listOfText ("FILTER " ++ name ++ " WHERE\n" ++ e) =
      .error (.malformed (.unexpectedToken .expression (.symbol .semicolon))) := by
  have hall : Lexes (("FILTER " ++ name ++ " WHERE").toList ++ '\n' :: e.toList)
      (.keyword .filter :: .identifier name :: .keyword .where_ :: .symbol .semicolon :: es) :=
    (lexes_filterHead named).beforeEnd_line (listOfText_eq_ok.1 he)
  have htokens : Token.listOfText ("FILTER " ++ name ++ " WHERE\n" ++ e) =
      .ok (.keyword .filter :: .identifier name :: .keyword .where_ :: .symbol .semicolon :: es) :=
    listOfText_eq_ok.2 (by simpa using hall)
  rw [Statement.listOfText, htokens]
  rfl

end Texts

/-! ### The same rows -/

/-- A selection from one table binds as a statement that names the table does. -/
theorem bindSelection_eq {e o : String} {x : Term} {items : List OrderItem}
    (he : Term.ofText e = .ok x) (ho : OrderItem.listOfText o = .ok items) (r : Request)
    (name : String) (n : Int) :
    (fun t : Table => t.bindSelection e (some o) n) =
      Statement.bindOn r (.filter ⟨name, some n, x, items⟩) := by
  have horder : (some o).filter (fun text => !(trim text.toList).isEmpty) = some o := by
    simp [Option.filter, trim_of_items ho]
  funext t
  simp only [Table.bindSelection, he, horder, ho]
  rfl

/-- A bare term binds on the primary table as a statement that names the table does. -/
theorem bindOn_condition (r r' : Request) (name : String) (x : Term) :
    Statement.bindOn r (.condition x) = Statement.bindOn r' (.filter ⟨name, none, x, []⟩) := by
  funext t
  rfl

/-- **The ways to select agree.** A term, columns to sort by and a limit select the same rows of a
table in the same order, or fail with the same error, whether they are given apart or written line
by line as a statement that names the table. A text that is one term selects on the primary table
what it selects written after the name of that table, if no semicolon comes before the term. If one
does, the statement that names the table is malformed. -/
theorem selectRows_filterText (clock : Clock) {ds : DataSet} (reachable : ds.Reachable) {k : Nat}
    {t : Table} (ht : ds.tables[k]? = some t) (named : IsName t.name) (r : Request) :
    (∀ e x o items (n : Nat), Term.ofText e = .ok x → OrderItem.listOfText o = .ok items →
      n ≤ 2147483647 →
      (Request.selectRows clock { r with
          filter := "FILTER TOP " ++ toString n ++ " " ++ t.name ++ " WHERE\n" ++ e ++
            "\nORDER BY\n" ++ o } ds).1 =
        (t.select clock e (some o) n).1.map fun places => places.map (RowRef.mk k)) ∧
    (∀ e x, Statement.listOfText e = .ok [.condition x] →
      (∀ ts, Token.listOfText e = .ok ts → ts.head? ≠ some (.symbol .semicolon)) →
      (Request.selectRows clock { r with filter := e, primary := t.name } ds).1 =
        (Request.selectRows clock { r with
          filter := "FILTER " ++ t.name ++ " WHERE\n" ++ e } ds).1) ∧
    ∀ e ts, Token.listOfText e = .ok (.symbol .semicolon :: ts) →
      (Request.selectRows clock { r with
          filter := "FILTER " ++ t.name ++ " WHERE\n" ++ e } ds).1 =
        .error (.malformed (.unexpectedToken .expression (.symbol .semicolon))) := by
  have hfind := reachable.wellFormed.find?_eq ht
  have hnamed : ds.table t.name = .ok (k, t) := DataSet.table_eq_ok.2 hfind
  refine ⟨?_, ?_, fun e ts he => ?_⟩
  · intro e x o items n he ho hn
    have hparsed := limitedText_parsed named he ho hn
    refine Eq.trans (Request.selectRows_eq reachable.tables hparsed (by simp) hnamed) ?_
    rw [← bindSelection_eq he ho]
    change _ = ((t.remembering fun t => t.bindSelection e (some o) n).1.map _).map _
    cases (t.remembering fun t => t.bindSelection e (some o) n).1 <;> rfl
  · intro e x he hfirst
    have hparsed := filterText_parsed named he hfirst
    refine Eq.trans (Request.selectRows_eq reachable.tables he (by simp)
      (Request.primaryOn_eq_ok.2 ⟨named.isEmpty, hfind⟩)) ?_
    refine Eq.trans ?_ (Eq.symm (Request.selectRows_eq reachable.tables hparsed (by simp) hnamed))
    rw [bindOn_condition]
  · exact Request.selectRows_of_error (filterText_semicolon named he)

/-- The data set of a table with a computed column. -/
def doublingSet : DataSet := ⟨[Table.doubling]⟩

theorem doublingSet_reachable : doublingSet.Reachable :=
  .change .empty (.addTable Table.doubling_reachable rfl)

/-- Rows of the data set, with a comment after the term, with a semicolon after it and with one
before it. -/
theorem doublingSet_selectRows :
    (doublingSet.Reachable ∧ doublingSet.tables[0]? = some Table.doubling ∧
      IsName Table.doubling.name) ∧
    (Request.selectRows ⟨default, default⟩ { filter :=
      "FILTER TOP 1 Doubling WHERE\nN > 0 -- all\nORDER BY\nN" } doublingSet).1 = .ok [⟨0, 1⟩] ∧
    (Request.selectRows ⟨default, default⟩ { filter :=
      "FILTER Doubling WHERE\nTwice > 2;" } doublingSet).1 = .ok [⟨0, 0⟩] ∧
    (Request.selectRows ⟨default, default⟩ { filter :=
      "FILTER Doubling WHERE\n;True" } doublingSet).1 =
        .error (.malformed (.unexpectedToken .expression (.symbol .semicolon))) := by
  have named : IsName Table.doubling.name := by cbv
  obtain ⟨apart, bare, semicolon⟩ := selectRows_filterText ⟨default, default⟩
    doublingSet_reachable (k := 0) rfl named { filter := "" }
  refine ⟨⟨doublingSet_reachable, rfl, named⟩, ?_, ?_, ?_⟩
  · exact (apart "N > 0 -- all" _ "N" _ 1 (by cbv) (by cbv) (by decide)).trans (by cbv)
  · have first : Token.listOfText "Twice > 2;" = .ok [.identifier "Twice", .symbol .greater,
        .integer "2", .symbol .semicolon, .eof] := by cbv
    refine (bare "Twice > 2;" _ (by cbv) fun ts hts => ?_).symm.trans (by cbv)
    rw [first] at hts
    cases hts
    decide
  · exact semicolon ";True" _ (by cbv)

/-- Before a bare term a semicolon is an empty statement, after `WHERE` it is an error. -/
theorem not_selectRows_filterText :
    ¬ ∀ (clock : Clock) (ds : DataSet) (k : Nat) (t : Table) (r : Request) (e : String) (x : Term),
      ds.Reachable → ds.tables[k]? = some t → IsName t.name →
      Statement.listOfText e = .ok [.condition x] →
      (Request.selectRows clock { r with filter := e, primary := t.name } ds).1 =
        (Request.selectRows clock { r with
          filter := "FILTER " ++ t.name ++ " WHERE\n" ++ e } ds).1 := by
  intro h
  have named : IsName Table.doubling.name := by cbv
  have parsed : Statement.listOfText ";True" = .ok [.condition (.literal (.boolean true))] := by cbv
  have bare : (Request.selectRows ⟨default, default⟩
      { filter := ";True", primary := "Doubling" } doublingSet).1 = .ok [⟨0, 0⟩, ⟨0, 1⟩] := by cbv
  have written : (Request.selectRows ⟨default, default⟩
      { filter := "FILTER Doubling WHERE\n;True" } doublingSet).1 =
        .error (.malformed (.unexpectedToken .expression (.symbol .semicolon))) := by cbv
  have equal := h ⟨default, default⟩ doublingSet 0 Table.doubling { filter := "" } ";True" _
    doublingSet_reachable rfl named parsed
  cases bare.symm.trans (equal.trans written)

end TableFilter
