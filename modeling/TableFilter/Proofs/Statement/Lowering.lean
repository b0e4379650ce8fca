import TableFilter.Proofs.Term.Lowering
import TableFilter.Statement.OfTokens

/-!
# Reading statements in small names

Texts that differ in the case of their names and keywords are read as statements that differ in the
case of the names of tables and columns.

## Main definitions

* `Statement.lowerNames`: a statement with the names of its table and its columns made small

## Main results

* `Grammar.statements_lowers`: statements are read from small names as they are, with small names
* `Statement.listOfText_recased`: the statements of texts that differ in case
-/

namespace TableFilter

open Result TokenReader

/-- A column to sort by with its name made small. -/
def OrderItem.lowerNames (item : OrderItem) : OrderItem :=
  { item with column := lowerName item.column }

/-- A statement on a named table with the names of the table and the columns made small. -/
def FilterStatement.lowerNames (f : FilterStatement) : FilterStatement :=
  { f with
    table := lowerName f.table
    condition := f.condition.lowerNames
    order := f.order.map OrderItem.lowerNames }

/-- A statement with the names of its table and its columns made small. -/
def Statement.lowerNames : Statement → Statement
  | .identifier id => .identifier id
  | .filter f => .filter f.lowerNames
  | .condition a => .condition a.lowerNames

namespace Grammar

theorem ascending_lowers : Lowers id ascending ascending := by
  refine .bind .peek fun t => ?_
  cases t with
  | keyword k =>
    cases k with
    | asc | desc => exact .bind .advance fun _ => .pure _
    | _ => exact .pure true
  | _ => exact .pure true

theorem orderItem_lowers : Lowers OrderItem.lowerNames orderItem orderItem :=
  .bind (.skipIf nofun) fun exact => .bind .identifier fun column =>
    .bind ascending_lowers fun ascending => .pure (OrderItem.mk column ascending exact)

theorem minusSign_lowers : Lowers id minusSign minusSign := by
  refine .bind (.skipIf nofun) fun found => ?_
  dsimp only [id]
  split
  · exact .pure true
  · exact .bind (.skipIf nofun) fun _ => .pure false

theorem rowLimit_lowers : Lowers id rowLimit rowLimit := by
  refine .bind minusSign_lowers fun negative => .bind .peek fun t => ?_
  cases t with
  | integer digits =>
    refine .bind .advance fun _ => ?_
    dsimp only [Token.lowerNames, id]
    split
    · exact .pure _
    · exact .throw rfl
  | _ => exact .unexpected _

theorem rowLimit?_lowers : Lowers id rowLimit? rowLimit? := by
  refine .bind (.skipIf nofun) fun found => ?_
  dsimp only [id]
  split
  · exact .bind rowLimit_lowers fun i => .pure (some i)
  · exact .pure none

theorem orderClause_lowers : Lowers (List.map OrderItem.lowerNames) orderClause orderClause := by
  refine .bind (.skipIf nofun) fun found => ?_
  dsimp only [id]
  split
  · exact .bind (.expect nofun) fun _ => .commaSeparated orderItem_lowers
  · exact .pure []

theorem finalLimit_lowers (before : Option Int) :
    Lowers id (finalLimit before) (finalLimit before) := by
  refine .bind .peek fun t => ?_
  rw [Token.beq_lowerNames (t := .keyword .top) nofun]
  split
  · exact .throw rfl
  · exact .bind rowLimit?_lowers fun limit => .pure _

theorem filterStatement_lowers :
    Lowers FilterStatement.lowerNames filterStatement filterStatement :=
  .bind (.expect nofun) fun _ => .bind rowLimit?_lowers fun before =>
    .bind .identifier fun table => .bind (.expect nofun) fun _ =>
      .bind Term.reader_lowers fun condition => .bind orderClause_lowers fun order =>
        .bind (finalLimit_lowers before) fun limit =>
          .pure (FilterStatement.mk table limit condition order)

theorem statement_lowers : Lowers Statement.lowerNames statement statement := by
  refine .bind .peek fun t => .bind .peekSecond fun second => ?_
  rw [Token.apply_lowerNames (p := Token.endsStatement) fun _ _ => rfl,
    Token.apply_lowerNames (p := idLiteral?) fun _ _ => rfl,
    Token.beq_lowerNames (t := .keyword .filter) nofun]
  split
  · exact .bind .advance fun _ => .bind (.lift _) fun id => .pure (Statement.identifier id)
  · split
    · exact .bind filterStatement_lowers fun f => .pure (Statement.filter f)
    · exact .bind Term.reader_lowers fun a => .pure (Statement.condition a)

theorem endedStatement_lowers : Lowers Statement.lowerNames endedStatement endedStatement := by
  refine .bind statement_lowers fun s => .bind .peek fun t => ?_
  rw [Token.apply_lowerNames (p := Token.endsStatement) fun _ _ => rfl]
  split
  · exact .pure s
  · exact .unexpected _

theorem statementsTo_lowers (n : Nat) :
    Lowers (List.map Statement.lowerNames) (statementsTo n) (statementsTo n) := by
  induction n with
  | zero => exact .pure []
  | succ n ih =>
    have more : Lowers (List.map Statement.lowerNames)
        (endedStatement >>= fun s => statementsTo n >>= fun ss => pure (s :: ss))
        (endedStatement >>= fun s => statementsTo n >>= fun ss => pure (s :: ss)) :=
      .bind endedStatement_lowers fun s => .bind ih fun ss => .pure (s :: ss)
    refine .bind .peek fun t => ?_
    cases t with
    | eof => exact .pure []
    | symbol s =>
      cases s with
      | semicolon => exact .bind .advance fun _ => ih
      | _ => exact more
    | _ => exact more

/-- Statements are read from small names as they are read, with small names. -/
theorem statements_lowers : Lowers (List.map Statement.lowerNames) statements statements := by
  intro ts
  rw [statements, statements, List.length_map]
  exact statementsTo_lowers _ ts

end Grammar

/-- What texts that differ in case are read as differs in the case of names only, or both are
malformed. -/
theorem Statement.listOfText_recased {text text' : String}
    (h : Recased text.toList text'.toList) :
    Result.Alike ((listOfText text').map (List.map lowerNames))
      ((listOfText text).map (List.map lowerNames)) := by
  have tokens := Token.listOfText_recased h
  unfold listOfText
  cases hts : Token.listOfText text with
  | error e =>
    rw [hts] at tokens
    cases hts' : Token.listOfText text' with
    | error e' =>
      rw [hts'] at tokens
      cases tokens
      exact .error rfl
    | ok ts' =>
      rw [hts'] at tokens
      cases tokens
  | ok ts =>
    rw [hts] at tokens
    obtain ⟨ts', hts', same⟩ := map_eq_ok.1 tokens
    rw [hts']
    exact Grammar.statements_lowers.run'_alike same

end TableFilter
