import TableFilter.Proofs.Term.Grammar
import TableFilter.Proofs.Term.Reader

/-!
# Terms that are read are derived

What a reader takes from the start of the tokens is in the grammar, level by level. Each reader is
shown to respect the grammar if the readers it is made of do, so that nesting is one induction on
its depth.

## Main definitions

* `TokenReader.Reads`: a reader that takes only what a relation allows
* `Level.operator?`: the operators of a level as the readers look them up

## Main results

* `operator?_eq_some_iff`, `comparison?_eq_some_iff`, `prefixOperator?_eq_some_iff`,
  `literalValue?_eq_some_iff`: the tables of the readers are those of the grammar
* `readerTo_reads`: a term that is read is derived
* `readerTo_failsMalformed`: no other error than that of malformed text
-/

namespace TableFilter

open Result TokenReader

/-- A reader that takes only tokens which a relation allows for its result. -/
def TokenReader.Reads {α : Type} (reader : TokenReader α) (D : List Token → α → Prop) : Prop :=
  ∀ ⦃ts a rest⦄, reader ts = .ok (a, rest) → ∃ used, ts = used ++ rest ∧ D used a

/-- Items with commas between them, read one by one. -/
theorem TokenReader.Reads.commaSeparated {α : Type} {item : TokenReader α}
    {D : List Token → α → Prop} {All : List Token → List α → Prop} (h : Reads item D)
    (one : ∀ {ts a}, D ts a → All ts [a])
    (cons : ∀ {ts rest a as}, D ts a → All rest as → All (ts ++ .symbol .comma :: rest) (a :: as)) :
    Reads (TokenReader.commaSeparated item) All := by
  have further : ∀ n ts as rest, commaSeparatedFrom item n ts = .ok (as, rest) →
      ∃ used, ts = used ++ rest ∧ ∀ first a, D first a → All (first ++ used) (a :: as) := by
    intro n ts as rest hread
    induction n generalizing ts as with
    | zero =>
      cases hread
      exact ⟨[], rfl, fun first a ha => by simpa using one ha⟩
    | succ n ih =>
      by_cases hcomma : ts.head? = some (.symbol .comma)
      · obtain ⟨tail, rfl⟩ := List.head?_eq_some_iff.1 hcomma
        rw [commaSeparatedFrom_comma] at hread
        obtain ⟨⟨a, mid⟩, hitem, hmore⟩ := bind_eq_ok.1 hread
        obtain ⟨⟨as, mid₂⟩, hrest, heq⟩ := map_eq_ok.1 hmore
        cases heq
        obtain ⟨next, rfl, ha⟩ := h hitem
        obtain ⟨used, rfl, hall⟩ := ih _ _ hrest
        exact ⟨.symbol .comma :: (next ++ used), by simp,
          fun first b hb => cons hb (hall next a ha)⟩
      · rw [commaSeparatedFrom_of_ne item _ hcomma] at hread
        cases hread
        exact ⟨[], rfl, fun first a ha => by simpa using one ha⟩
  intro ts as rest hread
  rw [commaSeparated_apply] at hread
  obtain ⟨⟨a, mid⟩, hitem, hmore⟩ := bind_eq_ok.1 hread
  obtain ⟨⟨as, mid₂⟩, hrest, heq⟩ := map_eq_ok.1 hmore
  cases heq
  obtain ⟨first, rfl, ha⟩ := h hitem
  obtain ⟨used, rfl, hall⟩ := further _ _ _ _ hrest
  exact ⟨first ++ used, by simp, hall first a ha⟩

namespace Grammar

open Result TokenReader

/-! ### The tables -/

/-- The operator that a token stands for between operands of a level. -/
def Level.operator? : Level → Token → Option BinaryOperator
  | .disjunction => disjunctionOperator?
  | .conjunction => conjunctionOperator?
  | .bits => bitOperator?
  | .sum => sumOperator?
  | .product => productOperator?
  | .negation | .predicate | .signed => fun _ => none

theorem operator?_eq_some_iff {level : Level} {t : Token} {op : BinaryOperator} :
    level.operator? t = some op ↔ Joins level t op := by
  constructor
  · intro h
    cases level
    case negation | predicate | signed => cases h
    all_goals
      simp only [Level.operator?, disjunctionOperator?, conjunctionOperator?, bitOperator?,
        sumOperator?, productOperator?] at h
      split at h <;> cases h <;> constructor
  · intro h
    cases h <;> rfl

theorem comparison?_eq_some_iff {t : Token} {op : Comparison} :
    comparison? t = some op ↔ Compares t op := by
  constructor
  · intro h
    unfold comparison? at h
    split at h <;> cases h <;> constructor
  · intro h
    cases h <;> rfl

theorem prefixOperator?_eq_some_iff {t : Token} {op : UnaryOperator} :
    prefixOperator? t = some op ↔ Signs t op := by
  constructor
  · intro h
    unfold prefixOperator? at h
    split at h <;> cases h <;> constructor
  · intro h
    cases h <;> rfl

theorem isNegation_iff {t : Token} : isNegation t = true ↔ Negates t := by
  constructor
  · intro h
    rcases Bool.or_eq_true _ _ ▸ h with h | h
    · rw [eq_of_beq h]; exact .not
    · rw [eq_of_beq h]; exact .bang
  · intro h
    cases h <;> rfl

theorem numberValue?_eq_some_iff {negative : Bool} {t : Token} {v : Value} :
    numberValue? negative t = some (.ok v) ↔ NumberValue negative t v := by
  constructor
  · intro h
    unfold numberValue? at h
    split at h
    · exact .integer (Option.some.inj h)
    · exact .hex (Option.some.inj h)
    · cases h; exact .real _
    · cases h
  · intro h
    cases h with
    | integer h => exact congrArg some h
    | hex h => exact congrArg some h
    | real => rfl

theorem isSome_numberValue?_iff (negative : Bool) {t : Token} :
    (numberValue? negative t).isSome = true ↔ IsNumber t := by
  constructor
  · intro h
    unfold numberValue? at h
    split at h
    · exact .integer _
    · exact .hex _
    · exact .real _
    · cases h
  · intro h
    cases h <;> rfl

theorem literalValue?_eq_some_iff {t : Token} {v : Value} :
    literalValue? t = some (.ok v) ↔ LiteralValue t v := by
  constructor
  · intro h
    unfold literalValue? at h
    split at h
    · cases h; exact .string _
    · cases h; exact .measurementKey _
    · cases h; exact .pointTag _
    · exact .dateTime (Option.some.inj h)
    · next text =>
      cases hg : guidLiteral text with
      | error e => rw [hg] at h; cases h
      | ok g => rw [hg] at h; cases h; exact .guid hg
    · cases h; exact .true_
    · cases h; exact .false_
    · cases h; exact .null
    · exact .number (numberValue?_eq_some_iff.1 h)
  · intro h
    cases h with
    | number h => cases h with
      | integer h => exact congrArg some h
      | hex h => exact congrArg some h
      | real => rfl
    | dateTime h => exact congrArg some h
    | guid h => simp [literalValue?, h, Except.map]
    | _ => rfl

/-! ### Reading single steps -/

section
variable {nested : TokenReader Term} {level tighter : Level}

theorem reads_commaSeparated (hn : Reads nested (Derives .disjunction)) :
    Reads (commaSeparated nested) DerivesAll := hn.commaSeparated .one .cons

/-- Each further operand extends what those before it derive, on the left. -/
theorem reads_chain (chain : Chain level tighter) {operand : TokenReader Term}
    (ho : Reads operand (Derives tighter)) :
    Reads (Grammar.chain level.operator? operand) (Derives level) := by
  have further : ∀ n before left ts e rest, Derives level before left →
      chainFrom level.operator? operand n left ts = .ok (e, rest) →
      ∃ used, ts = used ++ rest ∧ Derives level (before ++ used) e := by
    intro n before left ts e rest hleft h
    induction n generalizing before left ts with
    | zero =>
      cases h
      exact ⟨[], rfl, by simpa using hleft⟩
    | succ n ih =>
      cases hop : level.operator? (ts.head?.getD .eof) with
      | none =>
        rw [chainFrom_of_none hop] at h
        cases h
        exact ⟨[], rfl, by simpa using hleft⟩
      | some op =>
        have hjoins := operator?_eq_some_iff.1 hop
        cases ts with
        | nil => cases hjoins
        | cons t ts =>
          rw [chainFrom_of_some (t := t) hop] at h
          obtain ⟨⟨right, mid⟩, hright, hmore⟩ := bind_eq_ok.1 h
          obtain ⟨r, rfl, hb⟩ := ho hright
          obtain ⟨used, rfl, hall⟩ := ih _ _ _ (.join chain hjoins hleft hb) hmore
          exact ⟨t :: (r ++ used), by simp, by simpa using hall⟩
  intro ts e rest h
  rw [chain_apply] at h
  obtain ⟨⟨first, mid⟩, hfirst, hmore⟩ := bind_eq_ok.1 h
  obtain ⟨l, rfl, ha⟩ := ho hfirst
  obtain ⟨used, rfl, hall⟩ := further _ _ _ _ _ _ (.operand chain ha) hmore
  exact ⟨l ++ used, by simp, hall⟩

/-! ### The tightest level -/

/-- What is read before a closing parenthesis, and the parenthesis. -/
theorem closed_ok {α : Type} {p : α × List Token} {q : α × List Token}
    (h : ((expect (.symbol .rightParen) p.2).map fun r => (p.1, r.2)) = .ok q) :
    q.1 = p.1 ∧ p.2 = .symbol .rightParen :: q.2 := by
  obtain ⟨⟨_, rest⟩, hclose, rfl⟩ := map_eq_ok.1 h
  exact ⟨rfl, expect_ok (by decide) hclose⟩

theorem reads_named (hn : Reads nested (Derives .disjunction)) (name : String) :
    Reads (named nested name) fun used e => Derives .signed (.identifier name :: used) e := by
  intro ts e rest h
  by_cases hparen : ts.head? = some (.symbol .leftParen)
  · obtain ⟨ts, rfl⟩ := List.head?_eq_some_iff.1 hparen
    cases hf : Builtin.ofName? name with
    | none => simp [named, bind_apply, hf] at h
    | some f =>
      rw [named_call hf] at h
      obtain ⟨⟨es, rest'⟩, hargs, heq⟩ := map_eq_ok.1 h
      cases heq
      by_cases hclose : ts.head? = some (.symbol .rightParen)
      · obtain ⟨ts, rfl⟩ := List.head?_eq_some_iff.1 hclose
        rw [arguments_none] at hargs
        cases hargs
        exact ⟨[.symbol .leftParen, .symbol .rightParen], rfl, .callNone hf⟩
      · rw [arguments_some hclose] at hargs
        obtain ⟨⟨as, mid⟩, hall, hend⟩ := bind_eq_ok.1 hargs
        obtain ⟨rfl, rfl⟩ := closed_ok hend
        obtain ⟨args, rfl, hd⟩ := reads_commaSeparated hn hall
        exact ⟨.symbol .leftParen :: (args ++ [.symbol .rightParen]), by simp, .call hf hd⟩
  · rw [named_column name hparen] at h
    cases h
    exact ⟨[], rfl, .column name⟩

theorem reads_primary (hn : Reads nested (Derives .disjunction)) :
    Reads (primary nested) (Derives .signed) := by
  intro ts e rest h
  cases ts with
  | nil => simp [primary, bind_apply, literalValue?, numberValue?] at h
  | cons t ts =>
    cases hvalue : literalValue? t with
    | some value =>
      rw [primary_of_literal hvalue] at h
      obtain ⟨v, rfl, heq⟩ := map_eq_ok.1 h
      cases heq
      exact ⟨[t], rfl, .literal (literalValue?_eq_some_iff.1 hvalue)⟩
    | none =>
      by_cases hname : ∃ name, t = .identifier name
      · obtain ⟨name, rfl⟩ := hname
        rw [primary_identifier] at h
        obtain ⟨used, rfl, hd⟩ := reads_named hn name h
        exact ⟨.identifier name :: used, rfl, hd⟩
      by_cases hparen : t = .symbol .leftParen
      · subst hparen
        rw [primary_leftParen] at h
        obtain ⟨⟨term, mid⟩, hterm, hend⟩ := bind_eq_ok.1 h
        obtain ⟨rfl, rfl⟩ := closed_ok hend
        obtain ⟨used, rfl, hd⟩ := hn hterm
        exact ⟨.symbol .leftParen :: (used ++ [.symbol .rightParen]), by simp, .parentheses hd⟩
      · rw [primary, bind_apply] at h
        simp only [peek_apply, ok_bind, List.head?_cons, Option.getD_some, hvalue] at h
        split at h
        · exact absurd ⟨_, rfl⟩ hname
        · exact absurd rfl hparen
        · simp at h

theorem reads_signed {primary : TokenReader Term} (hp : Reads primary (Derives .signed)) :
    Reads (signed primary) (Derives .signed) := by
  intro ts e rest h
  induction ts generalizing e rest with
  | nil => exact hp h
  | cons t ts ih =>
    cases hop : prefixOperator? t with
    | none =>
      rw [signed_of_none hop] at h
      exact hp h
    | some op =>
      have hsigns := prefixOperator?_eq_some_iff.1 hop
      by_cases hnumber : op = .minus → (ts.head?).bind (numberValue? true) = none
      · rw [signed_of_some hop hnumber] at h
        obtain ⟨⟨operand, rest'⟩, hoperand, heq⟩ := map_eq_ok.1 h
        cases heq
        obtain ⟨used, rfl, hd⟩ := ih hoperand
        refine ⟨t :: used, rfl, .sign hsigns (fun hminus u hu hu' => ?_) hd⟩
        have hsome := (isSome_numberValue?_iff true).2 hu'
        have hnone := hnumber hminus
        rw [List.head?_append, hu] at hnone
        simp_all
      · obtain ⟨rfl, hsome⟩ := Classical.not_imp.1 hnumber
        cases hsigns
        obtain ⟨value, hvalue⟩ := Option.ne_none_iff_exists'.1 hsome
        obtain ⟨u, hu, hvalue⟩ := Option.bind_eq_some_iff.1 hvalue
        obtain ⟨ts, rfl⟩ := List.head?_eq_some_iff.1 hu
        rw [signed_number hvalue] at h
        obtain ⟨v, rfl, heq⟩ := map_eq_ok.1 h
        cases heq
        exact ⟨[.symbol .minus, u], rfl, .negativeNumber (numberValue?_eq_some_iff.1 hvalue)⟩

/-! ### The other levels -/

theorem reads_bitOperation (hn : Reads nested (Derives .disjunction)) :
    Reads (bitOperation nested) (Derives .bits) := by
  have hproduct : Reads (product nested) (Derives .product) :=
    reads_chain .product (reads_signed (reads_primary hn))
  have hsum : Reads (sum nested) (Derives .sum) := reads_chain .sum hproduct
  exact reads_chain .bits hsum

theorem exactMark_ok {ts rest : List Token} {exact : Bool} (h : exactMark ts = .ok (exact, rest)) :
    ∃ mark, ts = mark ++ rest ∧ ExactMark mark exact := by
  obtain ⟨binary, mid, hbinary, hmore⟩ := bind_ok.1 h
  rcases skipIf_ok (by decide) hbinary with ⟨rfl, rfl⟩ | ⟨rfl, rfl, -⟩
  · cases hmore
    exact ⟨_, rfl, .binary⟩
  · rcases skipIf_ok (by decide) hmore with ⟨rfl, rfl⟩ | ⟨rfl, rfl, -⟩
    · exact ⟨_, rfl, .exactEqual⟩
    · exact ⟨_, rfl, .none⟩

/-- The tokens that name a predicate, without the mark that may follow them. -/
def PredicateStart.tokens : PredicateStart → Token → List Token
  | .null, _ => [.keyword .is]
  | .membership negated, _ => notTokens negated ++ [.keyword .in_]
  | .likeness negated, _ => notTokens negated ++ [.keyword .like]
  | .comparison _, t => [t]

theorem predicateStart?_ok {start : PredicateStart} {count : Nat} {ts : List Token}
    (h : predicateStart? (ts.head?.getD .eof) (ts[1]?.getD .eof) = some (start, count)) :
    ts = start.tokens (ts.head?.getD .eof) ++ ts.drop count ∧
      ∀ op, start = .comparison op → Compares (ts.head?.getD .eof) op := by
  cases ts with
  | nil => simp [predicateStart?, comparison?] at h
  | cons t ts =>
    rw [List.getElem?_cons_succ, ← List.head?_eq_getElem?] at h
    simp only [List.head?_cons, Option.getD_some] at h ⊢
    unfold predicateStart? at h
    split at h
    · cases h; exact ⟨rfl, by simp⟩
    · cases h; exact ⟨rfl, by simp⟩
    · cases h; exact ⟨rfl, by simp⟩
    · split at h
      · next hsecond =>
        obtain ⟨ts, rfl⟩ := eq_cons_of_head (by decide) hsecond
        cases h
        exact ⟨rfl, by simp⟩
      · next hsecond =>
        obtain ⟨ts, rfl⟩ := eq_cons_of_head (by decide) hsecond
        cases h
        exact ⟨rfl, by simp⟩
      · cases h
    · obtain ⟨op, hop, heq⟩ := Option.map_eq_some_iff.1 h
      cases heq
      refine ⟨rfl, fun op' heq => ?_⟩
      cases heq
      exact comparison?_eq_some_iff.1 hop

theorem predicateRest_ok (hn : Reads nested (Derives .disjunction)) {start : PredicateStart}
    {t : Token} {before ts rest : List Token} {left e : Term}
    (hc : ∀ op, start = .comparison op → Compares t op) (hleft : Derives .predicate before left)
    (h : predicateRest nested left start ts = .ok (e, rest)) :
    ∃ used, ts = used ++ rest ∧ Derives .predicate (before ++ (start.tokens t ++ used)) e := by
  cases start with
  | null =>
    obtain ⟨negated, mid, hskip, hmore⟩ := bind_ok.1 h
    obtain ⟨_, mid₂, hnull, hend⟩ := bind_ok.1 hmore
    cases hend
    obtain rfl := expect_ok (by decide) hnull
    rcases skipIf_ok (by decide) hskip with ⟨rfl, rfl⟩ | ⟨rfl, rfl, -⟩
    · exact ⟨[.keyword .not, .keyword .null], rfl, .nullTest true hleft⟩
    · exact ⟨[.keyword .null], rfl, .nullTest false hleft⟩
  | membership negated =>
    obtain ⟨exact, mid, hmark, hmore⟩ := bind_ok.1 h
    obtain ⟨mark, rfl, hexact⟩ := exactMark_ok hmark
    obtain ⟨_, mid₂, hopen, hlist⟩ := bind_ok.1 hmore
    obtain rfl := expect_ok (by decide) hopen
    obtain ⟨items, mid₃, hitems, hafter⟩ := bind_ok.1 hlist
    obtain ⟨_, mid₄, hclose, hend⟩ := bind_ok.1 hafter
    obtain rfl := expect_ok (by decide) hclose
    cases hend
    obtain ⟨used, rfl, hall⟩ := reads_commaSeparated hn hitems
    refine ⟨mark ++ .symbol .leftParen :: (used ++ [.symbol .rightParen]), by simp, ?_⟩
    simpa [PredicateStart.tokens] using .membership negated hexact hleft hall
  | likeness negated =>
    obtain ⟨exact, mid, hmark, hmore⟩ := bind_ok.1 h
    obtain ⟨mark, rfl, hexact⟩ := exactMark_ok hmark
    obtain ⟨pattern, mid₂, hpattern, hend⟩ := bind_ok.1 hmore
    cases hend
    obtain ⟨used, rfl, hd⟩ := reads_bitOperation hn hpattern
    refine ⟨mark ++ used, by simp, ?_⟩
    simpa [PredicateStart.tokens] using .likeness negated hexact hleft hd
  | comparison op =>
    obtain ⟨right, mid, hright, hend⟩ := bind_ok.1 h
    cases hend
    obtain ⟨used, rfl, hd⟩ := reads_bitOperation hn hright
    exact ⟨used, rfl, .comparison (hc op rfl) hleft hd⟩

/-- Each further predicate extends what those before it derive, on the left. -/
theorem reads_predicate (hn : Reads nested (Derives .disjunction)) :
    Reads (predicate nested) (Derives .predicate) := by
  have further : ∀ n before left ts e rest, Derives .predicate before left →
      predicateFrom nested n left ts = .ok (e, rest) →
      ∃ used, ts = used ++ rest ∧ Derives .predicate (before ++ used) e := by
    intro n before left ts e rest hleft h
    induction n generalizing before left ts with
    | zero =>
      cases h
      exact ⟨[], rfl, by simpa using hleft⟩
    | succ n ih =>
      cases hstart : predicateStart? (ts.head?.getD .eof) (ts[1]?.getD .eof) with
      | none =>
        rw [predicateFrom_of_none hstart] at h
        cases h
        exact ⟨[], rfl, by simpa using hleft⟩
      | some found =>
        obtain ⟨start, count⟩ := found
        obtain ⟨htokens, hc⟩ := predicateStart?_ok hstart
        rw [predicateFrom_of_some hstart] at h
        obtain ⟨⟨term, mid⟩, hterm, hmore⟩ := bind_eq_ok.1 h
        obtain ⟨u, hu, hd⟩ := predicateRest_ok hn hc hleft hterm
        obtain ⟨used, rfl, hall⟩ := ih _ _ _ hd hmore
        rw [hu] at htokens
        exact ⟨start.tokens (ts.head?.getD .eof) ++ u ++ used, htokens.trans (by simp),
          by simpa using hall⟩
  intro ts e rest h
  rw [predicate_apply] at h
  obtain ⟨⟨first, mid⟩, hfirst, hmore⟩ := bind_eq_ok.1 h
  obtain ⟨l, rfl, ha⟩ := reads_bitOperation hn hfirst
  obtain ⟨used, rfl, hall⟩ := further _ _ _ _ _ _ (.subject ha) hmore
  exact ⟨l ++ used, by simp, hall⟩

theorem reads_negation {predicate : TokenReader Term} (hp : Reads predicate (Derives .predicate)) :
    Reads (negation predicate) (Derives .negation) := by
  intro ts e rest h
  induction ts generalizing e rest with
  | nil =>
    obtain ⟨used, hused, hd⟩ := hp h
    obtain ⟨rfl, rfl⟩ := List.append_eq_nil_iff.1 hused.symm
    exact ⟨[], rfl, .positive (by simp) hd⟩
  | cons t ts ih =>
    rw [negation] at h
    split at h
    · next hneg =>
      obtain ⟨⟨operand, mid⟩, hoperand, hend⟩ := bind_eq_ok.1 h
      cases hend
      obtain ⟨used, rfl, hd⟩ := ih hoperand
      exact ⟨t :: used, rfl, .negated (isNegation_iff.1 hneg) hd⟩
    · next hneg =>
      obtain ⟨used, hused, hd⟩ := hp h
      refine ⟨used, hused, .positive (fun u hu hnegates => hneg ?_) hd⟩
      rw [← isNegation_iff] at hnegates
      cases used with
      | nil => cases hu
      | cons v used => cases hu; cases hused; exact hnegates

/-- What is read at the loosest level is derived, if what is read in parentheses is. -/
theorem reads_disjunction (hn : Reads nested (Derives .disjunction)) :
    Reads (disjunction nested) (Derives .disjunction) := by
  have hconjunction : Reads (conjunction nested) (Derives .conjunction) :=
    reads_chain .conjunction (reads_negation (reads_predicate hn))
  exact reads_chain .disjunction hconjunction

end

/-! ### Errors -/

section
variable {nested : TokenReader Term}

theorem failsMalformed_chain {operator? : Token → Option BinaryOperator}
    {operand : TokenReader Term} (ho : FailsMalformed operand) :
    FailsMalformed (chain operator? operand) := by
  have further : ∀ n left, FailsMalformed (chainFrom operator? operand n left) := by
    intro n
    induction n with
    | zero => exact fun left => .pure left
    | succ n ih =>
      intro left
      refine .bind .peek fun t => ?_
      split
      · exact .pure left
      · exact .bind .advance fun _ => .bind ho fun right => ih _
  exact .bind ho fun first => .bind .get fun ts => further _ _

theorem malformed_of_integerLiteral {digits : String} {negative : Bool} {e : Error}
    (h : integerLiteral digits negative = .error e) : ∃ m, e = .malformed m := by
  unfold integerLiteral at h
  dsimp only at h
  split at h
  · cases h
  · split at h
    · cases h
    · split at h
      · cases h
      · cases h; exact ⟨_, rfl⟩

theorem malformed_of_hexLiteral {digits : String} {negative : Bool} {e : Error}
    (h : hexLiteral digits negative = .error e) : ∃ m, e = .malformed m := by
  unfold hexLiteral at h
  split at h
  · cases h; exact ⟨_, rfl⟩
  · split at h
    · cases h
    · cases h; exact ⟨_, rfl⟩

theorem malformed_of_numberValue? {negative : Bool} {t : Token} {e : Error}
    (h : numberValue? negative t = some (.error e)) : ∃ m, e = .malformed m := by
  unfold numberValue? at h
  split at h
  · exact malformed_of_integerLiteral (Option.some.inj h)
  · exact malformed_of_hexLiteral (Option.some.inj h)
  · cases h
  · cases h

theorem malformed_of_literalValue? {t : Token} {e : Error}
    (h : literalValue? t = some (.error e)) : ∃ m, e = .malformed m := by
  unfold literalValue? at h
  split at h
  case h_9 => exact malformed_of_numberValue? h
  case h_4 =>
    unfold dateTimeLiteral at h
    split at h <;> cases h
    exact ⟨_, rfl⟩
  case h_5 =>
    unfold guidLiteral at h
    split at h <;> cases h
    exact ⟨_, rfl⟩
  all_goals cases h

theorem failsMalformed_arguments (hn : FailsMalformed nested) :
    FailsMalformed (arguments nested) := by
  refine .bind (.expect _) fun _ => .bind .peek fun t => ?_
  dsimp only
  split
  · exact .bind (.pure []) fun args => .bind (.expect _) fun _ => .pure args
  · exact .bind (.commaSeparated hn) fun args => .bind (.expect _) fun _ => .pure args

theorem failsMalformed_primary (hn : FailsMalformed nested) : FailsMalformed (primary nested) := by
  refine .bind .peek fun t => ?_
  split
  · next value hvalue =>
    refine .bind (fun ts e h => ?_) fun v => .bind .advance fun _ => .pure _
    rw [lift_apply] at h
    cases value with
    | ok v => cases h
    | error e' => cases h; exact malformed_of_literalValue? hvalue
  · split
    · refine .bind .advance fun _ => .bind .peek fun u => ?_
      split
      · split
        · exact .bind (failsMalformed_arguments hn) fun es => .pure _
        · exact .ofThrow _
      · exact .pure _
    · exact .bind .advance fun _ => .bind hn fun e => .bind (.expect _) fun _ => .pure e
    · exact .unexpected _

theorem failsMalformed_signed {primary : TokenReader Term} (hp : FailsMalformed primary) :
    FailsMalformed (signed primary) := by
  intro ts e h
  induction ts with
  | nil => exact hp _ _ h
  | cons t ts ih =>
    cases hop : prefixOperator? t with
    | none =>
      rw [signed_of_none hop] at h
      exact hp _ _ h
    | some op =>
      by_cases hnumber : op = .minus → (ts.head?).bind (numberValue? true) = none
      · rw [signed_of_some hop hnumber] at h
        cases hs : signed primary ts with
        | ok p => rw [hs] at h; cases h
        | error e' => rw [hs] at h; cases h; exact ih hs
      · obtain ⟨rfl, hsome⟩ := Classical.not_imp.1 hnumber
        cases prefixOperator?_eq_some_iff.1 hop
        obtain ⟨value, hvalue⟩ := Option.ne_none_iff_exists'.1 hsome
        obtain ⟨u, hu, hvalue⟩ := Option.bind_eq_some_iff.1 hvalue
        obtain ⟨ts, rfl⟩ := List.head?_eq_some_iff.1 hu
        rw [signed_number hvalue] at h
        cases value with
        | ok v => cases h
        | error e' => cases h; exact malformed_of_numberValue? hvalue

theorem failsMalformed_bitOperation (hn : FailsMalformed nested) :
    FailsMalformed (bitOperation nested) :=
  failsMalformed_chain (failsMalformed_chain (failsMalformed_chain
    (failsMalformed_signed (failsMalformed_primary hn))))

theorem failsMalformed_predicate (hn : FailsMalformed nested) :
    FailsMalformed (predicate nested) := by
  have hmark : FailsMalformed exactMark := by
    refine .bind (.skipIf _) fun found => ?_
    split
    · exact .pure true
    · exact .skipIf _
  have hbits := failsMalformed_bitOperation hn
  have rest : ∀ left start, FailsMalformed (predicateRest nested left start) := by
    intro left start
    cases start with
    | null => exact .bind (.skipIf _) fun negated => .bind (.expect _) fun _ => .pure _
    | membership negated =>
      exact .bind hmark fun exact => .bind (.expect _) fun _ => .bind (.commaSeparated hn) fun es =>
        .bind (.expect _) fun _ => .pure _
    | likeness negated => exact .bind hmark fun exact => .bind hbits fun pattern => .pure _
    | comparison op => exact .bind hbits fun right => .pure _
  have further : ∀ n left, FailsMalformed (predicateFrom nested n left) := by
    intro n
    induction n with
    | zero => exact fun left => .pure left
    | succ n ih =>
      intro left
      refine .bind .peek fun t => .bind .peekSecond fun second => ?_
      split
      · exact .pure left
      · exact .bind (.ofModify _) fun _ => .bind (rest _ _) fun e => ih e
  exact .bind hbits fun left => .bind .get fun ts => further _ _

theorem failsMalformed_negation {predicate : TokenReader Term} (hp : FailsMalformed predicate) :
    FailsMalformed (negation predicate) := by
  intro ts e h
  induction ts with
  | nil => exact hp _ _ h
  | cons t ts ih =>
    rw [negation] at h
    split at h
    · cases hs : negation predicate ts with
      | ok p => rw [hs] at h; cases h
      | error e' => rw [hs] at h; cases h; exact ih hs
    · exact hp _ _ h

end

/-- No reader of terms fails but because of malformed text. -/
theorem readerTo_failsMalformed (depth : Nat) : FailsMalformed (Term.readerTo depth) := by
  induction depth with
  | zero => exact .unexpected _
  | succ depth ih =>
    exact failsMalformed_chain (failsMalformed_chain
      (failsMalformed_negation (failsMalformed_predicate ih)))

/-- A term that is read is derived, however deep it may be nested. -/
theorem readerTo_reads (depth : Nat) : Reads (Term.readerTo depth) (Derives .disjunction) := by
  induction depth with
  | zero =>
    intro ts e rest h
    simp [Term.readerTo] at h
  | succ depth ih => exact reads_disjunction ih

end Grammar

end TableFilter
