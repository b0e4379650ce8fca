import Mathlib.Data.List.Nodup
import TableFilter.Proofs.Evaluation.Soundness
import TableFilter.Proofs.Selection.Sorting
import TableFilter.Selection

/-!
# The rows of a bound statement

A statement that was bound on a table selects the rows for which its root is true, sorts them by its
columns and keeps as many as its limit allows. Sorting is stable: rows that no column tells apart
stay in storage order.

The comparison of keys is a total preorder only among the keys that can occur. That the keys of a
column are of one type rests on what is stored fitting the columns, and on computed values being
converted.

## Main definitions

* `Tree.BoundOn`: a statement that was bound on a table
* `Ties`: no column to sort by places either of two rows before the other

## Main results

* `mergeSort_of_weaklyOrders`: sorting by a comparison that is a weak order among the members
* `Tree.rows_sorts`: which rows a statement selects, and in which order
-/

namespace TableFilter

/-- A statement whose root is what a term stands for, and whose columns to sort by are what names
stand for. -/
def Tree.BoundOn (tree : Tree) (t : Table) : Prop :=
  (∃ a, t.Binds a tree.root) ∧ ∀ o ∈ tree.order, ∃ name, t.Resolves name o.column

/-- No column places either row before the other. -/
def Ties (clock : Clock) (r s : Row) (os : List OrderTerm) : Prop :=
  ∀ o ∈ os, ¬o.Places (o.column.valueOn clock r) (o.column.valueOn clock s) ∧
    ¬o.Places (o.column.valueOn clock s) (o.column.valueOn clock r)

theorem Ties.not_placesBefore {clock : Clock} {r s : Row} {os : List OrderTerm}
    (h : Ties clock r s os) : ¬PlacesBefore clock r s os := by
  induction os with
  | nil => exact id
  | cons o os ih =>
    rintro (hrs | ⟨-, hrs⟩)
    · exact (h o (List.mem_cons_self ..)).1 hrs
    · exact ih (fun o ho => h o (List.mem_cons_of_mem _ ho)) hrs

/-! ### Sorting by a weak order -/

section Sorting

variable {α : Type} {P : α → Prop} {lt : α → α → Prop} {le : α → α → Bool} {l : List α}

/-- Sorting by a comparison that is a weak order among the members puts no element before one below
it, and keeps two elements in order of which the second is not below the first. -/
theorem mergeSort_of_weaklyOrders (h : WeaklyOrders P lt) (members : ∀ a ∈ l, P a)
    (hle : ∀ a ∈ l, ∀ b ∈ l, le a b = true ↔ ¬lt b a) :
    (l.mergeSort le).Pairwise (fun a b => ¬lt b a) ∧
      ∀ {a b}, ¬lt b a → [a, b].Sublist l → [a, b].Sublist (l.mergeSort le) := by
  -- The comparison is total and transitive on the members only, so the members are sorted as
  -- elements of a type of their own.
  let le' : {a // a ∈ l} → {a // a ∈ l} → Bool := fun a b => le a b
  have hle' : ∀ a b, le' a b = true ↔ ¬lt b.1 a.1 := fun a b => hle a a.2 b b.2
  have trans : ∀ a b c, le' a b → le' b c → le' a c := by
    intro a b c hab hbc
    rw [hle'] at hab hbc ⊢
    intro hca
    rcases h.cotrans (members c c.2) (members b b.2) (members a a.2) hca with hcb | hba
    · exact hbc hcb
    · exact hab hba
  have total : ∀ a b, le' a b || le' b a := by
    intro a b
    rw [Bool.or_eq_true, hle', hle']
    by_cases hba : lt b a
    · exact .inr (h.asymm (members b b.2) (members a a.2) hba)
    · exact .inl hba
  have hmap : (l.attach.mergeSort le').map Subtype.val = l.mergeSort le := by
    rw [List.map_mergeSort (s := le) fun a _ b _ => rfl, List.attach_map_subtype_val]
  rw [← hmap]
  constructor
  · rw [List.pairwise_map]
    exact (List.pairwise_mergeSort trans total l.attach).imp fun {a b} hab => (hle' a b).1 hab
  · intro a b hba hsub
    rw [← List.attach_map_subtype_val l] at hsub
    obtain ⟨pair, hpair, heq⟩ := List.sublist_map_iff.1 hsub
    obtain ⟨a', rest, rfl, rfl, hrest⟩ := List.map_eq_cons_iff.1 heq.symm
    obtain ⟨b', rfl, rfl⟩ := List.map_eq_singleton_iff.1 hrest
    exact (List.pair_sublist_mergeSort trans total ((hle' a' b').2 hba) hpair).map Subtype.val

end Sorting

/-- In a list without repetitions two elements stand in one order. -/
theorem not_sublist_swap {α : Type} {l : List α} (h : l.Nodup) {a b : α}
    (hab : [a, b].Sublist l) : ¬[b, a].Sublist l := by
  induction l with
  | nil => exact fun _ => nomatch hab
  | cons c l ih =>
    obtain ⟨hc, hl⟩ := List.nodup_cons.1 h
    intro hba
    cases hab with
    | cons _ hab =>
      cases hba with
      | cons _ hba => exact ih hl hab hba
      | cons_cons _ ha => exact hc (hab.subset (by simp))
    | cons_cons _ hb =>
      cases hba with
      | cons _ hba => exact hc (hba.subset (by simp))
      | cons_cons _ ha => exact hc (ha.subset (by simp))

theorem pair_sublist_of_lt {l : List Nat} (h : l.Pairwise (· < ·)) {j k : Nat} (hj : j ∈ l)
    (hk : k ∈ l) (hjk : j < k) : [j, k].Sublist l := by
  induction l with
  | nil => exact nomatch hj
  | cons a l ih =>
    obtain ⟨ha, hl⟩ := List.pairwise_cons.1 h
    rcases List.mem_cons.1 hj with rfl | hjl
    · rcases List.mem_cons.1 hk with rfl | hkl
      · exact absurd hjk (Nat.lt_irrefl _)
      · exact .cons_cons _ (List.singleton_sublist.2 hkl)
    · rcases List.mem_cons.1 hk with rfl | hkl
      · exact absurd hjk (Nat.lt_asymm (ha j hjl))
      · exact .cons _ (ih hl hjl hkl)

/-! ### Keys of rows -/

namespace Table

variable {t : Table} {c : BoundColumn} {clock : Clock} {r : Row} {os : List OrderTerm}
  {name : String}

/-- The value of a column on a row that fits the table is of the type of the column. -/
theorem Resolves.hasType (h : t.Resolves name c) (hr : r.Fits t.columns) :
    HasType c.head.type (c.valueOn clock r) := by
  intro v hv
  exact h.dataType_of_value hr (h.evalOn_eq_value.symm.trans hv)

/-- Keys of a row taken one after the other are those taken each by itself. -/
theorem sortKeys_eq (h : ∀ o ∈ os, ∃ name, t.Resolves name o.column) {known : KnownValues}
    (hknown : t.KnownOn ⟨clock, some r⟩ known) :
    ((sortKeys ⟨clock, some r⟩ os).run known).1 = keysOn clock os r := by
  induction os generalizing known with
  | nil => rfl
  | cons o os ih =>
    obtain ⟨⟨name, hname⟩, hos⟩ := List.forall_mem_cons.1 h
    obtain ⟨hvalue, hafter⟩ := hname.eval_gives known hknown
    refine congrArg₂ List.cons (congrArg sortKey ?_) (ih hos hafter)
    exact hvalue.trans hname.evalOn_eq_value.symm

end Table

/-! ### Filtering -/

section Matching

variable {clock : Clock} {tree : Tree} {rows : List Row}

theorem selects_iff {r : Row} :
    tree.selects clock r = true ↔ tree.root.evalOn ⟨clock, some r⟩ = .ok (.boolean true) := by
  unfold Tree.selects
  cases tree.root.evalOn ⟨clock, some r⟩ with
  | error e => simp
  | ok v =>
    cases v with
    | boolean b => simp [Value.isTrue]
    | _ => simp [Value.isTrue]

theorem mem_matching {k : Nat} :
    k ∈ tree.matching clock rows ↔
      ∃ r, rows[k]? = some r ∧ tree.root.evalOn ⟨clock, some r⟩ = .ok (.boolean true) := by
  simp only [Tree.matching, List.mem_map, List.mem_filter, List.mem_zipIdx_iff_getElem?,
    selects_iff, Prod.exists, exists_eq_right]

theorem matching_increasing : (tree.matching clock rows).Pairwise (· < ·) := by
  have hplaces : (rows.zipIdx.map (·.2)).Pairwise (· < ·) := by
    rw [List.zipIdx_map_snd]
    exact List.pairwise_lt_range'
  exact hplaces.sublist (List.filter_sublist.map _)

end Matching

/-! ### All steps together -/

section Rows

variable {t : Table} {clock : Clock} {tree : Tree}

/-- The place of a row comes before that of another by the columns to sort by. -/
def PlaceBefore (clock : Clock) (rows : List Row) (os : List OrderTerm) (j k : Nat) : Prop :=
  ∃ r s, rows[j]? = some r ∧ rows[k]? = some s ∧ PlacesBefore clock r s os

theorem placeBefore_weaklyOrders (clock : Clock) (rows : List Row) (os : List OrderTerm) :
    WeaklyOrders (fun k => ∃ r, rows[k]? = some r ∧ HasSortTypes clock os r)
      (PlaceBefore clock rows os) := by
  have hrows := placesBefore_weaklyOrders clock os
  refine ⟨?_, ?_⟩
  · rintro j k ⟨r, hj, hr⟩ ⟨s, hk, hs⟩ ⟨r₁, s₁, hj₁, hk₁, hrs⟩ ⟨s₂, r₂, hk₂, hj₂, hsr⟩
    obtain rfl := Option.some.inj (hj.symm.trans hj₁)
    obtain rfl := Option.some.inj (hj.symm.trans hj₂)
    obtain rfl := Option.some.inj (hk.symm.trans hk₁)
    obtain rfl := Option.some.inj (hk.symm.trans hk₂)
    exact hrows.asymm hr hs hrs hsr
  · rintro j k l ⟨r, hj, hr⟩ ⟨s, hk, hs⟩ ⟨u, hl, hu⟩ ⟨r₁, u₁, hj₁, hl₁, hru⟩
    obtain rfl := Option.some.inj (hj.symm.trans hj₁)
    obtain rfl := Option.some.inj (hl.symm.trans hl₁)
    rcases hrows.cotrans hr hs hu hru with hrs | hsu
    · exact .inl ⟨r, s, hj, hk, hrs⟩
    · exact .inr ⟨s, u, hk, hl, hsu⟩

/-- The comparison of places that sorting carries out, by the keys of their rows. -/
def comesFirst (clock : Clock) (rows : List Row) (os : List OrderTerm) (j k : Nat) : Bool :=
  compareKeys os ((sortKeys ⟨clock, rows[j]?⟩ os).run []).1
    ((sortKeys ⟨clock, rows[k]?⟩ os).run []).1 != .gt

theorem sorted_eq_mergeSort {os : List OrderTerm} {rows : List Row} {places : List Nat}
    (hos : os ≠ []) :
    sorted clock os rows places = places.mergeSort (comesFirst clock rows os) := by
  have hmap := List.map_mergeSort (r := comesFirst clock rows os) (l := places)
    (f := fun k => (k, ((sortKeys ⟨clock, rows[k]?⟩ os).run []).1))
    (s := fun a b => compareKeys os a.2 b.2 != .gt) fun j _ k _ => rfl
  rw [sorted, if_neg (by simpa using hos)]
  dsimp only
  rw [← hmap, List.map_map]
  exact List.map_id _

theorem sorted_perm {os : List OrderTerm} {rows : List Row} {places : List Nat} :
    (sorted clock os rows places).Perm places := by
  by_cases hos : os = []
  · rw [hos]
    exact .refl _
  · rw [sorted_eq_mergeSort hos]
    exact List.mergeSort_perm _ _

theorem comesFirst_iff {os : List OrderTerm} {j k : Nat}
    (bound : ∀ o ∈ os, ∃ name, t.Resolves name o.column)
    (hj : ∃ r, t.rows[j]? = some r ∧ HasSortTypes clock os r)
    (hk : ∃ r, t.rows[k]? = some r ∧ HasSortTypes clock os r) :
    comesFirst clock t.rows os j k = true ↔ ¬PlaceBefore clock t.rows os k j := by
  obtain ⟨r, hr, htype⟩ := hj
  obtain ⟨s, hs, htype'⟩ := hk
  rw [comesFirst, hr, hs, Table.sortKeys_eq bound Table.knownOn_nil,
    Table.sortKeys_eq bound Table.knownOn_nil, bne_iff_ne, ne_eq, (compareKeys_eq htype htype').2]
  simp [PlaceBefore, hr, hs]

/-- A row comes after another only if no column places it before, and of two rows that tie the one
that is stored first comes first. -/
theorem sorted_pairwise (clock : Clock) {os : List OrderTerm} {places : List Nat}
    (reachable : t.Reachable)
    (bound : ∀ o ∈ os, ∃ name, t.Resolves name o.column) (increasing : places.Pairwise (· < ·))
    (members : ∀ k ∈ places, ∃ r, t.rows[k]? = some r) :
    (sorted clock os t.rows places).Pairwise fun j k =>
      ∀ r s, t.rows[j]? = some r → t.rows[k]? = some s →
        ¬PlacesBefore clock s r os ∧ (Ties clock r s os → j < k) := by
  by_cases hos : os = []
  · rw [hos]
    exact increasing.imp fun hjk r s _ _ => ⟨id, fun _ => hjk⟩
  have typed : ∀ k ∈ places, ∃ r, t.rows[k]? = some r ∧ HasSortTypes clock os r := by
    intro k hk
    obtain ⟨r, hr⟩ := members k hk
    refine ⟨r, hr, fun o ho => ?_⟩
    obtain ⟨name, hname⟩ := bound o ho
    exact hname.hasType (reachable.fits r (List.mem_of_getElem? hr))
  obtain ⟨hsorted, hstable⟩ := mergeSort_of_weaklyOrders (placeBefore_weaklyOrders clock t.rows os)
    typed fun j hj k hk => comesFirst_iff bound (typed j hj) (typed k hk)
  have nodup : (places.mergeSort (comesFirst clock t.rows os)).Nodup :=
    (List.mergeSort_perm ..).nodup_iff.2 (increasing.imp Nat.ne_of_lt)
  rw [sorted_eq_mergeSort hos]
  refine List.pairwise_iff_forall_sublist.2 fun {j k} hjk r s hr hs =>
    ⟨fun hsr => ?_, fun hties => ?_⟩
  · exact List.pairwise_iff_forall_sublist.1 hsorted hjk ⟨s, r, hs, hr, hsr⟩
  · -- A row that ties with a later one and is stored after it would have been kept behind it.
    by_contra hlt
    have hne : j ≠ k := fun h => not_sublist_swap nodup hjk (h ▸ hjk)
    have hj : j ∈ places := List.mem_mergeSort.1 (hjk.subset (by simp))
    have hk : k ∈ places := List.mem_mergeSort.1 (hjk.subset (by simp))
    have hkj := pair_sublist_of_lt increasing hk hj (by omega)
    refine not_sublist_swap nodup hjk (hstable ?_ hkj)
    rintro ⟨r', s', hr', hs', hrs⟩
    obtain rfl := Option.some.inj (hr.symm.trans hr')
    obtain rfl := Option.some.inj (hs.symm.trans hs')
    exact hties.not_placesBefore hrs

/-- The matching rows of a table in storage order, and the same rows as its columns sort them. -/
structure Tree.Sorts (clock : Clock) (t : Table) (tree : Tree) (matching all : List Nat) :
    Prop where
  /-- The first list is in storage order. -/
  increasing : matching.Pairwise (· < ·)
  /-- It holds the rows for which the root is true. -/
  mem_iff : ∀ k, k ∈ matching ↔
    ∃ r, t.rows[k]? = some r ∧ tree.root.evalOn ⟨clock, some r⟩ = .ok (.boolean true)
  /-- The second list holds the same rows. -/
  perm : all.Perm matching
  /-- No row comes before one that the columns place before it. -/
  sorted : all.Pairwise fun j k => ∀ r s, t.rows[j]? = some r → t.rows[k]? = some s →
    ¬PlacesBefore clock s r tree.order
  /-- Rows that tie stay in storage order. -/
  stable : all.Pairwise fun j k => ∀ r s, t.rows[j]? = some r → t.rows[k]? = some s →
    Ties clock r s tree.order → j < k

/-- **Filter, stable sort, limit.** With any limit, a statement that was bound on a reachable table
selects the first of its matching rows as its columns sort them. -/
theorem Tree.rows_sorts (t : Table) (clock : Clock) (tree : Tree) (reachable : t.Reachable)
    (bound : tree.BoundOn t) :
    ∃ matching all, tree.Sorts clock t matching all ∧
      ∀ limit, { tree with limit }.rows clock t.rows =
        if limit < 0 then all else all.take limit.toNat := by
  have increasing : (tree.matching clock t.rows).Pairwise (· < ·) := matching_increasing
  have members : ∀ k ∈ tree.matching clock t.rows, ∃ r, t.rows[k]? = some r := by
    intro k hk
    obtain ⟨r, hr, -⟩ := mem_matching.1 hk
    exact ⟨r, hr⟩
  have hsorted := sorted_pairwise clock reachable bound.2 increasing members
  refine ⟨tree.matching clock t.rows, sorted clock tree.order t.rows (tree.matching clock t.rows),
    ⟨matching_increasing, fun k => mem_matching, sorted_perm, ?_, ?_⟩, fun limit => rfl⟩
  · exact hsorted.imp fun h r s hr hs => (h r s hr hs).1
  · exact hsorted.imp fun h r s hr hs => (h r s hr hs).2

/-- The numbers whose double is above one, by their doubles. -/
def doublesAboveOne : Tree where
  table := "Doubling"
  root := .binary (.comparison .greater) Table.twice (.literal (.int32 1))
  limit := 1
  order := [⟨⟨⟨1, "Twice", .int32⟩, some (.binary (.arithmetic .add) (.column ⟨0, "N", .int32⟩)
    (.column ⟨0, "N", .int32⟩))⟩, true, false⟩]

theorem doublesAboveOne_boundOn : doublesAboveOne.BoundOn Table.doubled := by
  have number : Table.doubled.Resolves "N" ⟨⟨0, "N", .int32⟩, none⟩ :=
    .stored (c := ⟨"N", .int32, none⟩) rfl rfl rfl
  have double : Table.doubled.Resolves "Twice" ⟨⟨1, "Twice", .int32⟩, _⟩ :=
    .computed (c := ⟨"Twice", .int32, some "N + N"⟩) rfl rfl rfl rfl
      (.binary (.column number) (.column number))
  exact ⟨⟨_, .binary (.column double) (.literal _)⟩, List.forall_mem_singleton.2 ⟨_, double⟩⟩

/-- One of these numbers is the first of all of them as they are sorted. -/
theorem doublesAboveOne_rows :
    Table.doubled.Reachable ∧ doublesAboveOne.BoundOn Table.doubled ∧
      ∃ matching all, doublesAboveOne.Sorts ⟨default, default⟩ Table.doubled matching all ∧
        doublesAboveOne.rows ⟨default, default⟩ Table.doubled.rows = all.take 1 := by
  obtain ⟨matching, all, hsorts, hlimit⟩ := Tree.rows_sorts Table.doubled ⟨default, default⟩
    doublesAboveOne Table.doubled_reachable doublesAboveOne_boundOn
  exact ⟨Table.doubled_reachable, doublesAboveOne_boundOn, matching, all, hsorts, hlimit 1⟩

end Rows

end TableFilter
