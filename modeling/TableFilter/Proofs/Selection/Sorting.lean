import TableFilter.Proofs.Evaluation.Cache
import TableFilter.Proofs.Value.Order
import TableFilter.Proofs.Value.Types
import TableFilter.Tree.Rows

/-!
# Sorting rows

What the columns to sort by say about two rows, and that sorting by them is the comparison of keys
that is carried out.

A column places one row before another if the value of the first is below that of the second, or
above it if the column descends. A row whose value cannot be sorted by is placed after all those
whose value can. Of several columns the first that places the two rows decides.

## Main definitions

* `IsSortKey`: a result that can be sorted by
* `OrderTerm.Places`: a column places a row before another
* `PlacesBefore`: columns one after the other place a row before another

## Main results

* `compareKeys_eq`: comparing keys tells which row is placed first
* `placesBefore_weaklyOrders`: rows are ordered weakly
-/

namespace TableFilter

/-- The result is a value that can be sorted by: neither a null nor no number. -/
def IsSortKey (r : Result Value) (v : Value) : Prop :=
  r = .ok v ∧ v.isNull = false ∧ ∀ x, v = .double x → Binary64.isNaN x = false

/-- A column places a row with the first result before one with the second. -/
inductive OrderTerm.Places (o : OrderTerm) : Result Value → Result Value → Prop
  | ascending {r s : Result Value} {v w : Value} : o.ascending = true → IsSortKey r v →
      IsSortKey s w → Value.Below o.exact v w → Places o r s
  | descending {r s : Result Value} {v w : Value} : o.ascending = false → IsSortKey r v →
      IsSortKey s w → Value.Below o.exact w v → Places o r s
  | missing {r s : Result Value} {v : Value} : IsSortKey r v → (∀ w, ¬IsSortKey s w) → Places o r s

/-- Columns place a row before another: the first of them that places either row before the other
places this one. -/
def PlacesBefore (clock : Clock) (r s : Row) : List OrderTerm → Prop
  | [] => False
  | o :: os =>
    o.Places (o.column.valueOn clock r) (o.column.valueOn clock s) ∨
      ¬o.Places (o.column.valueOn clock s) (o.column.valueOn clock r) ∧ PlacesBefore clock r s os

/-! ### One column -/

section Column

variable {o : OrderTerm} {r s : Result Value} {v w : Value} {type : DataType}

theorem IsSortKey.unique (h : IsSortKey r v) (h' : IsSortKey r w) : v = w :=
  Except.ok.inj (h.1.symm.trans h'.1)

theorem sortKey_eq_some : sortKey r = some v ↔ IsSortKey r v := by
  unfold sortKey IsSortKey
  split
  · next x =>
    cases hx : Binary64.isNaN x
    · simp only [Bool.false_eq_true, if_false, Option.some.injEq, Except.ok.injEq]
      constructor
      · rintro rfl
        exact ⟨rfl, rfl, fun y hy => Value.double.inj hy ▸ hx⟩
      · exact fun h => h.1
    · simp only [if_true, reduceCtorEq, false_iff]
      rintro ⟨h, -, hnumber⟩
      exact absurd (hnumber x (Except.ok.inj h).symm) (by simp [hx])
  · next u hdouble =>
    cases hu : u.isNull
    · simp only [Bool.false_eq_true, if_false, Option.some.injEq, Except.ok.injEq]
      constructor
      · rintro rfl
        exact ⟨rfl, hu, fun y hy => absurd hy (hdouble y)⟩
      · exact fun h => h.1
    · simp only [if_true, reduceCtorEq, false_iff]
      rintro ⟨h, hnull, -⟩
      obtain rfl := Except.ok.inj h
      exact absurd hu (by simp [hnull])
  · simp

theorem sortKey_eq_none : sortKey r = none ↔ ∀ v, ¬IsSortKey r v := by
  rw [Option.eq_none_iff_forall_not_mem]
  exact forall_congr' fun v => not_congr sortKey_eq_some

/-- A result whose value, if there is one, is of a type. -/
def HasType (type : DataType) (r : Result Value) : Prop := ∀ v, r = .ok v → v.dataType = type

theorem IsSortKey.isKeyOf (h : IsSortKey r v) (htype : HasType type r) : v.IsKeyOf type :=
  ⟨htype v h.1, h.2.1, h.2.2⟩

theorem places_iff (hr : IsSortKey r v) (hs : IsSortKey s w) :
    o.Places r s ↔
      if o.ascending then Value.Below o.exact v w else Value.Below o.exact w v := by
  constructor
  · intro h
    cases h with
    | ascending ho hr' hs' hbelow => rwa [if_pos ho, hr.unique hr', hs.unique hs']
    | descending ho hr' hs' hbelow => rwa [if_neg (by simp [ho]), hr.unique hr', hs.unique hs']
    | missing _ hs' => exact absurd hs (hs' w)
  · intro h
    split at h
    · next ho => exact .ascending ho hr hs h
    · next ho => exact .descending (by simpa using ho) hr hs h

theorem OrderTerm.Places.isSortKey (h : o.Places r s) : ∃ v, IsSortKey r v := by
  cases h with
  | ascending _ hr | descending _ hr | missing hr => exact ⟨_, hr⟩

/-- By one column, results of one type are ordered weakly. -/
theorem places_weaklyOrders (o : OrderTerm) (type : DataType) :
    WeaklyOrders (HasType type) o.Places := by
  have hkeys : WeaklyOrders (Value.IsKeyOf type) fun v w =>
      if o.ascending then Value.Below o.exact v w else Value.Below o.exact w v := by
    cases o.ascending
    · simpa using (Value.below_weaklyOrders o.exact type).flip
    · simpa using Value.below_weaklyOrders o.exact type
  refine ⟨fun {r s} hr hs hrs hsr => ?_, fun {r s u} hr hs hu hru => ?_⟩
  · obtain ⟨v, hv⟩ := hrs.isSortKey
    obtain ⟨w, hw⟩ := hsr.isSortKey
    exact hkeys.asymm (hv.isKeyOf hr) (hw.isKeyOf hs) ((places_iff hv hw).1 hrs)
      ((places_iff hw hv).1 hsr)
  · obtain ⟨v, hv⟩ := hru.isSortKey
    by_cases hkey : ∃ w, IsSortKey s w
    · obtain ⟨w, hw⟩ := hkey
      by_cases hlast : ∃ x, IsSortKey u x
      · obtain ⟨x, hx⟩ := hlast
        rw [places_iff hv hw, places_iff hw hx]
        exact hkeys.cotrans (hv.isKeyOf hr) (hw.isKeyOf hs) (hx.isKeyOf hu)
          ((places_iff hv hx).1 hru)
      · exact .inr (.missing hw fun x hx => hlast ⟨x, hx⟩)
    · exact .inl (.missing hv fun w hw => hkey ⟨w, hw⟩)

/-- The comparison of two keys is the order of their values, turned round for a column that
descends. -/
theorem compareKey_some (hv : v.IsKeyOf type) (hw : w.IsKeyOf type) :
    compareKey o (some v) (some w) =
      if o.ascending then (Value.comparePresent o.exact v w).getD .eq
      else ((Value.comparePresent o.exact v w).getD .eq).swap := by
  rw [compareKey, Value.compare_eq hv hw]
  cases Value.comparePresent o.exact v w <;> rfl

theorem getD_eq_lt {order : Option Ordering} : order.getD .eq = .lt ↔ order = some .lt := by
  cases order <;> simp

theorem getD_eq_gt {order : Option Ordering} : order.getD .eq = .gt ↔ order = some .gt := by
  cases order <;> simp

/-- Keys compare as less where the column places the first result before the second. -/
theorem compareKey_eq_lt (hr : HasType type r) (hs : HasType type s) :
    compareKey o (sortKey r) (sortKey s) = .lt ↔ o.Places r s := by
  cases hkr : sortKey r with
  | none =>
    have hnone : ¬o.Places r s := fun h =>
      h.isSortKey.elim fun v hv => sortKey_eq_none.1 hkr v hv
    cases sortKey s <;> simp [compareKey, hnone]
  | some v =>
    have hv := sortKey_eq_some.1 hkr
    cases hks : sortKey s with
    | none => exact iff_of_true rfl (.missing hv (sortKey_eq_none.1 hks))
    | some w =>
      have hw := sortKey_eq_some.1 hks
      rw [places_iff hv hw, compareKey_some (hv.isKeyOf hr) (hw.isKeyOf hs)]
      split
      · rw [getD_eq_lt, Value.comparePresent_eq_lt]
      · rw [Ordering.swap_eq_lt, getD_eq_gt, Value.comparePresent_eq_gt]

theorem getD_map_swap (order : Option Ordering) :
    (order.map Ordering.swap).getD .eq = (order.getD .eq).swap := by
  cases order <;> rfl

theorem compareKey_swap (hr : HasType type r) (hs : HasType type s) :
    compareKey o (sortKey r) (sortKey s) = (compareKey o (sortKey s) (sortKey r)).swap := by
  cases hkr : sortKey r with
  | none => cases sortKey s <;> rfl
  | some v =>
    cases hks : sortKey s with
    | none => rfl
    | some w =>
      have hv := (sortKey_eq_some.1 hkr).isKeyOf hr
      have hw := (sortKey_eq_some.1 hks).isKeyOf hs
      rw [compareKey_some hv hw, compareKey_some hw hv, Value.comparePresent_swap o.exact w v,
        getD_map_swap]
      split <;> rfl

/-- Keys compare as greater where the column places the second result before the first. -/
theorem compareKey_eq_gt (hr : HasType type r) (hs : HasType type s) :
    compareKey o (sortKey r) (sortKey s) = .gt ↔ o.Places s r := by
  rw [compareKey_swap hr hs, Ordering.swap_eq_gt, compareKey_eq_lt hs hr]

end Column

/-! ### All columns -/

section Columns

variable {clock : Clock} {os : List OrderTerm} {r s u : Row}

/-- The values of the columns to sort by on a row are of the types of these columns. -/
def HasSortTypes (clock : Clock) (os : List OrderTerm) (r : Row) : Prop :=
  ∀ o ∈ os, HasType o.column.head.type (o.column.valueOn clock r)

/-- The keys of a row, each by itself. -/
def keysOn (clock : Clock) (os : List OrderTerm) (r : Row) : List (Option Value) :=
  os.map fun o => sortKey (o.column.valueOn clock r)

theorem compareKeys_eq (hr : HasSortTypes clock os r) (hs : HasSortTypes clock os s) :
    (compareKeys os (keysOn clock os r) (keysOn clock os s) = .lt ↔ PlacesBefore clock r s os) ∧
      (compareKeys os (keysOn clock os r) (keysOn clock os s) = .gt ↔
        PlacesBefore clock s r os) := by
  induction os with
  | nil => exact ⟨by simp [compareKeys, PlacesBefore], by simp [compareKeys, PlacesBefore]⟩
  | cons o os ih =>
    obtain ⟨hro, hros⟩ := List.forall_mem_cons.1 hr
    obtain ⟨hso, hsos⟩ := List.forall_mem_cons.1 hs
    obtain ⟨ihlt, ihgt⟩ := ih hros hsos
    have hlt := compareKey_eq_lt (o := o) hro hso
    have hgt := compareKey_eq_gt (o := o) hro hso
    rw [PlacesBefore, PlacesBefore, ← hlt, ← hgt, ← ihlt, ← ihgt]
    simp only [keysOn, List.map_cons, compareKeys, Ordering.then_eq_lt, Ordering.then_eq_gt]
    cases compareKey o (sortKey (o.column.valueOn clock r)) (sortKey (o.column.valueOn clock s)) <;>
      simp

/-- Rows are ordered weakly by columns one after the other. -/
theorem placesBefore_weaklyOrders (clock : Clock) (os : List OrderTerm) :
    WeaklyOrders (HasSortTypes clock os) fun r s => PlacesBefore clock r s os := by
  induction os with
  | nil => exact ⟨fun _ _ h => h.elim, fun _ _ _ h => h.elim⟩
  | cons o os ih =>
    have first : ∀ {r}, HasSortTypes clock (o :: os) r →
        HasType o.column.head.type (o.column.valueOn clock r) :=
      fun h => h o (List.mem_cons_self ..)
    have further : ∀ {r}, HasSortTypes clock (o :: os) r → HasSortTypes clock os r :=
      fun h o ho => h o (List.mem_cons_of_mem _ ho)
    have hplaces := places_weaklyOrders o o.column.head.type
    refine ⟨fun {r s} hr hs hrs hsr => ?_, fun {r s u} hr hs hu hru => ?_⟩
    · rcases hrs with hrs | ⟨hrs, hrs'⟩
      · rcases hsr with hsr | ⟨hsr, -⟩
        · exact hplaces.asymm (first hr) (first hs) hrs hsr
        · exact hsr hrs
      · rcases hsr with hsr | ⟨-, hsr'⟩
        · exact hrs hsr
        · exact ih.asymm (further hr) (further hs) hrs' hsr'
    · simp only [PlacesBefore]
      rcases hru with hru | ⟨hur, hru'⟩
      · rcases hplaces.cotrans (first hr) (first hs) (first hu) hru with hrs | hsu
        · exact .inl (.inl hrs)
        · exact .inr (.inl hsu)
      · rcases ih.cotrans (further hr) (further hs) (further hu) hru' with hrs' | hsu'
        · by_cases hsr : o.Places (o.column.valueOn clock s) (o.column.valueOn clock r)
          · refine .inr (.inl ?_)
            exact (hplaces.cotrans (first hs) (first hu) (first hr) hsr).resolve_right hur
          · exact .inl (.inr ⟨hsr, hrs'⟩)
        · by_cases hus : o.Places (o.column.valueOn clock u) (o.column.valueOn clock s)
          · refine .inl (.inl ?_)
            exact (hplaces.cotrans (first hu) (first hr) (first hs) hus).resolve_left hur
          · exact .inr (.inr ⟨hus, hsu'⟩)

end Columns

end TableFilter
