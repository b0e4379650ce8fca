import Mathlib.Data.List.Nodup
import TableFilter.Selection.Gathered

/-!
# What is gathered

Gathering keeps a list, and from some moment on a set beside it that is asked in place of the list.
Whatever is added, the set has the elements of the list. So gathering is adding to a list: all of
the elements as they come, or only those it does not have, each of them once.

## Main definitions

* `addedTo`: a list after elements were added, with or without those it has
* `Gathered.IsFaithful`: the set has the elements of the list
* `Gathered.addAll`: what is gathered after elements were added one after the other

## Main results

* `nodup_addedTo_true`: adding without repetitions brings none about, and takes none away
* `Gathered.IsFaithful.merge`, `Gathered.IsFaithful.add`, `Gathered.IsFaithful.addAll`: the set has
  the elements of the list from the moment it is made
* `Gathered.list_addAll`: the list after elements were added
* `Gathered.mem_members_iff`, `Gathered.length_members_eq`: the set of what was gathered
-/

namespace TableFilter

/-! ### Lists without repetitions -/

section Lists

variable {α : Type} [BEq α] [LawfulBEq α] {l more : List α} {a : α}

theorem nodup_eraseDups : ∀ l : List α, l.eraseDups.Nodup
  | [] => .nil
  | a :: as => by
    rw [List.eraseDups_cons, List.nodup_cons, List.mem_eraseDups, List.mem_filter]
    exact ⟨by simp, nodup_eraseDups _⟩
termination_by l => l.length
decreasing_by exact Nat.lt_succ_of_le (List.length_filter_le _ _)

omit [LawfulBEq α] in
theorem eraseDups_sublist : ∀ l : List α, l.eraseDups.Sublist l
  | [] => .slnil
  | a :: as => by
    rw [List.eraseDups_cons]
    exact .cons_cons a ((eraseDups_sublist _).trans List.filter_sublist)
termination_by l => l.length
decreasing_by exact Nat.lt_succ_of_le (List.length_filter_le _ _)

theorem eraseDups_of_nodup (h : l.Nodup) : l.eraseDups = l := by
  induction l with
  | nil => rfl
  | cons a as ih =>
    obtain ⟨ha, has⟩ := List.nodup_cons.1 h
    have hfilter : as.filter (fun b => !b == a) = as := by
      refine List.filter_eq_self.2 fun b hb => ?_
      have hne : b ≠ a := fun hba => ha (hba ▸ hb)
      simpa using hne
    rw [List.eraseDups_cons, hfilter, ih has]

/-- Leaving out repetitions shortens exactly the lists that have some. -/
theorem length_eraseDups_eq_iff : l.eraseDups.length = l.length ↔ l.Nodup := by
  refine ⟨fun h => ?_, fun h => by rw [eraseDups_of_nodup h]⟩
  rw [← (eraseDups_sublist l).eq_of_length h]
  exact nodup_eraseDups l

/-- A list after elements were added at its end, all of them or only those it does not have. -/
def addedTo (merging : Bool) (l more : List α) : List α :=
  if merging then l ++ (more.removeAll l).eraseDups else l ++ more

variable {merging : Bool}

theorem addedTo_nil : addedTo merging l [] = l := by
  cases merging <;> simp [addedTo, List.removeAll]

theorem addedTo_singleton :
    addedTo merging l [a] = if merging && l.contains a then l else l ++ [a] := by
  cases merging with
  | false => rfl
  | true =>
    have single : [a].eraseDups = [a] := eraseDups_of_nodup (List.nodup_singleton a)
    by_cases ha : a ∈ l <;> simp [addedTo, List.removeAll, ha, single]

/-- Adding some elements and then others. -/
theorem addedTo_append {further : List α} :
    addedTo merging (addedTo merging l more) further = addedTo merging l (more ++ further) := by
  cases merging with
  | false => simp [addedTo]
  | true =>
    have hfurther : further.removeAll (l ++ (more.removeAll l).eraseDups) =
        (further.removeAll l).removeAll (more.removeAll l) := by
      simp only [List.removeAll, List.filter_filter]
      refine List.filter_congr fun a _ => ?_
      by_cases ha : a ∈ l <;> simp [ha]
    have happend : (more ++ further).removeAll l = more.removeAll l ++ further.removeAll l :=
      List.filter_append ..
    simp only [addedTo, if_pos, hfurther, happend, List.eraseDups_append, List.append_assoc]

/-- Adding to a list what it does not have leaves each repetition as it is. -/
theorem nodup_addedTo_true : (addedTo true l more).Nodup ↔ l.Nodup := by
  have apart : ∀ a ∈ l, ∀ b ∈ (more.removeAll l).eraseDups, a ≠ b := by
    rintro a ha b hb rfl
    simp [List.removeAll, ha] at hb
  rw [addedTo, if_pos rfl, List.nodup_append]
  exact ⟨fun h => h.1, fun h => ⟨h, nodup_eraseDups _, apart⟩⟩

theorem mem_addedTo_true : a ∈ addedTo true l more ↔ a ∈ l ∨ a ∈ more := by
  by_cases ha : a ∈ l <;> simp [addedTo, List.removeAll, ha]

/-- Adding to a list without repetitions leaves out the repetitions of both. -/
theorem addedTo_true_of_nodup (h : l.Nodup) : addedTo true l more = (l ++ more).eraseDups := by
  rw [addedTo, if_pos rfl, List.eraseDups_append, eraseDups_of_nodup h]

end Lists

/-! ### Sets of elements -/

namespace Members

variable {α : Type} [DecidableEq α] {s : Members α} {l : List α} {a b : α}

theorem has_iff : s.has a = true ↔ a ∈ s.elements := List.contains_iff_mem

@[simp] theorem mem_insert : b ∈ (s.insert a).elements ↔ b = a ∨ b ∈ s.elements := by
  unfold insert
  split
  · next ha => exact ⟨.inr, fun h => h.elim (fun hb => hb ▸ ha) id⟩
  · exact List.mem_cons

theorem mem_foldl_insert : a ∈ (l.foldl insert s).elements ↔ a ∈ l ∨ a ∈ s.elements := by
  induction l generalizing s with
  | nil => simp
  | cons b l ih =>
    rw [List.foldl_cons, ih, mem_insert, List.mem_cons]
    tauto

@[simp] theorem mem_ofList : a ∈ (ofList l).elements ↔ a ∈ l := by
  rw [ofList, mem_foldl_insert]
  exact or_iff_left List.not_mem_nil

/-- A set has as many elements as a list has different ones, if its elements are those. -/
theorem length_eq_of_mem_iff (h : ∀ a, a ∈ s.elements ↔ a ∈ l) :
    s.elements.length = l.eraseDups.length := by
  refine ((List.perm_ext_iff_of_nodup s.nodup (nodup_eraseDups l)).2 fun a => ?_).length_eq
  rw [h a, List.mem_eraseDups]

end Members

/-! ### Gathering -/

namespace Gathered

variable {α : Type} [DecidableEq α] {g : Gathered α} {l more : List α} {a : α}

/-- Once elements are merged, the set that tells what is there has the elements of the list. -/
def IsFaithful (g : Gathered α) : Prop :=
  ∀ present ∈ g.present, ∀ a, a ∈ present.elements ↔ a ∈ g.list

/-- What is gathered after elements were added one after the other. -/
def addAll (g : Gathered α) (l : List α) : Gathered α := l.foldl add g

theorem addAll_append : (g.addAll l).addAll more = g.addAll (l ++ more) := List.foldl_append.symm

/-! #### One step -/

omit [DecidableEq α] in
theorem isFaithful_empty : (empty : Gathered α).IsFaithful := fun _ h => nomatch h

/-- The set is made of the list. -/
theorem isFaithful_merge : g.merge.IsFaithful := by
  intro present h a
  obtain rfl := Option.some.inj h
  exact Members.mem_ofList

/-- The list and the set are added to together, or neither of them is. -/
theorem IsFaithful.add (h : g.IsFaithful) (a : α) : (g.add a).IsFaithful := by
  unfold Gathered.add
  split
  · next hnone => exact fun present hp => nomatch hnone.symm.trans hp
  · next present hsome =>
    split
    · exact h
    · intro present' hp b
      obtain rfl := Option.some.inj hp
      rw [Members.mem_insert, h present hsome b, List.mem_append, List.mem_singleton, or_comm]

theorem isSome_add : (g.add a).present.isSome = g.present.isSome := by
  unfold Gathered.add
  cases hg : g.present with
  | none => simp
  | some present =>
    dsimp only
    split
    · rw [hg]
    · rfl

/-- Asking the set is asking the list. -/
theorem list_add (h : g.IsFaithful) : (g.add a).list = addedTo g.present.isSome g.list [a] := by
  rw [addedTo_singleton]
  unfold Gathered.add
  cases hg : g.present with
  | none => rfl
  | some present =>
    have asked : present.has a = g.list.contains a := by
      rw [Bool.eq_iff_iff, Members.has_iff, h present hg, List.contains_iff_mem]
    simp only [Option.isSome_some, Bool.true_and, ← asked]
    split <;> rfl

/-! #### All of them -/

theorem IsFaithful.addAll (h : g.IsFaithful) (l : List α) : (g.addAll l).IsFaithful := by
  induction l generalizing g with
  | nil => exact h
  | cons a l ih => exact ih (h.add a)

theorem isSome_addAll : (g.addAll l).present.isSome = g.present.isSome := by
  induction l generalizing g with
  | nil => rfl
  | cons a l ih => exact ih.trans isSome_add

/-- Adding elements one after the other is adding to the list. -/
theorem list_addAll (h : g.IsFaithful) :
    (g.addAll l).list = addedTo g.present.isSome g.list l := by
  -- By induction on the elements: the set is faithful for those that follow.
  induction l generalizing g with
  | nil => exact addedTo_nil.symm
  | cons a l ih =>
    refine (ih (h.add a)).trans ?_
    rw [isSome_add, list_add h, addedTo_append, List.singleton_append]

/-! #### What was gathered as a set -/

theorem mem_members_iff (h : g.IsFaithful) : a ∈ g.members.elements ↔ a ∈ g.list := by
  unfold members
  cases hg : g.present with
  | none => exact Members.mem_ofList
  | some present => exact h present hg a

theorem length_members_eq (h : g.IsFaithful) :
    g.members.elements.length = g.list.eraseDups.length :=
  Members.length_eq_of_mem_iff fun _ => mem_members_iff h

end Gathered

end TableFilter
