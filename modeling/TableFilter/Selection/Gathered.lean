/-!
# Gathering

What is selected is gathered in a list as it is met. At some moment gathering turns to merging: what
is there already is not added any more. A set tells what is there. It is made of the list at that
moment, and from then on the two are kept side by side.

## Main definitions

* `Members`: elements without an order
* `Gathered`: a list of elements, and the set of them once they are merged
* `Gathered.merge`, `Gathered.add`: turning to merging, and adding one element
* `Gathered.members`: the set of the elements
-/

namespace TableFilter

/-- Elements without an order, none of them twice. -/
structure Members (α : Type) where
  elements : List α
  nodup : elements.Nodup
deriving DecidableEq

namespace Members

variable {α : Type} [DecidableEq α]

/-- No elements. -/
def empty : Members α := ⟨[], .nil⟩

/-- Whether an element is one of them. -/
def has (s : Members α) (a : α) : Bool := s.elements.contains a

/-- The same with another element, which may be one of them already. -/
def insert (s : Members α) (a : α) : Members α :=
  if h : a ∈ s.elements then s else ⟨a :: s.elements, List.nodup_cons.2 ⟨h, s.nodup⟩⟩

/-- The elements of a list. -/
def ofList (l : List α) : Members α := l.foldl insert empty

end Members

/-- Elements as they were met, and once they are merged the set of them. -/
structure Gathered (α : Type) where
  list : List α
  present : Option (Members α)
deriving DecidableEq

namespace Gathered

variable {α : Type} [DecidableEq α]

/-- Nothing gathered. -/
def empty : Gathered α := ⟨[], none⟩

/-- Turns to merging. Elements that the list has twice stay in it. -/
def merge (g : Gathered α) : Gathered α := { g with present := some (.ofList g.list) }

/-- Adds an element, unless elements are merged and it is there. -/
def add (g : Gathered α) (a : α) : Gathered α :=
  match g.present with
  | none => { g with list := g.list ++ [a] }
  | some present => if present.has a then g else ⟨g.list ++ [a], some (present.insert a)⟩

/-- The set of the elements. -/
def members (g : Gathered α) : Members α := g.present.getD (.ofList g.list)

end Gathered

end TableFilter
