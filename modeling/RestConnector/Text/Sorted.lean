/-!
# Sorted lists

Where an order shows in the output, it is the order of code points, and lists are sorted by insertion:
each element goes in front of the first that is not smaller (`insert`). A list that stands for a set
is sorted and has every element once (`sortedSet`).
-/

namespace RestConnector.Text.Sorted

/-- Puts an element in front of the first one that does not precede it. -/
def insert {α : Type} (precedes : α → α → Bool) (a : α) : List α → List α
  | [] => [a]
  | b :: rest => if precedes b a then b :: insert precedes a rest else a :: b :: rest

/-- A list in order; elements of one rank keep their order. -/
def sort {α : Type} (precedes : α → α → Bool) (items : List α) : List α :=
  items.foldr (insert precedes) []

/-- The elements of a list, each once. -/
def distinct {α : Type} [DecidableEq α] : List α → List α
  | [] => []
  | a :: rest => if a ∈ rest then distinct rest else a :: distinct rest

/-- Whether a string comes before another in the order of code points. -/
def precedes (a b : String) : Bool := a < b

/-- The strings of a list in order, each once. -/
def sortedSet (names : List String) : List String :=
  sort precedes (distinct names)

/-- Whether a pair comes before another: by the first component, then by the second. -/
def pairPrecedes (a b : String × String) : Bool :=
  precedes a.1 b.1 || (a.1 == b.1 && precedes a.2 b.2)

end RestConnector.Text.Sorted
