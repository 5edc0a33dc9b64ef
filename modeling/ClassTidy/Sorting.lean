/-
  ClassTidy.Sorting — a sort that keeps the order of items it cannot tell apart.

  The list is sorted by insertion, by recursion on the list itself, so that it can be
  computed with inside a proof.
-/

namespace ClassTidy.Sorting

/-- Puts an item in front of the first item it may stand before. -/
def insertBy {α : Type} (le : α → α → Bool) (a : α) : List α → List α
  | [] => [a]
  | b :: bs => if le a b then a :: b :: bs else b :: insertBy le a bs

/-- Sorts a list; items that may stand before each other keep their order. -/
def sortBy {α : Type} (le : α → α → Bool) : List α → List α
  | [] => []
  | a :: as => insertBy le a (sortBy le as)

end ClassTidy.Sorting
