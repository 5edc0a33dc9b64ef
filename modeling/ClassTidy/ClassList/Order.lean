/-
  ClassTidy.ClassList.Order — the order of classes.

  Classes without a rank come first, classes with one by ascending rank, and the ellipsis
  last whatever its rank. Classes of one place keep their order. A class with a rank that
  occurred before is a repeat and can be dropped; its place in the sorted list is noted,
  because the gap in front of it goes too.
-/
import ClassTidy.Rank.Basic
import ClassTidy.Sorting

namespace ClassTidy.ClassList

/-- The tokens that stand for "and more". -/
def isEllipsis (name : Text) : Bool := name == ['.', '.', '.'] || name == ['…']

/-- The part of the order a class belongs to, and its place there. -/
def place (r : Ranked) : Nat × Int :=
  if isEllipsis r.name then (2, 0)
  else match r.rank with
    | .known n => (1, n)
    | .unknown => (0, 0)

/-- `a` may stand before `b`. -/
def before (a b : Ranked) : Bool :=
  let p := place a
  let q := place b
  p.1 < q.1 || (p.1 == q.1 && p.2 ≤ q.2)

/-- Ranked classes in order. -/
def order (tokens : List Ranked) : List Ranked := Sorting.sortBy before tokens

/-- Sorted classes, and the places in the sorted list from which repeats were dropped. -/
structure Sorted where
  classes : List Text
  removed : List Nat
  deriving DecidableEq, Repr

/-- Drops every class in `seen` or known earlier in the list; `i` is the place of the first one. -/
def dropRepeats (seen : List Text) (i : Nat) : List Ranked → Sorted
  | [] => ⟨[], []⟩
  | t :: ts =>
    if seen.contains t.name then
      let rest := dropRepeats seen (i + 1) ts
      { rest with removed := i :: rest.removed }
    else
      let rest := dropRepeats (if t.isKnown then t.name :: seen else seen) (i + 1) ts
      { rest with classes := t.name :: rest.classes }

/-- Sorts classes that have been ranked. -/
def sortRanked (unique : Bool) (tokens : List Ranked) : Sorted :=
  if unique then dropRepeats [] 0 (order tokens)
  else ⟨(order tokens).map (·.name), []⟩

/-- Ranks and sorts classes. -/
def sort (ranker : Ranker) (unique : Bool) (names : List Text) : Except RankFault Sorted :=
  (Ranked.ask ranker names).map (sortRanked unique)

end ClassTidy.ClassList
