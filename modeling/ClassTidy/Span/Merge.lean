/-
  ClassTidy.Span.Merge — spans of both kinds in one list, and the ones that matter.

  Spans are ordered by where their class strings start, rule spans before call spans of
  the same start, and of the spans of one class string the first is kept. Both ends of a
  class string count as touching it.
-/
import ClassTidy.Span.Basic
import ClassTidy.Sorting

namespace ClassTidy.Span

/-- The first span of every key that is not in `seen`. -/
def firstOfKey (seen : List (Nat × Nat)) : List Span → List Span
  | [] => []
  | s :: ss => if seen.contains s.key then firstOfKey seen ss else s :: firstOfKey (s.key :: seen) ss

/-- Spans of rules and calls as one list without repeats. -/
def merge (rules calls : List Span) : List Span :=
  firstOfKey [] (Sorting.sortBy (fun a b => a.classStart ≤ b.classStart) (rules ++ calls))

/-- Spans whose class string holds an offset. -/
def atOffset (offset : Int) (spans : List Span) : List Span :=
  spans.filter fun s => (s.classStart : Int) ≤ offset && offset ≤ s.classStop

/-- Spans whose class string touches the range between two offsets, given in either order. -/
def inRange (a b : Int) (spans : List Span) : List Span :=
  let low := min a b
  let high := max a b
  spans.filter fun s => (s.classStart : Int) ≤ high && low ≤ s.classStop

end ClassTidy.Span
