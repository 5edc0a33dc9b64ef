/-
  ClassTidy.ClassList.Normal — the canonical form of a class string.

  A text with the template marker is left alone, and so is the empty text. Otherwise the
  text is split, a first and a last token are held aside if asked for, the others are
  sorted, a dropped repeat takes the gap in front of it along, and the text is put
  together again. When gaps collapse, each becomes one space and the ends are trimmed.
-/
import ClassTidy.Text.Blank
import ClassTidy.ClassList.Basic
import ClassTidy.ClassList.Order

namespace ClassTidy.ClassList

/-- What becomes of the blanks at an end: trimmed off, or kept as one space. -/
structure Ends where
  trimStart : Bool
  trimStop : Bool
  deriving DecidableEq, Repr

structure Options where
  holdFirst : Bool := false
  holdLast : Bool := false
  unique : Bool := true
  /-- How gaps collapse; `none` keeps them. -/
  collapse : Option Ends := some ⟨true, true⟩
  deriving DecidableEq, Repr

/-- What marks a template, whose parts must not move. -/
def marker : Text := ['\x7b', '\x7b']

def hasMarker (t : Text) : Bool := (Text.find? marker t).isSome

/-- The text apart from what is held aside. -/
structure Held where
  front : Text
  middle : ClassList
  back : Text
  deriving DecidableEq, Repr

/-- Holds the first token and the gap behind it aside. -/
def holdFirst (l : ClassList) : Text × ClassList :=
  (l.tokens.headD [] ++ l.gaps.headD [], ⟨l.tokens.tail, l.gaps.tail⟩)

/-- Holds the last gap and the last token aside. -/
def holdLast (l : ClassList) : Text × ClassList :=
  (l.gaps.getLastD [] ++ l.tokens.getLastD [], ⟨l.tokens.dropLast, l.gaps.dropLast⟩)

/-- Splits a text and holds its ends aside. -/
def hold (o : Options) (t : Text) : Held :=
  let l := if o.collapse.isSome then (split t).collapse else split t
  let (front, l) := if o.holdFirst then holdFirst l else ([], l)
  let (back, l) := if o.holdLast then holdLast l else ([], l)
  ⟨front, l, back⟩

/-- Gaps without those in front of a removed place; `i` is the place behind the first gap. -/
def keepGaps (removed : List Nat) (i : Nat) : List Text → List Text
  | [] => []
  | g :: gs => if removed.contains i then keepGaps removed (i + 1) gs else g :: keepGaps removed (i + 1) gs

/-- Puts the sorted middle back between what was held aside. -/
def assemble (o : Options) (h : Held) (s : Sorted) : Text :=
  let middle := joinParts s.classes (keepGaps s.removed 1 h.middle.gaps)
  match o.collapse with
  | none => h.front ++ middle ++ h.back
  | some e =>
    let front := Text.replaceTrailing [' '] h.front
    let back := Text.replaceLeading [' '] h.back
    let middle := Text.replaceLeading (if e.trimStart then [] else [' ']) middle
    let middle := Text.replaceTrailing (if e.trimStop then [] else [' ']) middle
    front ++ middle ++ back

/-- A text that needs no ranks: it stays, or is one space if it is a gap that collapses. -/
def fixed? (o : Options) (t : Text) : Option Text :=
  if t.isEmpty || hasMarker t then some t
  else if isGap t then some (if o.collapse.isSome then [' '] else t)
  else none

/-- The classes that a ranker is asked for, if it is asked at all. -/
def query? (o : Options) (t : Text) : Option (List Text) :=
  match fixed? o t with
  | some _ => none
  | none => some (hold o t).middle.tokens

/-- The canonical form of a text whose middle has been ranked. -/
def arrange (o : Options) (t : Text) (ranked : List Ranked) : Text :=
  assemble o (hold o t) (sortRanked o.unique ranked)

/-- The canonical form of a class string. -/
def normalize (ranker : Ranker) (o : Options) (t : Text) : Except RankFault Text :=
  match fixed? o t with
  | some t => .ok t
  | none => (Ranked.ask ranker (hold o t).middle.tokens).map (arrange o t)

end ClassTidy.ClassList
