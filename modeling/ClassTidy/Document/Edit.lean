/-
  ClassTidy.Document.Edit — replacing parts of a document.

  An edit replaces the range from `start` up to `stop`. Of edits that overlap, the one
  that starts first is kept, and of those the one that ends first; an edit is skipped if
  it starts before the end of the last one kept. Edits are applied from the end backwards,
  so that offsets stay good.
-/
import ClassTidy.Log
import ClassTidy.Sorting

namespace ClassTidy

structure Edit where
  start : Nat
  stop : Nat
  old : Text
  new : Text
  deriving DecidableEq, Repr

/-- What can be wrong with edits. -/
inductive EditFault where
  | negative (start : Int)
  | reversed (stop start : Int)
  | outside (start stop : Nat)
  deriving DecidableEq, Repr

def EditFault.message : EditFault → String
  | .negative s => "start must be >= 0, got " ++ toString s
  | .reversed e s => "end must be >= start, got " ++ toString e ++ " < " ++ toString s
  | .outside s e => "edit " ++ toString s ++ "-" ++ toString e ++ " is outside the text"

namespace Edit

/-- An edit from offsets that may be anything. -/
def check (start stop : Int) (old new : Text) : Except EditFault Edit :=
  if start < 0 then .error (.negative start)
  else if stop < start then .error (.reversed stop start)
  else .ok ⟨start.toNat, stop.toNat, old, new⟩

/-- `a` starts before `b`, or with it and ends no later. -/
def before (a b : Edit) : Bool := a.start < b.start || (a.start == b.start && a.stop ≤ b.stop)

/-- Edits to be made, and those skipped, each with the one it overlaps. -/
structure Selection where
  kept : List Edit
  skipped : List (Edit × Edit)
  deriving DecidableEq, Repr

/-- Goes through sorted edits; `last` is the last one kept. -/
def selectFrom (last : Option Edit) : List Edit → Selection
  | [] => ⟨[], []⟩
  | e :: es =>
    match last with
    | some k =>
      if e.start < k.stop then
        let rest := selectFrom (some k) es
        { rest with skipped := (e, k) :: rest.skipped }
      else
        let rest := selectFrom (some e) es
        { rest with kept := e :: rest.kept }
    | none =>
      let rest := selectFrom (some e) es
      { rest with kept := e :: rest.kept }

/-- Edits that do not overlap, in order. -/
def select (edits : List Edit) : Selection := selectFrom none (Sorting.sortBy before edits)

/-- What is told about skipped edits. -/
def Selection.log (s : Selection) : Log :=
  s.skipped.map fun (e, k) =>
    ⟨.warning, .service, .ok ("Skipping edit ".toList ++ Text.ofNat e.start ++ '-' :: Text.ofNat e.stop ++
      " overlapping ".toList ++ Text.ofNat k.start ++ '-' :: Text.ofNat k.stop)⟩

/-- Makes one edit. -/
def replace (t : Text) (e : Edit) : Text := t.take e.start ++ e.new ++ t.drop e.stop

/-- Makes edits in the given order; each has to lie within the first `size` characters. -/
def replaceAll (size : Nat) : List Edit → Text → Except EditFault Text
  | [], t => .ok t
  | e :: es, t => if size < e.stop then .error (.outside e.start e.stop) else replaceAll size es (replace t e)

/-- Makes all edits that do not overlap, from the last to the first. -/
def apply (t : Text) (edits : List Edit) : Except EditFault Text :=
  replaceAll t.length (select edits).kept.reverse t

end Edit

end ClassTidy
