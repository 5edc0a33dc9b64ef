/-
  ClassTidy.Document.Lines — offsets as lines and columns.

  A line starts at offset 0 and behind every newline. The position of an offset is the
  last line that starts at or before it, and how far behind that start it lies; both are
  counted from 0. Text from a file has its line ends unified before anything else.
-/
import ClassTidy.Text.Basic

namespace ClassTidy.Document

/-- The offsets behind the newlines of a text that starts at `i`. -/
def startsBehind (i : Nat) : Text → List Nat
  | [] => []
  | c :: t => if c = '\n' then (i + 1) :: startsBehind (i + 1) t else startsBehind (i + 1) t

/-- Where lines start. -/
def lineStarts (t : Text) : List Nat := 0 :: startsBehind 0 t

/-- Line and column of an offset. -/
def position (starts : List Nat) (offset : Int) : Nat × Int :=
  let line := (starts.filter fun (s : Nat) => decide ((s : Int) ≤ offset)).length - 1
  (line, offset - (starts.getD line 0 : Nat))

/-- Every way to end a line as a newline. -/
def unifyLines : Text → Text
  | [] => []
  | '\r' :: '\n' :: t => '\n' :: unifyLines t
  | c :: t => (if c = '\r' then '\n' else c) :: unifyLines t

end ClassTidy.Document
