/-
  ClassTidy.Span.Basic — a class string found in a document.

  A span says what was matched and where it starts, and which part of it is the class
  string. Offsets are never negative and a class string does not end before it starts;
  offsets from outside are checked once, on the way in.
-/
import ClassTidy.Text.Basic

namespace ClassTidy

/-- What found a span: a pattern rule, or a call's argument. -/
inductive Origin where
  | rule
  | call
  deriving DecidableEq, Repr

structure Span where
  full : Text
  classes : Text
  start : Nat
  classStart : Nat
  classStop : Nat
  origin : Origin
  deriving DecidableEq, Repr

/-- Why offsets make no span. -/
inductive SpanFault where
  | negative
  | reversed (stop start : Int)
  deriving DecidableEq, Repr

def SpanFault.message : SpanFault → String
  | .negative => "span offsets must be >= 0"
  | .reversed stop start =>
    "class_end_offset must be >= class_start_offset, got " ++ toString stop ++ " < " ++ toString start

namespace Span

/-- A span from offsets that may be anything. -/
def check (full classes : Text) (start classStart classStop : Int) (origin : Origin) : Except SpanFault Span :=
  if start < 0 ∨ classStart < 0 then .error .negative
  else if classStop < classStart then .error (.reversed classStop classStart)
  else .ok ⟨full, classes, start.toNat, classStart.toNat, classStop.toNat, origin⟩

/-- What two spans of the same class string share. -/
def key (s : Span) : Nat × Nat := (s.classStart, s.classes.length)

end Span

end ClassTidy
