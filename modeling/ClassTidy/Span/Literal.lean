/-
  ClassTidy.Span.Literal — string literals in a piece of code.

  A literal is a quote, characters other than the quote and the backslash or pairs of a
  backslash and any character but a newline, and the same quote again. Literals are taken
  from the left; a quote that starts none is passed over.
-/
import ClassTidy.Text.Basic

namespace ClassTidy

/-- A literal: its value as written, the offset behind its quote, and all of it. -/
structure Literal where
  value : Text
  start : Nat
  full : Text
  deriving DecidableEq, Repr

namespace Literal

def isQuote (c : Char) : Bool := c == '"' || c == '\''

/-- The value up to the closing quote `q`; none if the literal does not end. -/
def body? (q : Char) : Text → Option Text
  | [] => none
  | [c] => if c = q then some [] else none
  | c :: d :: t =>
    if c = q then some []
    else if c = '\\' then
      if d = '\n' then none else (body? q t).map fun v => c :: d :: v
    else (body? q (d :: t)).map (c :: ·)

/-- The literals of a text that starts at offset `i`, after `skip` more characters. -/
def scan (skip i : Nat) : Text → List Literal
  | [] => []
  | c :: t =>
    match skip with
    | n + 1 => scan n (i + 1) t
    | 0 =>
      if isQuote c then
        match body? c t with
        | some v => ⟨v, i + 1, c :: v ++ [c]⟩ :: scan (v.length + 1) (i + 1) t
        | none => scan 0 (i + 1) t
      else scan 0 (i + 1) t

/-- The literals of a text. -/
def all (t : Text) : List Literal := scan 0 0 t

end Literal

end ClassTidy
