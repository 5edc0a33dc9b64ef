/-
  ClassTidy.Span.Call — class strings in the arguments of calls.

  A call is a configured name, blanks, and a parenthesis; its arguments go to the
  parenthesis that closes it. On the way a backslash hides the character behind it, and
  between quotes parentheses do not count. Every literal among the arguments that is not
  blank is a span. A call inside a call is a call of its own.
-/
import ClassTidy.Text.Blank
import ClassTidy.Span.Basic
import ClassTidy.Span.Literal

namespace ClassTidy.Span

/-- What lies between a parenthesis and the one that closes it, and where that one is. -/
structure Enclosed where
  content : Text
  stop : Nat
  deriving DecidableEq, Repr

/-- How many characters stand before the closing parenthesis, `depth` inner ones being open. -/
def closing? (depth : Nat) (quote : Option Char) (escaped : Bool) : Text → Option Nat
  | [] => none
  | c :: t =>
    if escaped then (closing? depth quote false t).map (· + 1)
    else if c = '\\' then (closing? depth quote true t).map (· + 1)
    else match quote with
      | some q => (closing? depth (if c = q then none else some q) false t).map (· + 1)
      | none =>
        if Literal.isQuote c then (closing? depth (some c) false t).map (· + 1)
        else if c = '(' then (closing? (depth + 1) none false t).map (· + 1)
        else if c = ')' then
          match depth with
          | 0 => some 0
          | d + 1 => (closing? d none false t).map (· + 1)
        else (closing? depth none false t).map (· + 1)

/-- What the parenthesis at an offset encloses. -/
def enclosedAt? (t : Text) (i : Nat) : Option Enclosed :=
  match t.drop i with
  | '(' :: rest =>
    match closing? 0 none false rest with
    | some n => some ⟨rest.take n, i + 1 + n⟩
    | none => none
  | _ => none

/-- The same for an offset that may be anything. -/
def enclosed? (t : Text) (i : Int) : Option Enclosed :=
  if i < 0 then none else enclosedAt? t i.toNat

/-- The length of `name`, blanks and a parenthesis in front of a text. -/
def opens? (name t : Text) : Option Nat :=
  if name.isPrefixOf t then
    let rest := t.drop name.length
    let blanks := rest.takeWhile Text.isBlank
    match rest.drop blanks.length with
    | '(' :: _ => some (name.length + blanks.length + 1)
    | _ => none
  else none

/-- The first name that opens a call in front of a text, by the length up to its parenthesis. -/
def firstOpening? (names : List Text) (t : Text) : Option Nat := names.findSome? fun n => opens? n t

/-- The offsets of the parentheses of calls, in a text that starts at offset `i`, after `skip` more characters. -/
def callsFrom (names : List Text) (skip i : Nat) : Text → List Nat
  | [] => []
  | c :: t =>
    match skip with
    | n + 1 => callsFrom names n (i + 1) t
    | 0 =>
      match firstOpening? names (c :: t) with
      | some n => (i + n - 1) :: callsFrom names (n - 1) (i + 1) t
      | none => callsFrom names 0 (i + 1) t

/-- The spans among the arguments that start behind the parenthesis at `i`. -/
def argumentsAt (t : Text) (i : Nat) : List Span :=
  match enclosedAt? t i with
  | none => []
  | some e =>
    ((Literal.all e.content).filter fun l => !Text.isBlankOnly l.value).map fun l =>
      let start := i + 1 + l.start
      ⟨l.full, l.value, start - 1, start, start + l.value.length, .call⟩

/-- The spans among the arguments of calls to given names. -/
def ofCalls (t : Text) (names : List Text) : List Span := (callsFrom names 0 0 t).flatMap (argumentsAt t)

end ClassTidy.Span
