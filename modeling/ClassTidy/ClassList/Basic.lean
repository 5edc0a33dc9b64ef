/-
  ClassTidy.ClassList.Basic — a class string as tokens and the gaps between them.

  Five characters separate classes: tab, return, form feed, newline and space. Splitting
  gives the tokens and the runs of separators that follow them: gap `i` stands behind
  token `i`. A text that starts with a gap has an empty first token; the empty token
  behind a last gap is dropped, so there are as many gaps as tokens or one less.
-/
import ClassTidy.Text.Basic

namespace ClassTidy

/-- Tokens and the gaps behind them. -/
structure ClassList where
  tokens : List Text
  gaps : List Text
  deriving DecidableEq, Repr

namespace ClassList

/-- The characters that separate classes. -/
def isSeparator (c : Char) : Bool :=
  c == '\t' || c == '\r' || c == '\x0c' || c == '\n' || c == ' '

/-- Separators and nothing else, at least one of them. -/
def isGap (t : Text) : Bool := !t.isEmpty && t.all isSeparator

/-- A first token, then every gap with the token behind it. -/
structure Parts where
  head : Text
  tail : List (Text × Text)
  deriving DecidableEq, Repr

/-- One more character in front. -/
def Parts.cons (c : Char) (p : Parts) : Parts :=
  if isSeparator c then
    match p.head, p.tail with
    | [], (gap, token) :: rest => ⟨[], (c :: gap, token) :: rest⟩
    | token, rest => ⟨[], ([c], token) :: rest⟩
  else ⟨c :: p.head, p.tail⟩

/-- Cuts a text at every run of separators. -/
def parts : Text → Parts
  | [] => ⟨[], []⟩
  | c :: t => (parts t).cons c

/-- A list without its last item if that is empty. -/
def dropEmptyLast (tokens : List Text) : List Text :=
  if tokens.getLast? = some [] then tokens.dropLast else tokens

/-- Tokens and gaps of a text. -/
def split (t : Text) : ClassList :=
  let p := parts t
  ⟨dropEmptyLast (p.head :: p.tail.map (·.2)), p.tail.map (·.1)⟩

/-- Every token with the gap of the same index behind it; gaps without a token are dropped. -/
def joinParts : List Text → List Text → Text
  | [], _ => []
  | t :: ts, [] => t ++ joinParts ts []
  | t :: ts, g :: gs => t ++ g ++ joinParts ts gs

/-- The text of tokens and gaps. -/
def join (l : ClassList) : Text := joinParts l.tokens l.gaps

/-- Every gap as one space. -/
def collapse (l : ClassList) : ClassList := { l with gaps := l.gaps.map fun _ => [' '] }

end ClassList

end ClassTidy
