/-
  ClassTidy.Rank.Basic — where a class belongs.

  A ranker is asked once for a list of classes and answers with raw values, one for each
  class if it is well behaved. An answer is an integer, or nothing for a class it does not
  know; any other value is a fault, and so is a wrong number of answers.
-/
import ClassTidy.Breakdown
import ClassTidy.Json.Basic
import ClassTidy.Number.Integer

namespace ClassTidy

inductive Rank where
  | known (n : Int)
  | unknown
  deriving DecidableEq, Repr

/-- Answers a list of classes with raw values. -/
abbrev Ranker := List Text → List Json

/-- What a ranker can get wrong. -/
inductive RankFault where
  | wrongKind (kind : String)
  | wrongCount (answers tokens : Nat)
  deriving DecidableEq, Repr

def RankFault.message : RankFault → String
  | .wrongKind k => "rank must be an int or None, got " ++ k
  | .wrongCount a t => "oracle returned " ++ toString a ++ " ranks for " ++ toString t ++ " tokens"

namespace Rank

/-- The rank that a raw value stands for. -/
def ofValue : Json → Except RankFault Rank
  | .null => .ok .unknown
  | .int n => .ok (.known n)
  | v => .error (.wrongKind v.kind)

/-- The raw value that stands for a rank. -/
def toValue : Rank → Json
  | .known n => .int n
  | .unknown => .null

/-- A rank has more digits than are written. -/
def isTooWide : Rank → Bool
  | .known n => Number.mostDigits < (Text.ofNat n.natAbs).length
  | .unknown => false

/-- A rank as a message shows it. -/
def shown : Rank → String
  | .known n => "KnownRank(value=" ++ toString n ++ ")"
  | .unknown => "UNKNOWN"

end Rank

/-- A class, its place in the list that was asked for, and its rank. -/
structure Ranked where
  name : Text
  index : Nat
  rank : Rank
  deriving DecidableEq, Repr

namespace Ranked

def isKnown (r : Ranked) : Bool :=
  match r.rank with
  | .known _ => true
  | .unknown => false

/-- Pairs classes with answers, counting from `i`. -/
def pair (i : Nat) : List Text → List Json → Except RankFault (List Ranked)
  | n :: ns, v :: vs => do
    let rank ← Rank.ofValue v
    let rest ← pair (i + 1) ns vs
    return ⟨n, i, rank⟩ :: rest
  | _, _ => .ok []

/-- Asks a ranker for every class of a list. -/
def ask (ranker : Ranker) (names : List Text) : Except RankFault (List Ranked) :=
  let answers := ranker names
  if answers.length = names.length then pair 0 names answers
  else .error (.wrongCount answers.length names.length)

/-- Gives every class of a list its rank, counting from `i`. -/
def markFrom (rank : Text → Rank) (i : Nat) : List Text → List Ranked
  | [] => []
  | n :: ns => ⟨n, i, rank n⟩ :: markFrom rank (i + 1) ns

/-- Gives every class of a list its rank. -/
def mark (rank : Text → Rank) (names : List Text) : List Ranked := markFrom rank 0 names

/-- The classes with their ranks, as the log shows them, unless a rank is too wide. -/
def trace (tokens : List Ranked) : Except Breakdown Text :=
  if tokens.any (·.rank.isTooWide) then .error .tooWide
  else .ok (Text.join [' '] (tokens.map fun t =>
    t.name ++ ':' :: (match t.rank with
      | .known n => Text.ofInt n
      | .unknown => "unknown".toList)))

end Ranked

end ClassTidy
