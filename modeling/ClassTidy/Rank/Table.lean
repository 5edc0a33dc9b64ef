/-
  ClassTidy.Rank.Table — ranks of classes and offsets of variants.

  A class found as it stands has its rank. Otherwise variants are peeled off its front,
  `sm:hover:flex` first to `hover:flex` and then to `flex`, as long as each is known;
  the first remainder that is a class gives its rank, and the offsets peeled off are added.
-/
import ClassTidy.Rank.Basic

namespace ClassTidy

structure RankTable where
  classes : List (Text × Int)
  variants : List (Text × Int)
  deriving DecidableEq, Repr

namespace RankTable

def classRank? (t : RankTable) (name : Text) : Option Int := t.classes.lookup name

def variantOffset? (t : RankTable) (name : Text) : Option Int := t.variants.lookup name

/-- Peels one variant after the other off the pieces of a class; `offset` is what is peeled off so far. -/
def peel (t : RankTable) (offset : Int) : List Text → Rank
  | [] => .unknown
  | [_] => .unknown
  | variant :: piece :: pieces =>
    match t.variantOffset? variant with
    | none => .unknown
    | some o =>
      match t.classRank? (Text.join [':'] (piece :: pieces)) with
      | some base => .known (base + (offset + o))
      | none => peel t (offset + o) (piece :: pieces)

/-- The rank of one class; the empty class has none. -/
def rank (t : RankTable) (name : Text) : Rank :=
  if name.isEmpty then .unknown
  else match t.classRank? name with
    | some n => .known n
    | none => peel t 0 (Text.pieces ':' name)

/-- A table as a ranker. -/
def ranker (t : RankTable) : Ranker := fun names => names.map fun n => (t.rank n).toValue

end RankTable

end ClassTidy
