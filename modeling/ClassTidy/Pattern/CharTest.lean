/-
  ClassTidy.Pattern.CharTest — tests of one character.

  Where case does not count, a character is brought to lower case and then compared with
  what the test holds in lower case. What a set holds in lower case is worked out below
  U+10000 only: a single character beyond it stays as it is written, so it is not found if
  it is a capital, and a range that goes beyond it is tried with the lower case and with
  the upper case of the character.
-/
import ClassTidy.Pattern.Basic

namespace ClassTidy.Pattern

/-- What a set can hold. -/
inductive Member where
  | code (n : Nat)
  | range (low high : Nat)
  | category (k : Category) (negated ascii : Bool)
  /-- The lower case of a range, as far as it lies below U+10000. -/
  | folded (k : Casing) (low high : Nat)
  /-- A range, for a character in lower case or in upper case. -/
  | eitherCase (low high : Nat)
  deriving DecidableEq, Repr

/-- Where lower case is no longer worked out for sets. -/
def foldEnd : Nat := 0x10000

def Member.has (n : Nat) : Member → Bool
  | .code m => n == m
  | .range low high => low ≤ n && n ≤ high
  | .category k negated ascii => negated != k.has ascii n
  | .folded k low high => n < foldEnd && (k.sources n).any fun m => low ≤ m && m ≤ high
  | .eitherCase low high => (low ≤ n && n ≤ high) || (low ≤ Text.upper n && Text.upper n ≤ high)

inductive CharTest where
  /-- Any character, or any but a newline. -/
  | any (newline : Bool)
  | char (n : Nat) (negated : Bool)
  /-- A letter in lower case, for a character in lower case. -/
  | letter (k : Casing) (n : Nat) (negated : Bool)
  | set (k : Casing) (negated : Bool) (members : List Member)
  deriving DecidableEq, Repr

def CharTest.accepts (c : Char) : CharTest → Bool
  | .any newline => newline || c != '\n'
  | .char n negated => negated != (c.toNat == n)
  | .letter k n negated => negated != (k.lower c.toNat == n)
  | .set k negated members =>
    let n := k.lower c.toNat
    negated != members.any (·.has n)

/-- Whether the test is one look at the character as it stands. -/
def CharTest.isPlain : CharTest → Bool
  | .char _ negated => !negated
  | .set .exact _ _ => true
  | _ => false

/-- Whether a run of characters is tested one at a time. -/
def CharTest.isSlow : CharTest → Bool
  | .set .exact _ _ => false
  | .set _ _ _ => true
  | _ => false

/-! ## Under flags -/

/-- An item as it stands. -/
def SetItem.member (ascii : Bool) : SetItem → Member
  | .code n => .code n
  | .range low high => .range low high
  | .category k negated => .category k negated ascii

/-- An item in lower case. -/
def SetItem.folded (k : Casing) (ascii : Bool) : SetItem → List Member
  | .code n =>
    let l := k.lower n
    if l < foldEnd then (l :: k.peers l).map .code else [.code n]
  | .range low high =>
    if high < foldEnd then [.folded k low high]
    else if low < foldEnd then [.folded k low (foldEnd - 1), .eitherCase low high]
    else [.eitherCase low high]
  | .category c negated => [.category c negated ascii]

/-- Whether an item makes a set look at characters in lower case. -/
def SetItem.isCased (k : Casing) : SetItem → Bool
  | .code n => foldEnd ≤ k.lower n || k.isCased n
  | .range low high => foldEnd ≤ high || k.anyCased low high
  | .category _ _ => false

/-- The test for a single character, or for any other. -/
def Flags.charTest (f : Flags) (n : Nat) (negated : Bool) : CharTest :=
  let k := f.casing
  if k.isCased n then
    let l := k.lower n
    match k.peers l with
    | [] => .letter k l negated
    | peers => .set k negated ((l :: peers).map .code)
  else .char n negated

/-- The test for a set. -/
def Flags.setTest (f : Flags) (negated : Bool) (items : List SetItem) : CharTest :=
  match f.casing with
  | .exact => .set .exact negated (items.map (·.member f.ascii))
  | k => .set (if items.any (·.isCased k) then k else .exact) negated (items.flatMap (·.folded k f.ascii))

end ClassTidy.Pattern
