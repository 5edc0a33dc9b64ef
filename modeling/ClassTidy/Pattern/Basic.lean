/-
  ClassTidy.Pattern.Basic — the words that patterns are made of.

  A pattern is written in tests of single characters, with groups, repeats in three modes,
  and conditions on positions. Flags say how its words are meant: whether case counts,
  whether the dot means a newline too, whether a line's ends count as the text's, and
  whether words, blanks and digits are looked for in ASCII alone. A group can change them.
-/
import ClassTidy.Text.Blank
import ClassTidy.Text.Letters
import ClassTidy.Text.Digits
import ClassTidy.Text.Casing

namespace ClassTidy.Pattern

/-- Named sets of characters. -/
inductive Category where
  | digit
  | blank
  | word
  deriving DecidableEq, Repr

def Category.has (ascii : Bool) (n : Nat) : Category → Bool
  | .digit => if ascii then 48 ≤ n && n ≤ 57 else Text.isDecimal n
  | .blank => if ascii then (9 ≤ n && n ≤ 13) || n == 32 else Text.isBlank (Char.ofNat n)
  | .word => if ascii then Text.isAsciiWord n else Text.isWord n

/-- One item of a set of characters. -/
inductive SetItem where
  | code (n : Nat)
  | range (low high : Nat)
  | category (k : Category) (negated : Bool)
  deriving DecidableEq, Repr

/-- How a repeat tries its counts: from the most down, from the least up, or the most alone. -/
inductive Mode where
  | greedy
  | lazy
  | possessive
  deriving DecidableEq, Repr

/-- A condition on a position, as it is written. -/
inductive Spot where
  | caret
  | dollar
  | textStart
  | textEnd
  | boundary
  | inside
  deriving DecidableEq, Repr

/-- A condition on a position, as it is meant. -/
inductive Place where
  | textStart
  | lineStart
  | textEnd
  /-- The end of the text, or before a newline that ends it. -/
  | lastEnd
  | lineEnd
  | boundary (ascii : Bool)
  | inside (ascii : Bool)
  deriving DecidableEq, Repr

/-! ## Flags -/

inductive Flag where
  | ignoreCase
  | multiLine
  | dotAll
  | verbose
  | ascii
  /-- Words, blanks and digits of all scripts. -/
  | all
  /-- For octets; no pattern has it. -/
  | bytes
  /-- For patterns without repeats. -/
  | template
  deriving DecidableEq, Repr

def Flag.ofChar? : Char → Option Flag
  | 'i' => some .ignoreCase
  | 'm' => some .multiLine
  | 's' => some .dotAll
  | 'x' => some .verbose
  | 'a' => some .ascii
  | 'u' => some .all
  | 'L' => some .bytes
  | 't' => some .template
  | _ => none

/-- Flags that say which characters a pattern is about. -/
def Flag.isKind : Flag → Bool
  | .ascii => true
  | .all => true
  | .bytes => true
  | _ => false

/-- The flags that words are meant under. -/
structure Flags where
  ignoreCase : Bool := false
  multiLine : Bool := false
  dotAll : Bool := false
  ascii : Bool := false
  deriving DecidableEq, Repr

/-- The flags inside a group that switches some on and some off. -/
def Flags.change (f : Flags) (on off : List Flag) : Flags where
  ignoreCase := (f.ignoreCase || on.contains .ignoreCase) && !off.contains .ignoreCase
  multiLine := (f.multiLine || on.contains .multiLine) && !off.contains .multiLine
  dotAll := (f.dotAll || on.contains .dotAll) && !off.contains .dotAll
  ascii := if on.contains .ascii then true else if on.contains .all then false else f.ascii

/-- What a condition on a position means under flags. -/
def Flags.place (f : Flags) : Spot → Place
  | .caret => if f.multiLine then .lineStart else .textStart
  | .dollar => if f.multiLine then .lineEnd else .lastEnd
  | .textStart => .textStart
  | .textEnd => .textEnd
  | .boundary => .boundary f.ascii
  | .inside => .inside f.ascii

/-! ## Case -/

/-- Which letters count as one. -/
inductive Casing where
  | exact
  | ascii
  | all
  deriving DecidableEq, Repr

def Flags.casing (f : Flags) : Casing :=
  if f.ignoreCase then (if f.ascii then .ascii else .all) else .exact

namespace Casing

/-- The form in which characters are compared. -/
def lower (n : Nat) : Casing → Nat
  | .exact => n
  | .ascii => Text.asciiLower n
  | .all => Text.lower n

/-- Other forms that count as the same as one. -/
def peers (l : Nat) : Casing → List Nat
  | .all => Text.peers l
  | _ => []

/-- Some code point from `a` to `b` has another form. -/
def anyCased (a b : Nat) : Casing → Bool
  | .exact => false
  | .ascii => Text.anyAsciiCased a b
  | .all => Text.anyCased a b

def isCased (k : Casing) (n : Nat) : Bool := k.anyCased n n

/-- The code points that come to a form in which they are compared, or to one that counts as the same. -/
def sources (n : Nat) : Casing → List Nat
  | .exact => [n]
  | .ascii => if 65 ≤ n ∧ n ≤ 90 then [] else if 97 ≤ n ∧ n ≤ 122 then [n, n - 32] else [n]
  | .all => (n :: Text.peers n).flatMap Text.withLower

/-- Whether two characters count as one. -/
def same (k : Casing) (a b : Char) : Bool := k.lower a.toNat == k.lower b.toNat

end Casing

end ClassTidy.Pattern
