/-
  ClassTidy.Pattern.Node — a pattern as it is matched.

  The parts of a pattern become a tree of nodes. Flags are gone from it: each test says
  itself what it looks at. A repeat of one character is a node of its own, because it
  counts how many characters pass before it asks what follows; if a plain character
  follows it, it asks only where that character stands.

  A search starts only where a match can start: not so close to the end that the least
  number of characters does not fit, and, if the pattern begins with a set, at a character
  of that set, which is then meant under the flags of the whole pattern.
-/
import ClassTidy.Pattern.CharTest
import ClassTidy.Pattern.Fault
import ClassTidy.Pattern.Part

namespace ClassTidy.Pattern

inductive Node where
  | empty
  /-- No way left. -/
  | never
  | one (test : CharTest)
  | seq (a b : Node)
  /-- One way, and the others if it fails. -/
  | choice (a others : Node)
  | group (number : Nat) (body : Node)
  | rep (mode : Mode) (least : Nat) (most : Option Nat) (body : Node)
  /-- A repeat of one character, and the plain character that follows, if one does. -/
  | run (mode : Mode) (least : Nat) (most : Option Nat) (test : CharTest) (follower : Option Nat)
  | ref (number : Nat) (casing : Casing)
  | place (p : Place)
  | ahead (positive : Bool) (body : Node)
  | behind (positive : Bool) (width : Nat) (body : Node)
  | atomic (body : Node)
  | either (number : Nat) (yes no : Node)
  deriving DecidableEq, Repr

/-- A node and what follows it. -/
def Node.andThen : Node → Node → Node
  | .empty, b => b
  | a, .empty => a
  | a, b => .seq a b

/-- The plain test that a node begins with. -/
def Node.plainStart? : Node → Option CharTest
  | .one test => if test.isPlain then some test else none
  | .seq a _ => a.plainStart?
  | _ => none

mutual

/-- A part that is one test of a character, in groups of their own flags or not. -/
def Part.isUnit : Part → Bool
  | .char _ _ => true
  | .any => true
  | .set _ _ => true
  | .group none _ _ body => isUnit body
  | _ => false

def isUnit : List Part → Bool
  | [p] => p.isUnit
  | _ => false

end

mutual

/-- The node of a part, and the plain character it begins with; `follower` is the one that follows. -/
def Node.ofPart (widths : Nat → Nat × Nat) (f : Flags) (follower : Option Nat) : Part → Node × Option Nat
  | .char n negated =>
    match f.charTest n negated with
    | .char m false => (.one (.char m false), some m)
    | test => (.one test, none)
  | .any => (.one (.any f.dotAll), none)
  | .set negated items => (.one (f.setTest negated items), none)
  | .place s => (.place (f.place s), none)
  | .ref number => (.ref number f.casing, none)
  | .rep mode least most body =>
    let node := (Node.ofParts widths f none body).1
    match node, isUnit body with
    | .one test, true => (.run mode least most test follower, none)
    | _, _ => (.rep mode least most node, none)
  | .group none on off body => Node.ofParts widths (f.change on off) follower body
  | .group (some number) on off body => (.group number (Node.ofParts widths (f.change on off) none body).1, none)
  | .atomic body => (.atomic (Node.ofParts widths f none body).1, none)
  | .look false positive body => (.ahead positive (Node.ofParts widths f none body).1, none)
  | .look true positive body =>
    (.behind positive (widthOf widths body).1 (Node.ofParts widths f none body).1, none)
  | .either number yes [] => (.either number (Node.ofParts widths f follower yes).1 .empty, none)
  | .either number yes (p :: no) =>
    (.either number (Node.ofParts widths f none yes).1 (Node.ofParts widths f follower (p :: no)).1, none)
  | .alt branches => (Node.ofBranches widths f branches, none)

/-- The node of parts, and the plain character it begins with. -/
def Node.ofParts (widths : Nat → Nat × Nat) (f : Flags) (follower : Option Nat) : List Part → Node × Option Nat
  | [] => (.empty, follower)
  | p :: ps =>
    let (rest, first) := Node.ofParts widths f follower ps
    let (node, first) := Node.ofPart widths f first p
    (node.andThen rest, first)

/-- The node of branches. -/
def Node.ofBranches (widths : Nat → Nat × Nat) (f : Flags) : List (List Part) → Node
  | [] => .never
  | b :: bs => .choice (Node.ofParts widths f none b).1 (Node.ofBranches widths f bs)

end

/-! ## Faults -/

/-- The farthest that a look-behind goes back. -/
def farthestBehind : Nat := 4294967295

mutual

/-- The first thing that keeps a part from becoming a node. -/
def Part.fault? (widths : Nat → Nat × Nat) (template : Bool) : Part → Option Cause
  | .rep mode _ _ body => if template then some (.repeatInTemplate mode) else partsFault? widths template body
  | .group _ _ _ body => partsFault? widths template body
  | .atomic body => partsFault? widths template body
  | .look behind _ body =>
    let w := widthOf widths body
    if behind && farthestBehind < w.1 then some .farBehind
    else if behind && w.1 != w.2 then some .variableBehind
    else partsFault? widths template body
  | .either _ yes no =>
    match partsFault? widths template yes with
    | some c => some c
    | none => partsFault? widths template no
  | .alt branches => branchesFault? widths template branches
  | .char _ _ => none
  | .any => none
  | .set _ _ => none
  | .place _ => none
  | .ref _ => none

def partsFault? (widths : Nat → Nat × Nat) (template : Bool) : List Part → Option Cause
  | [] => none
  | p :: ps =>
    match p.fault? widths template with
    | some c => some c
    | none => partsFault? widths template ps

def branchesFault? (widths : Nat → Nat × Nat) (template : Bool) : List (List Part) → Option Cause
  | [] => none
  | b :: bs =>
    match partsFault? widths template b with
    | some c => some c
    | none => branchesFault? widths template bs

end

/-! ## Where a search starts -/

/-- Where a search can start. -/
inductive Start where
  | anywhere
  /-- The pattern begins with plain characters, so it says itself where. -/
  | plain
  | among (test : CharTest)
  deriving DecidableEq, Repr

mutual

/-- Whether a part begins with plain characters, and whether it is nothing else. -/
def Part.plainOnly (f : Flags) : Part → Bool × Bool
  | .char n false => if f.casing.isCased n then (false, false) else (true, true)
  | .group _ on off body => plainOnly (f.change on off) body
  | _ => (false, false)

/-- Whether parts begin with plain characters, and whether they are nothing else. -/
def plainOnly (f : Flags) : List Part → Bool × Bool
  | [] => (false, true)
  | p :: ps =>
    match p.plainOnly f with
    | (true, _) => (true, false)
    | (false, true) => plainOnly f ps
    | (false, false) => (false, false)

end

/-- The code of a branch that begins with a plain character. -/
def plainCode? (f : Flags) : List Part → Option SetItem
  | .char n false :: _ => if f.casing.isCased n then none else some (.code n)
  | _ => none

/-- Whether a set with an item cannot tell where to start, because case does not count. -/
def SetItem.hidesStart (k : Casing) : SetItem → Bool
  | .code n => k.isCased n
  | .range low high => foldEnd ≤ high || k.anyCased low high
  | .category _ _ => false

mutual

/-- The set that a part begins with, if it is as good as any test for where to start. -/
def Part.firstSet? (f : Flags) : Part → Option (Bool × List SetItem)
  | .group _ on off body => firstSet? (f.change on off) body
  | .char n false => if f.casing.isCased n then none else some (false, [.code n])
  | .alt branches => (branches.mapM (plainCode? f)).map fun items => (false, items)
  | .set negated items => if f.ignoreCase && items.any (·.hidesStart f.casing) then none else some (negated, items)
  | _ => none

/-- The set that parts begin with. -/
def firstSet? (f : Flags) : List Part → Option (Bool × List SetItem)
  | [] => none
  | p :: _ => p.firstSet? f

end

def Start.ofParts (f : Flags) (least : Nat) (parts : List Part) : Start :=
  if least = 0 then .anywhere
  else if (plainOnly f parts).1 then .plain
  else match firstSet? f parts with
    | some (negated, items) => .among (.set .exact negated (items.map (·.member f.ascii)))
    | none => .anywhere

end ClassTidy.Pattern

namespace ClassTidy

/-- A pattern, how many groups it has, the whole match not counted, and what is known of its matches. -/
structure Pattern where
  root : Pattern.Node
  groups : Nat
  /-- The least number of characters in a match. -/
  least : Nat
  start : Pattern.Start
  deriving DecidableEq, Repr

/-- The pattern of parts, unless something in them keeps it from being one. -/
def Pattern.ofParts (widths : Nat → Nat × Nat) (f : Pattern.Flags) (template : Bool) (groups : Nat)
    (parts : List Pattern.Part) : Except Pattern.Cause Pattern :=
  match Pattern.partsFault? widths template parts with
  | some c => .error c
  | none =>
    let least := (Pattern.widthOf widths parts).1
    .ok ⟨(Pattern.Node.ofParts widths f none parts).1, groups, least, Pattern.Start.ofParts f least parts⟩

end ClassTidy
