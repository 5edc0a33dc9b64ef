/-
  ClassTidy.Pattern.Matcher — where a pattern matches.

  Matching walks the tree with a continuation: a node tries its ways in order and hands
  each position it can end at to what follows, until something accepts. What a walk has
  noted is carried along as a trail: where groups began and ended, and the last position
  that a node set out from.

  A way that fails does not take everything back. Inside a repeat the notes are put back
  as they were. Outside of all repeats only the groups noted for the first time are
  forgotten, and a group that was noted anew keeps its new note. The position is left
  where it was; the next try at a possessive repeat that fails still moves the repeat's
  end there, and this is the one place where it counts.

  A repeat goes on as long as it may. An iteration that takes no character is made once
  and not followed by another, which bounds the number of iterations by the least count
  and the characters left; `fuel` is that bound.

  A search tries the positions from the left at which a match can start. The next search
  starts where a match ended; after an empty match, a match at that same position has to
  take a character.
-/
import ClassTidy.Pattern.Node

namespace ClassTidy.Pattern

/-! ## Trails -/

/-- Where groups began and ended: two places for each group, in order. A place that was
passed over is empty, and there are no more places than were needed so far. -/
abbrev Notes := List (Option Nat)

/-- The notes with a position at a place. -/
def Notes.put : Notes → Nat → Nat → Notes
  | [], 0, i => [some i]
  | [], k + 1, i => none :: Notes.put [] k i
  | _ :: ns, 0, i => some i :: ns
  | n :: ns, k + 1, i => n :: Notes.put ns k i

/-- Where a group began and where it ended, if it was noted. -/
def Notes.ends? (notes : Notes) (number : Nat) : Option (Nat × Nat) :=
  match notes[2 * (number - 1)]?, notes[2 * (number - 1) + 1]? with
  | some (some a), some (some b) => some (a, b)
  | _, _ => none

/-- The range of a group, if it was noted and does not end before it began. -/
def Notes.range? (notes : Notes) (number : Nat) : Option (Nat × Nat) :=
  match notes.ends? number with
  | some (a, b) => if a ≤ b then some (a, b) else none
  | none => none

/-- What a walk has noted. -/
structure Trail where
  notes : Notes
  /-- The last position that a node set out from, or the end if the walk is over. -/
  reach : Nat
  deriving DecidableEq, Repr

namespace Trail

/-- The trail with the position set. -/
def goTo (s : Trail) (i : Nat) : Trail := { s with reach := i }

/-- The trail with a note made. -/
def note (s : Trail) (place i : Nat) : Trail := { s with notes := s.notes.put place i }

/-- What is left of a trail when a way fails that began with `before`. -/
def back (s : Trail) (looping : Bool) (before : Trail) : Trail :=
  { s with notes := if looping then before.notes else s.notes.take before.notes.length }

end Trail

/-- How a walk ended, and its trail. -/
inductive Outcome where
  | found (s : Trail)
  | lost (s : Trail)
  deriving DecidableEq, Repr

/-- A walk that failed leaves another trail. -/
def Outcome.orElse (o : Outcome) (f : Trail → Outcome) : Outcome :=
  match o with
  | .found s => .found s
  | .lost s => f s

/-- What follows a node: it gets the position and the trail. -/
abbrev Next := Nat → Trail → Outcome

/-- Accepts every end. -/
def accept : Next := fun i s => .found (s.goTo i)

/-! ## Single steps -/

/-- Whether the character at a position belongs to a word. -/
def wordAt (t : Array Char) (ascii : Bool) (i : Nat) : Bool :=
  match t[i]? with
  | some c => Category.word.has ascii c.toNat
  | none => false

/-- A word starts or ends at `i`. -/
def edgeAt (t : Array Char) (ascii : Bool) (i : Nat) : Bool :=
  let left := match i with
    | 0 => false
    | j + 1 => wordAt t ascii j
  left != wordAt t ascii i

def Place.holds (t : Array Char) (i : Nat) : Place → Bool
  | .textStart => i == 0
  | .lineStart => match i with
    | 0 => true
    | j + 1 => t[j]? == some '\n'
  | .textEnd => i == t.size
  | .lastEnd => i == t.size || (i + 1 == t.size && t[i]? == some '\n')
  | .lineEnd => i == t.size || t[i]? == some '\n'
  | .boundary ascii => t.size != 0 && edgeAt t ascii i
  | .inside ascii => t.size != 0 && !edgeAt t ascii i

/-- The character at a position passes a test. -/
def CharTest.passes (test : CharTest) (t : Array Char) (i : Nat) : Bool :=
  match t[i]? with
  | some c => test.accepts c
  | none => false

/-- The text from `i` on repeats the `n` characters from `a` on. -/
def repeats (t : Array Char) (k : Casing) (a i : Nat) : Nat → Bool
  | 0 => true
  | n + 1 =>
    match t[a]?, t[i]? with
    | some c, some d => k.same c d && repeats t k (a + 1) (i + 1) n
    | _, _ => false

/-- How many characters from `i` on pass a test, at most `n`. -/
def countPassing (t : Array Char) (test : CharTest) (i : Nat) : Nat → Nat
  | 0 => 0
  | n + 1 => if test.passes t i then countPassing t test (i + 1) n + 1 else 0

/-! ## Repeats of one character -/

/-- Whether what follows at `i` can be ruled out by the plain character it begins with. -/
def ruledOut (t : Array Char) (follower : Option Nat) (i : Nat) : Bool :=
  match follower with
  | some n => !(CharTest.char n false).passes t i
  | none => false

/-- Tries what follows from `n` characters behind `i` down to `least`. -/
def tryDown (t : Array Char) (looping : Bool) (follower : Option Nat) (next : Next) (i least : Nat) :
    Nat → Trail → Outcome
  | n, s =>
    if n < least then .lost s
    else
      let o := if ruledOut t follower (i + n) then Outcome.lost s
        else (next (i + n) (s.goTo (i + n))).orElse fun s' => .lost (s'.back looping s)
      match n with
      | 0 => o
      | m + 1 => o.orElse (tryDown t looping follower next i least m)

/-- Tries what follows at `i` and then, a character at a time, up to `more` characters on. -/
def tryUp (t : Array Char) (looping : Bool) (test : CharTest) (next : Next) : Nat → Nat → Trail → Outcome
  | more, i, s =>
    (next i (s.goTo i)).orElse fun s' =>
      let s := (s'.back looping s).goTo i
      match more with
      | 0 => .lost (if test.passes t i && test.isSlow then s.goTo (i + 1) else s)
      | m + 1 =>
        if test.passes t i then tryUp t looping test next m (i + 1) (if test.isSlow then s.goTo (i + 1) else s)
        else .lost s

/-- A repeat of one character from `i` on. -/
def runFrom (t : Array Char) (looping : Bool) (mode : Mode) (least : Nat) (most : Option Nat) (test : CharTest)
    (follower : Option Nat) (next : Next) (i : Nat) (s : Trail) : Outcome :=
  let left := t.size - i
  if left < least then .lost s
  else
    let s := s.goTo i
    let limit := match mode with
      | .lazy => least
      | _ => (match most with
        | some m => min m left
        | none => left)
    let n := countPassing t test i limit
    let s := if test.isSlow then s.goTo (i + n) else s
    if n < least then .lost s
    else match mode with
      | .greedy => tryDown t looping follower next i least n s
      | .lazy => tryUp t looping test next (match most with
        | some m => min (m - least) left
        | none => left) (i + n) s
      | .possessive => next (i + n) s

/-! ## Repeats -/

/-- A repeat of `body` from the iteration `count` on; `last` is where the last iteration beyond the least began. -/
def iterate (body : Nat → Trail → Next → Outcome) (looping lazily : Bool) (least : Nat) (most : Option Nat)
    (next : Next) : Nat → Nat → Option Nat → Nat → Trail → Outcome
  | 0, _, _, i, s => next i s
  | fuel + 1, count, last, i, s =>
    let s := s.goTo i
    if count < least then
      (body i s fun j s => iterate body looping lazily least most next fuel (count + 1) last j s).orElse
        fun s => .lost (s.goTo i)
    else
      let more := (match most with
        | some m => decide (count < m)
        | none => true) && last != some i
      if lazily then
        (next i s).orElse fun s' =>
          let s := (s'.back looping s).goTo i
          if more then
            (body i s fun j s => iterate body looping lazily least most next fuel (count + 1) (some i) j s).orElse
              fun s => .lost (s.goTo i)
          else .lost s
      else
        let tail := fun s => (next i s).orElse fun s => .lost (s.goTo i)
        if more then
          (body i s fun j s => iterate body looping lazily least most next fuel (count + 1) (some i) j s).orElse
            fun s' => tail ((s'.back true s).goTo i)
        else tail s

/-- The least iterations of a possessive repeat, each for itself. -/
def possessLeast (body : Nat → Trail → Next → Outcome) : Nat → Trail → Outcome
  | 0, s => .found s
  | n + 1, s =>
    match body s.reach s accept with
    | .found s => possessLeast body n s
    | .lost s => .lost s

/-- The iterations of a possessive repeat beyond the least, at most `n`; `last` is where the last one began. -/
def possessMore (body : Nat → Trail → Next → Outcome) : Nat → Option Nat → Trail → Trail
  | 0, _, s => s
  | n + 1, last, s =>
    if last = some s.reach then s
    else match body s.reach s accept with
      | .found s' => possessMore body n (some s.reach) s'
      | .lost s' => s'.back true s

/-- A possessive repeat from `i` on. -/
def possess (body : Nat → Trail → Next → Outcome) (least more : Nat) (next : Next) (i : Nat) (s : Trail) :
    Outcome :=
  match possessLeast body least (s.goTo i) with
  | .lost s => .lost (s.goTo i)
  | .found s =>
    let s := possessMore body more none s
    next s.reach s

/-! ## Nodes -/

/-- A way that cannot be taken at `i`, by the plain test it begins with. -/
def Node.blocked (t : Array Char) (i : Nat) (n : Node) : Bool :=
  match n.plainStart? with
  | some test => !test.passes t i
  | none => false

/-- Walks a node from position `i` on and hands every end to `next`, until it accepts; `looping` says that it is
inside a repeat. -/
def Node.walk (t : Array Char) : Node → Bool → Nat → Trail → Next → Outcome
  | .empty, _, i, s, next => next i s
  | .never, _, _, s, _ => .lost s
  | .one test, _, i, s, next => if test.passes t i then next (i + 1) s else .lost s
  | .seq a b, looping, i, s, next => a.walk t looping i s fun j s => b.walk t looping j s next
  | .choice a others, looping, i, s, next =>
    if a.blocked t i then others.walk t looping i s next
    else (a.walk t looping i (s.goTo i) next).orElse fun s' => others.walk t looping i (s'.back looping s) next
  | .group number a, looping, i, s, next =>
    a.walk t looping i (s.note (2 * (number - 1)) i) fun j s => next j (s.note (2 * (number - 1) + 1) j)
  | .rep mode least most a, looping, i, s, next =>
    let fuel := least + (t.size - i) + 2
    match mode with
    | .greedy => iterate (a.walk t true) looping false least most next fuel 0 none i s
    | .lazy => iterate (a.walk t true) looping true least most next fuel 0 none i s
    | .possessive =>
      possess (a.walk t looping) least (match most with
        | some m => min (m - least) (t.size + 2)
        | none => t.size + 2) next i s
  | .run mode least most test follower, looping, i, s, next => runFrom t looping mode least most test follower next i s
  | .ref number casing, _, i, s, next =>
    match s.notes.range? number with
    | some (a, b) => if repeats t casing a i (b - a) then next (i + (b - a)) s else .lost s
    | none => .lost s
  | .place p, _, i, s, next => if p.holds t i then next i s else .lost s
  | .ahead true a, looping, i, s, next =>
    match a.walk t looping i (s.goTo i) accept with
    | .found s => next i s
    | .lost s => .lost s
  | .ahead false a, looping, i, s, next =>
    match a.walk t looping i (s.goTo i) accept with
    | .found s => .lost s
    | .lost s' => next i (s'.back looping s)
  | .behind true width a, looping, i, s, next =>
    if width ≤ i then
      match a.walk t looping (i - width) (s.goTo (i - width)) accept with
      | .found s => next i s
      | .lost s => .lost s
    else .lost s
  | .behind false width a, looping, i, s, next =>
    if width ≤ i then
      match a.walk t looping (i - width) (s.goTo (i - width)) accept with
      | .found s => .lost s
      | .lost s' => next i (s'.back looping s)
    else next i s
  | .atomic a, looping, i, s, next =>
    match a.walk t looping i (s.goTo i) accept with
    | .found s => next s.reach s
    | .lost s => .lost (s.goTo i)
  | .either number yes no, looping, i, s, next =>
    match s.notes.range? number with
    | some _ => yes.walk t looping i s next
    | none => no.walk t looping i s next

end ClassTidy.Pattern

namespace ClassTidy

/-- A match: its range, and what its groups matched. -/
structure Match where
  start : Nat
  stop : Nat
  notes : Pattern.Notes
  deriving DecidableEq, Repr

namespace Match

/-- The range of a group; group 0 is the whole match. -/
def group? (m : Match) (number : Nat) : Option (Nat × Nat) :=
  if number = 0 then some (m.start, m.stop) else m.notes.range? number

/-- A group, of so many, was noted to end before it began. -/
def isTorn (m : Match) (groups : Nat) : Bool :=
  (List.range groups).any fun k =>
    match m.notes.ends? (k + 1) with
    | some (a, b) => b < a
    | none => false

end Match

namespace Pattern

/-- The match at position `i`; with `filled`, one that takes a character. -/
def matchAt? (p : Pattern) (t : Array Char) (i : Nat) (filled : Bool) : Option Match :=
  match p.root.walk t false i ⟨[], i⟩ (fun j s => if filled && j == i then .lost s else .found (s.goTo j)) with
  | .found s => some ⟨i, s.reach, s.notes⟩
  | .lost _ => none

/-- Whether a match can start at a position. -/
def Start.allows (t : Array Char) (i : Nat) : Start → Bool
  | .anywhere => true
  | .plain => true
  | .among test => test.passes t i

/-- The last position at which a search from `i` tries. -/
def lastStart (p : Pattern) (t : Array Char) (i : Nat) : Nat :=
  match p.start with
  | .anywhere => if 1 < p.least then max i (t.size + 1 - p.least) else t.size
  | _ => t.size

/-- The first match from `i` on, among `fuel` positions. -/
def scan? (p : Pattern) (t : Array Char) : Nat → Nat → Bool → Option Match
  | 0, _, _ => none
  | fuel + 1, i, filled =>
    match (if p.start.allows t i then p.matchAt? t i filled else none) with
    | some m => some m
    | none => scan? p t fuel (i + 1) false

/-- The first match from `i` on. -/
def search? (p : Pattern) (t : Array Char) (i : Nat) (filled : Bool) : Option Match :=
  if t.size - i < p.least then none
  else p.scan? t (p.lastStart t i + 1 - i) i (filled && p.start == .anywhere)

/-- The matches from `i` on, at most `fuel` of them. -/
def matchesFrom (p : Pattern) (t : Array Char) : Nat → Nat → Bool → List Match
  | 0, _, _ => []
  | fuel + 1, i, filled =>
    match p.search? t i filled with
    | some m => m :: matchesFrom p t fuel m.stop (m.stop == m.start)
    | none => []

/-- All matches in a text, from left to right. -/
def allMatches (p : Pattern) (t : Text) : List Match :=
  p.matchesFrom t.toArray (2 * t.length + 2) 0 false

end Pattern

end ClassTidy
