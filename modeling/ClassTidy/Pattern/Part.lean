/-
  ClassTidy.Pattern.Part — a pattern as it is written.

  A pattern is a list of parts, and so is what stands in a group, under a repeat or between
  two bars. Some ways of writing are brought to one form while parts are put together:
  a group that only holds things together is replaced by what it holds; what all
  alternatives start with is put in front of them; and alternatives of single characters
  are one set.
-/
import ClassTidy.Pattern.Basic

namespace ClassTidy.Pattern

inductive Part where
  | char (n : Nat) (negated : Bool)
  | any
  | set (negated : Bool) (items : List SetItem)
  | place (s : Spot)
  | ref (number : Nat)
  | rep (mode : Mode) (least : Nat) (most : Option Nat) (body : List Part)
  /-- A group, with a number if it is remembered, and the flags that it switches on and off. -/
  | group (number : Option Nat) (on off : List Flag) (body : List Part)
  | atomic (body : List Part)
  | look (behind positive : Bool) (body : List Part)
  | either (number : Nat) (yes no : List Part)
  | alt (branches : List (List Part))

/-- Two simple parts are written alike; of parts with others inside, no two are. -/
def Part.same : Part → Part → Bool
  | .char m a, .char n b => m == n && a == b
  | .any, .any => true
  | .set a xs, .set b ys => a == b && xs == ys
  | .place s, .place t => s == t
  | .ref m, .ref n => m == n
  | _, _ => false

/-- What a group that only holds things together holds. -/
def Part.unwrap : Part → List Part
  | .group none [] [] body => body
  | p => [p]

/-- The part for a set. -/
def Part.ofSet (negated : Bool) (items : List SetItem) : Part :=
  match items.eraseDups with
  | [.code n] => .char n negated
  | items => .set negated items

/-! ## Alternatives -/

/-- A branch starts with a part. -/
def startsWith (p : Part) : List Part → Bool
  | q :: _ => p.same q
  | [] => false

/-- What all branches start with, and what is left of them. -/
def commonStart : List Part → List (List Part) → List Part × List (List Part)
  | [], others => ([], [] :: others)
  | p :: first, others =>
    if others.all (startsWith p) then
      let (start, rest) := commonStart first (others.map (·.drop 1))
      (p :: start, rest)
    else ([], (p :: first) :: others)

/-- The items of a branch of a single character. -/
def singleItems? : List Part → Option (List SetItem)
  | [.char n false] => some [.code n]
  | [.set false items] => some items
  | _ => none

/-- The parts for branches with bars between them. -/
def ofBranches : List (List Part) → List Part
  | [] => []
  | [b] => b
  | first :: others =>
    let (start, rest) := commonStart first others
    start ++ match rest.mapM singleItems? with
      | some items => [.set false items.flatten.eraseDups]
      | none => [.alt rest]

/-! ## Widths -/

/-- No width goes beyond this. -/
def widest : Nat := 18446744073709551616

/-- The least and the greatest number of characters, no more than the widest. -/
def clampWidth (w : Nat × Nat) : Nat × Nat := (min w.1 widest, min w.2 widest)

mutual

/-- The width of what was before, with a part added; `widths` is that of groups. -/
def Part.addWidth (widths : Nat → Nat × Nat) (before : Nat × Nat) : Part → Nat × Nat
  | .char _ _ => (before.1 + 1, before.2 + 1)
  | .any => (before.1 + 1, before.2 + 1)
  | .set _ _ => (before.1 + 1, before.2 + 1)
  | .place _ => before
  | .ref number => (before.1 + (widths number).1, before.2 + (widths number).2)
  | .rep _ least most body =>
    let w := clampWidth (addWidths widths (0, 0) body)
    (before.1 + w.1 * least, match most with
      | some m => before.2 + w.2 * m
      | none => if w.2 = 0 then before.2 else widest)
  | .group _ _ _ body =>
    let w := clampWidth (addWidths widths (0, 0) body)
    (before.1 + w.1, before.2 + w.2)
  | .atomic body =>
    let w := clampWidth (addWidths widths (0, 0) body)
    (before.1 + w.1, before.2 + w.2)
  | .look _ _ _ => before
  | .either _ yes no =>
    let v := clampWidth (addWidths widths (0, 0) yes)
    let w := clampWidth (addWidths widths (0, 0) no)
    (before.1 + min v.1 w.1, before.2 + max v.2 w.2)
  | .alt branches =>
    let w := branchWidths widths branches
    (before.1 + w.1, before.2 + w.2)

/-- The width of what was before, with parts added. -/
def addWidths (widths : Nat → Nat × Nat) (before : Nat × Nat) : List Part → Nat × Nat
  | [] => before
  | p :: ps => addWidths widths (p.addWidth widths before) ps

/-- The least width of branches, and the greatest. -/
def branchWidths (widths : Nat → Nat × Nat) : List (List Part) → Nat × Nat
  | [] => (widest, 0)
  | b :: bs =>
    let v := clampWidth (addWidths widths (0, 0) b)
    let w := branchWidths widths bs
    (min v.1 w.1, max v.2 w.2)

end

/-- The least and the greatest number of characters that parts match. -/
def widthOf (widths : Nat → Nat × Nat) (parts : List Part) : Nat × Nat :=
  clampWidth (addWidths widths (0, 0) parts)

end ClassTidy.Pattern
