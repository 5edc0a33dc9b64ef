/-
  ClassTidy.Workspace.Path — paths.

  A path is an anchor and the names on the way. Empty names and `.` are dropped when a
  path is read; `..` stays, since only resolving knows where it leads. Two slashes in
  front are an anchor of their own, three or more are one.
-/
import ClassTidy.Text.Basic

namespace ClassTidy

/-- Where a path starts. -/
inductive Anchor where
  | here
  | root
  | doubleRoot
  deriving DecidableEq, Repr

def Anchor.text : Anchor → Text
  | .here => []
  | .root => ['/']
  | .doubleRoot => ['/', '/']

structure Path where
  anchor : Anchor
  names : List Text
  deriving DecidableEq, Repr

namespace Path

def anchorOf : Text → Anchor
  | '/' :: '/' :: '/' :: _ => .root
  | '/' :: '/' :: _ => .doubleRoot
  | '/' :: _ => .root
  | _ => .here

def read (t : Text) : Path :=
  ⟨anchorOf t, (Text.pieces '/' t).filter fun n => !n.isEmpty && n != ['.']⟩

def write (p : Path) : Text :=
  match p.anchor, p.names with
  | .here, [] => ['.']
  | a, ns => a.text ++ Text.join ['/'] ns

/-- A name holds a null, which no name of a file does. -/
def hasNull (p : Path) : Bool := p.names.any (·.contains '\x00')

def isAbsolute (p : Path) : Bool := p.anchor != .here

/-- A path seen from another; an absolute path stays. -/
def under (base p : Path) : Path :=
  if p.isAbsolute then p else ⟨base.anchor, base.names ++ p.names⟩

/-- Names without `..`; above the root is the root. -/
def climb (names : List Text) : List Text :=
  (names.foldl (fun up n => if n = ['.', '.'] then up.drop 1 else n :: up) []).reverse

/-- The absolute path without `..`, from a current directory. -/
def resolve (current p : Path) : Path := ⟨.root, climb (current.under p).names⟩

/-- The last name; empty if there is none. -/
def name (p : Path) : Text := p.names.getLastD []

/-- The last point of a name and what follows; none if it is the first or the last character. -/
def suffixOf (n : Text) : Text :=
  let behind := (n.reverse.takeWhile (· != '.')).reverse
  let before := n.length - behind.length
  if behind.isEmpty || before ≤ 1 then [] else '.' :: behind

def suffix (p : Path) : Text := suffixOf p.name

end Path

end ClassTidy
