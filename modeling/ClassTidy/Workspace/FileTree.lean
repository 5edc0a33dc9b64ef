/-
  ClassTidy.Workspace.FileTree — files and directories as a value.

  A tree knows every directory and every file by the names that lead to it from the root.
  A path is followed name by name: every name but the last has to be a directory, and `..`
  leads up from where the walk stands. Names and whole paths have a greatest length, in
  octets; a name counts where the walk comes to it, a path before the walk begins.

  A tree also knows what the system will not do with its entries: go through a directory,
  read a file or write one. Such a trouble belongs to the entry and stays while the tree is
  used. Reading and writing can give up on the way, and a file whose writing was given up
  holds what had come through by then.
-/
import ClassTidy.Text.Quoted
import ClassTidy.Text.Utf8
import ClassTidy.Workspace.Path

namespace ClassTidy

inductive Entry where
  | file (octets : List UInt8)
  | directory
  deriving DecidableEq, Repr

/-- What is done with an entry: a directory is gone through, a file is read or written. -/
inductive Use where
  | search
  | read
  | write
  deriving DecidableEq, Repr

/-- Why the system does not do something, by its number and its words. -/
structure Trouble where
  number : Nat
  words : Text
  /-- How many octets come through before it is given up; none if it is not begun. -/
  after : Option Nat
  deriving DecidableEq, Repr

/-- What is said of a trouble; the path is known only where nothing was begun. -/
def Trouble.message (p : Path) (w : Trouble) : Text :=
  "[Errno ".toList ++ Text.ofNat w.number ++ ']' :: ' ' :: w.words ++
    match w.after with
    | none => ':' :: ' ' :: Text.quoted p.write
    | some _ => []

/-- Why something cannot be done with a file. -/
inductive FileFault where
  | missing
  | notDirectory
  | isDirectory
  | badName
  | tooLong
  | refused (w : Trouble)
  deriving DecidableEq, Repr

def FileFault.message (p : Path) : FileFault → Text
  | .missing => Trouble.message p ⟨2, "No such file or directory".toList, none⟩
  | .notDirectory => Trouble.message p ⟨20, "Not a directory".toList, none⟩
  | .isDirectory => Trouble.message p ⟨21, "Is a directory".toList, none⟩
  | .badName => "embedded null byte".toList
  | .tooLong => Trouble.message p ⟨36, "File name too long".toList, none⟩
  | .refused w => w.message p

/-- Whether a fault says that there is no file, and not that this cannot be found out. -/
def FileFault.isAbsence : FileFault → Bool
  | .tooLong => false
  | .refused _ => false
  | _ => true

structure FileTree where
  entries : List (List Text × Entry)
  /-- What is in the way of uses of entries. -/
  troubles : List ((List Text × Use) × Trouble) := []
  deriving DecidableEq, Repr

namespace FileTree

/-- The tree of the root directory alone. -/
def empty : FileTree := { entries := [] }

/-- What stands at the end of names from the root. -/
def entry? (t : FileTree) (names : List Text) : Option Entry :=
  if names.isEmpty then some .directory else t.entries.lookup names

/-- Sets an entry, in its place if it is there. -/
def setEntry (names : List Text) (e : Entry) : List (List Text × Entry) → List (List Text × Entry)
  | [] => [(names, e)]
  | (n, f) :: rest => if n = names then (n, e) :: rest else (n, f) :: setEntry names e rest

/-- The names of the directories above an entry, the highest first. -/
def above (names : List Text) : List (List Text) :=
  (List.range names.length).filterMap fun n => if n = 0 then none else some (names.take n)

/-- Makes sure of a directory. -/
def ensure (t : FileTree) (names : List Text) : FileTree :=
  match t.entry? names with
  | some _ => t
  | none => { t with entries := setEntry names .directory t.entries }

/-- Sets an entry and makes sure of the directories above it. -/
def put (t : FileTree) (names : List Text) (e : Entry) : FileTree :=
  let t := (above names).foldl ensure t
  { t with entries := setEntry names e t.entries }

/-- What is in the way of a use. -/
def trouble? (t : FileTree) (names : List Text) (use : Use) : Option Trouble := t.troubles.lookup (names, use)

/-- The tree with something in the way of a use. -/
def hinder (t : FileTree) (names : List Text) (use : Use) (w : Trouble) : FileTree :=
  { t with troubles := ((names, use), w) :: t.troubles }

/-- The greatest number of octets in a name. -/
def longestName : Nat := 255

/-- The greatest number of octets in a path. -/
def longestPath : Nat := 4095

/-- Follows names from a directory. -/
def walk (t : FileTree) (current : List Text) : List Text → Except FileFault (List Text)
  | [] => .ok current
  | n :: ns =>
    match t.entry? current with
    | none => .error .missing
    | some (.file _) => .error .notDirectory
    | some .directory =>
      match t.trouble? current .search with
      | some w => .error (.refused w)
      | none =>
        if n = ['.', '.'] then t.walk current.dropLast ns
        else if longestName < (Text.Utf8.encode n).length then .error .tooLong
        else t.walk (current ++ [n]) ns

/-- The names from the root that a path leads to. -/
def locate (t : FileTree) (current p : Path) : Except FileFault (List Text) :=
  if p.hasNull then .error .badName
  else if longestPath < (Text.Utf8.encode p.write).length then .error .tooLong
  else t.walk [] (current.under p).names

/-- The octets of a file. -/
def read (t : FileTree) (current p : Path) : Except FileFault (List UInt8) :=
  match t.locate current p with
  | .error f => .error f
  | .ok names =>
    match t.entry? names with
    | none => .error .missing
    | some .directory => .error .isDirectory
    | some (.file octets) =>
      match t.trouble? names .read with
      | some w => .error (.refused w)
      | none => .ok octets

/-- Whether a path leads to a file, be it one that can be read or not. -/
def isFile (t : FileTree) (current p : Path) : Except FileFault Bool :=
  match t.locate current p with
  | .error f => if f.isAbsence then .ok false else .error f
  | .ok names =>
    match t.entry? names with
    | some (.file _) => .ok true
    | _ => .ok false

/-- The tree with a file's octets changed; a path that leads nowhere changes nothing. -/
def write (t : FileTree) (current p : Path) (octets : List UInt8) : FileTree :=
  match t.locate current p with
  | .ok names => { t with entries := setEntry names (.file octets) t.entries }
  | .error _ => t

/-- What comes of putting octets in a file: what it holds then, if it was opened, and why that is not all of them. -/
def save (t : FileTree) (current p : Path) (octets : List UInt8) : Option (List UInt8) × Option FileFault :=
  match t.locate current p with
  | .error f => (none, some f)
  | .ok names =>
    match t.trouble? names .write with
    | none => (some octets, none)
    | some w => (w.after.map octets.take, some (.refused w))

end FileTree

end ClassTidy
