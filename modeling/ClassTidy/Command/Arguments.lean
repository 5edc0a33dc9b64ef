/-
  ClassTidy.Command.Arguments — the words of a command line.

  Every word is first told apart by its own looks: a switch, the divider `--`, a plain
  word, or something that looks like a switch and is none. The start of a switch's name
  will do if no other switch starts so, and a value may follow a switch after `=`. Words
  behind the divider are plain. A word of a negative number, and one with a space, is plain.

  Then the words are gone through in order. A switch takes the plain words it needs; the
  first run of plain words left are the files, and whatever is left after that is not
  understood. The first fault in this order is reported; only then whether files were
  missing, and then the words not understood.
-/
import ClassTidy.Number.Integer
import ClassTidy.Service
import ClassTidy.Text.Quoted
import ClassTidy.Workspace.Path

namespace ClassTidy.Command

inductive Switch where
  | help
  | config
  | workspace
  | language
  | range
  | offset
  | check
  | write
  | strict
  | verbose
  deriving DecidableEq, Repr

namespace Switch

/-- The ways to write the switches, in order; a switch can have two. -/
def spellings : List (Text × Switch) := [
  ("-h".toList, .help),
  ("--help".toList, .help),
  ("--config".toList, .config),
  ("--workspace".toList, .workspace),
  ("--language".toList, .language),
  ("--range".toList, .range),
  ("--at".toList, .offset),
  ("--check".toList, .check),
  ("--write".toList, .write),
  ("--strict-rules".toList, .strict),
  ("--verbose".toList, .verbose)]

/-- All spellings of a switch, as messages name it. -/
def label (s : Switch) : Text :=
  Text.join ['/'] ((spellings.filter fun x => x.2 = s).map (·.1))

/-- How many values a switch takes. -/
def values : Switch → Nat
  | .config => 1
  | .workspace => 1
  | .language => 1
  | .offset => 1
  | .range => 2
  | _ => 0

end Switch

/-- What can be wrong with a command line. -/
inductive Misuse where
  | ambiguous (word : Text) (names : List Text)
  | missingValues (s : Switch)
  | unwantedValue (s : Switch) (value : Text)
  | notInteger (s : Switch) (value : Text)
  | conflict (later earlier : Switch)
  | noFiles
  | strangeWords (words : List Text)
  deriving DecidableEq, Repr

namespace Misuse

def about (s : Switch) (t : Text) : Text := "argument ".toList ++ s.label ++ ':' :: ' ' :: t

def message : Misuse → Text
  | .ambiguous w ns => "ambiguous option: ".toList ++ w ++ " could match ".toList ++ Text.join ", ".toList ns
  | .missingValues s =>
    about s (if s.values = 1 then "expected one argument".toList
      else "expected ".toList ++ Text.ofNat s.values ++ " arguments".toList)
  | .unwantedValue s v => about s ("ignored explicit argument ".toList ++ Text.quoted v)
  | .notInteger s v => about s ("invalid int value: ".toList ++ Text.quoted v)
  | .conflict a b => about a ("not allowed with argument ".toList ++ b.label)
  | .noFiles => "the following arguments are required: files".toList
  | .strangeWords ws => "unrecognized arguments: ".toList ++ Text.join [' '] ws

end Misuse

/-- Why a command line starts no work. -/
inductive Stop where
  | help
  | misuse (m : Misuse)
  deriving DecidableEq, Repr

/-! ## Words -/

/-- A word by its looks. -/
inductive Word where
  | plain (t : Text)
  | divider
  | switch (s : Switch) (value : Option Text)
  | strange (t : Text)
  deriving DecidableEq, Repr

namespace Word

/-- The part before the first `=`, and the part behind it. -/
def splitValue (t : Text) : Text × Option Text :=
  match t.dropWhile (· != '=') with
  | [] => (t, none)
  | _ :: v => (t.takeWhile (· != '='), some v)

def isDecimalText (t : Text) : Bool := t.all fun c => Text.isDecimal c.toNat

/-- A minus and a decimal number, with a line end behind it or not. -/
def isNegative : Text → Bool
  | '-' :: t =>
    let t := if t.getLast? = some '\n' then t.dropLast else t
    let whole := t.takeWhile (· != '.')
    match t.dropWhile (· != '.') with
    | [] => !whole.isEmpty && isDecimalText whole
    | _ :: fraction => isDecimalText whole && !fraction.isEmpty && isDecimalText fraction
  | _ => false

/-- The switches that a shortened word can mean, with the spelling and the value. -/
def meanings (t : Text) : List (Text × Switch × Option Text) :=
  match t with
  | '-' :: '-' :: _ =>
    let (start, value) := splitValue t
    (Switch.spellings.filter fun x => start.isPrefixOf x.1).map fun x => (x.1, x.2, value)
  | a :: b :: v => (Switch.spellings.filter fun x => x.1 = [a, b]).map fun x => (x.1, x.2, some v)
  | _ => []

/-- A word that starts with a minus and is no full spelling of a switch. -/
def ofShort (t : Text) : Except Misuse Word :=
  match meanings t with
  | [(_, s, value)] => .ok (.switch s value)
  | [] => .ok (if isNegative t || t.contains ' ' then .plain t else .strange t)
  | several => .error (.ambiguous t (several.map (·.1)))

/-- What a word is, in front of the divider. -/
def ofText (t : Text) : Except Misuse Word :=
  if t.head? != some '-' then .ok (.plain t)
  else
    match Switch.spellings.lookup t with
    | some s => .ok (.switch s none)
    | none =>
      if t.length = 1 then .ok (.plain t)
      else
        let (start, value) := splitValue t
        match value, Switch.spellings.lookup start with
        | some v, some s => .ok (.switch s (some v))
        | _, _ => ofShort t

/-- The words of a command line. -/
def ofTexts : List Text → Except Misuse (List Word)
  | [] => .ok []
  | t :: ts =>
    if t = ['-', '-'] then .ok (.divider :: ts.map .plain)
    else
      match ofText t with
      | .error m => .error m
      | .ok w =>
        match ofTexts ts with
        | .error m => .error m
        | .ok ws => .ok (w :: ws)

end Word

/-! ## Arguments -/

/-- What is to be done with files that are not in order. -/
inductive Mode where
  | report
  | check
  | write
  deriving DecidableEq, Repr

/-- What came of a switch's value: the switch was not there, its value came to nothing, or this. -/
inductive Given (α : Type) where
  | absent
  | blank
  | value (a : α)
  deriving DecidableEq, Repr

/-- Which class strings of a file are asked for. -/
inductive Scope where
  | all
  | range (start stop : Int)
  | offset (o : Int)
  /-- An offset was asked for, and its value came to nothing. -/
  | blankOffset
  deriving DecidableEq, Repr

structure Arguments where
  files : List Path := []
  config : Given Path := .absent
  workspace : Given Path := .absent
  /-- The language of every file; empty if paths are to tell. -/
  language : Text := []
  scope : Scope := .all
  mode : Mode := .report
  strict : Bool := false
  verbose : Bool := false
  deriving DecidableEq, Repr

/-- How far the words have been gone through. -/
structure Reading where
  arguments : Arguments := {}
  /-- The run of files has ended. -/
  closed : Bool := false
  strange : List Text := []
  deriving DecidableEq, Repr

namespace Reading

def integer (s : Switch) (t : Text) : Except Stop Int :=
  match Number.integer? t with
  | some n => .ok n
  | none => .error (.misuse (.notInteger s t))

/-- The switch that asked for a scope. -/
def scopeSwitch? : Scope → Option Switch
  | .all => none
  | .range _ _ => some .range
  | .offset _ => some .offset
  | .blankOffset => some .offset

/-- The switch that asked for a mode. -/
def modeSwitch? : Mode → Option Switch
  | .report => none
  | .check => some .check
  | .write => some .write

/-- Two switches that exclude each other; a switch may come twice. -/
def exclude (later : Switch) : Option Switch → Except Stop Unit
  | some earlier => if earlier = later then .ok () else .error (.misuse (.conflict later earlier))
  | none => .ok ()

def setScope (a : Arguments) (s : Switch) (scope : Scope) : Except Stop Arguments := do
  exclude s (scopeSwitch? a.scope)
  return { a with scope := scope }

def setMode (a : Arguments) (s : Switch) (mode : Mode) : Except Stop Arguments := do
  exclude s (modeSwitch? a.mode)
  return { a with mode := mode }

/-- What a switch without values does. -/
def apply0 (a : Arguments) (s : Switch) : Except Stop Arguments :=
  match s with
  | .help => .error .help
  | .check => setMode a s .check
  | .write => setMode a s .write
  | .strict => .ok { a with strict := true }
  | .verbose => .ok { a with verbose := true }
  | _ => .error (.misuse (.missingValues s))

/-- What a switch with one value does. -/
def apply1 (a : Arguments) (s : Switch) (v : Text) : Except Stop Arguments :=
  match s with
  | .config => .ok { a with config := .value (Path.read v) }
  | .workspace => .ok { a with workspace := .value (Path.read v) }
  | .language => .ok { a with language := v }
  | .offset => do setScope a s (.offset (← integer s v))
  | _ => .error (.misuse (.missingValues s))

/-- What a switch with two values does. -/
def apply2 (a : Arguments) (s : Switch) (v w : Text) : Except Stop Arguments :=
  match s with
  | .range => do
    let start ← integer s v
    let stop ← integer s w
    setScope a s (.range start stop)
  | _ => .error (.misuse (.missingValues s))

/-- What letters written onto the short switch for help do: each has to be that switch again. -/
def helpLetters : Text → Stop
  | [] => .help
  | c :: t => if c = 'h' then helpLetters t else .misuse (.unwantedValue .help (c :: t))

/-- What a switch with one value does when the value comes to nothing. -/
def applyBlank (a : Arguments) (s : Switch) : Except Stop Arguments :=
  match s with
  | .config => .ok { a with config := .blank }
  | .workspace => .ok { a with workspace := .blank }
  | .language => .ok { a with language := [] }
  | .offset => setScope a s .blankOffset
  | _ => .error (.misuse (.missingValues s))

/-- What a switch does with the value that was written onto it. A value of `--` alone comes to nothing. -/
def attach (a : Arguments) (s : Switch) (v : Text) : Except Stop Arguments :=
  match s.values with
  | 0 => .error (if s = .help && !v.isEmpty then helpLetters v else .misuse (.unwantedValue s v))
  | 1 => if v = ['-', '-'] then applyBlank a s else apply1 a s v
  | _ => .error (.misuse (.missingValues s))

/-- The run of files ends at a switch, if it has begun. -/
def close (r : Reading) : Reading := { r with closed := r.closed || !r.arguments.files.isEmpty }

/-- A plain word that no switch takes. -/
def file (r : Reading) (t : Text) : Reading :=
  if r.closed then { r with strange := r.strange ++ [t] }
  else { r with arguments := { r.arguments with files := r.arguments.files ++ [Path.read t] } }

/-- Goes through the words. -/
def words (r : Reading) : List Word → Except Stop Reading
  | [] => .ok r
  | .plain t :: ws => words (r.file t) ws
  | .divider :: ws => words (if r.closed then { r with strange := r.strange ++ [['-', '-']] } else r) ws
  | .strange t :: ws => words { r.close with strange := r.strange ++ [t] } ws
  | .switch s (some v) :: ws =>
    match attach r.arguments s v with
    | .error e => .error e
    | .ok a => words { r.close with arguments := a } ws
  | .switch s none :: ws =>
    match s.values, ws with
    | 0, ws =>
      match apply0 r.arguments s with
      | .error e => .error e
      | .ok a => words { r.close with arguments := a } ws
    | 1, .plain v :: ws =>
      match apply1 r.arguments s v with
      | .error e => .error e
      | .ok a => words { r.close with arguments := a } ws
    | 2, .plain v :: .plain w :: ws =>
      match apply2 r.arguments s v w with
      | .error e => .error e
      | .ok a => words { r.close with arguments := a } ws
    | _, _ => .error (.misuse (.missingValues s))

end Reading

/-- The arguments that a command line writes. -/
def Arguments.read (texts : List Text) : Except Stop Arguments :=
  match Word.ofTexts texts with
  | .error m => .error (.misuse m)
  | .ok ws =>
    match Reading.words {} ws with
    | .error e => .error e
    | .ok r =>
      if r.arguments.files.isEmpty then .error (.misuse .noFiles)
      else if r.strange.isEmpty then .ok r.arguments
      else .error (.misuse (.strangeWords r.strange))

end ClassTidy.Command
