/-
  ClassTidy.Command.Run — the command, as a function of files.

  Settings come from the file that is named, else from the workspace's own file, else they
  are the defaults. Then the files are gone through in order: a file is skipped if its
  language is not known or it is no file, it fails if it cannot be read or is not UTF-8, and
  otherwise its edits are found and, in write mode, made, unless the file cannot be written,
  which is a failure too. A rank table that cannot be built ends the run without a report,
  and so does a breakdown.

  What is told on the way is notes of the command's own and log lines; quiet runs show
  only warnings and errors of the log, so a line that has no words breaks off verbose runs
  alone.
-/
import ClassTidy.Command.Report
import ClassTidy.Text.Utf8

namespace ClassTidy.Command

inductive Told where
  | note (t : Text)
  | line (l : Log.Line)
  deriving Repr

/-- What is shown of something told. -/
def Told.show? (verbose : Bool) : Told → Option Text
  | .note t => some (t ++ ['\n'])
  | .line l => if verbose || l.level.isLoud then some (l.write ++ ['\n']) else none

def Told.write (verbose : Bool) (told : List Told) : Text := (told.filterMap (Told.show? verbose)).flatten

/-- How a run ended. -/
structure Ending where
  status : Nat
  /-- What broke the run off, if something did. -/
  breakdown : Option Breakdown := none
  /-- What is printed, if there is a report. -/
  output : Text
  told : List Told
  /-- The files written, in order, with the octets that came through. -/
  written : List (Path × List UInt8)

/-! ## Settings -/

/-- The workspace, resolved. -/
def workspace (current : Path) (a : Arguments) : Path :=
  match a.workspace with
  | .value p => Path.resolve current p
  | _ => Path.resolve current current

/-- What breaks a run off that has no workspace to resolve. -/
def workspaceFault? (a : Arguments) : Option Breakdown :=
  match a.workspace with
  | .value p => if p.hasNull then some (.unsearched p .badName) else none
  | .blank => some .missingWorkspace
  | .absent => none

/-- The workspace's own settings file. -/
def ownSettings (root : Path) : Path := root.under (Path.read Settings.fileName)

def settings (tree : FileTree) (current : Path) (a : Arguments) : Except SettingsFault Settings :=
  match a.config with
  | .value p => Settings.load tree current p
  | .blank => .error (.breakdown .missingSettings)
  | .absent =>
    let p := ownSettings (workspace current a)
    match tree.isFile current p with
    | .error f => .error (.breakdown (.unsearched p f))
    | .ok true => Settings.load tree current p
    | .ok false => .ok Settings.default

/-- What is told of settings that cannot be used. -/
def faultNotes (f : SettingsFault) : List Told :=
  .note ("ERROR: ".toList ++ f.message) ::
  f.rules.map fun e =>
    .note ("  ".toList ++ (if e.language.isEmpty then ['-'] else e.language) ++
      ':' :: ' ' :: Text.quoted e.rule.regex ++
      ':' :: ' ' :: e.message)

/-! ## Files -/

/-- How far the files have been gone through. -/
structure Progress where
  tree : FileTree
  cache : Cache RankTable := {}
  report : Report
  told : List Told := []
  written : List (Path × List UInt8) := []

namespace Progress

def tell (p : Progress) (told : List Told) : Progress := { p with told := p.told ++ told }

def skip (p : Progress) (file : Path) (why : String) : Progress :=
  { p with report := { p.report with skipped := p.report.skipped ++ [file] } }.tell
    [.note ("Skipping ".toList ++ file.write ++ ':' :: ' ' :: why.toList)]

def fail (p : Progress) (file : Path) (why : Text) : Progress :=
  { p with report := { p.report with failed := p.report.failed ++ [(file, why)] } }.tell
    [.note ("ERROR: ".toList ++ file.write ++ ':' :: ' ' :: why)]

/-- Puts new octets in a file, as far as they come through. -/
def put (p : Progress) (current file : Path) (octets : List UInt8) : Progress × Option FileFault :=
  match p.tree.save current file octets with
  | (some held, fault) =>
    ({ p with tree := p.tree.write current file held, written := p.written ++ [(file, held)] }, fault)
  | (none, fault) => (p, fault)

/-- Makes edits of a file. They are for spans of the text, so none lies outside. -/
def change (p : Progress) (current file : Path) (t : Text) (edits : List Edit) : Progress × Option FileFault :=
  match Edit.apply t edits with
  | .ok new => p.put current file (Text.Utf8.encode new)
  | .error _ => (p, none)

/-- Reports the edits of a file. -/
def enter (p : Progress) (file : Path) (language t : Text) (edits : List Edit) (written : Bool) : Progress :=
  let p := if edits.isEmpty then p else
    p.tell [.note ((if written then "Sorted " else "Unsorted ").toList ++ Text.ofNat edits.length ++
      " class attribute(s) in ".toList ++ file.write)]
  { p with report := { p.report with files := p.report.files ++ [⟨file, language, Row.ofEdits t edits, written⟩] } }

/-- Finishes a file whose edits are known; in write mode they are made. -/
def finishFile (p : Progress) (current file : Path) (language t : Text) (s : Edit.Selection) : Progress :=
  let p := p.tell (s.log.map .line)
  if p.report.mode = .write && !s.kept.isEmpty then
    match p.change current file t s.kept with
    | (p, none) => p.enter file language t s.kept true
    | (p, some f) => p.fail file (f.message file)
  else p.enter file language t s.kept false

/-- The text of a file, with its line ends made alike. -/
def document (octets : List UInt8) : Except Text.Utf8.Fault Text := (Text.Utf8.decode octets).map Document.unifyLines

/-- The edits of a document that are asked for. Without an offset there is nothing to compare a span with. -/
def edits (p : Progress) (current : Path) (s : Service) (scope : Scope) (language t : Text) : Outcome (List Edit) :=
  match scope with
  | .all => s.editsIn p.tree current p.cache t language .all
  | .range a b => s.editsIn p.tree current p.cache t language (.range (some a) (some b))
  | .offset o => s.editsIn p.tree current p.cache t language (.offset o)
  | .blankOffset =>
    match s.spansIn t language .all with
    | .ok [] => ⟨.ok [], p.cache, []⟩
    | .ok _ => ⟨.error (.breakdown .missingOffset), p.cache, []⟩
    | .error b => ⟨.error (.breakdown b), p.cache, []⟩

/-- Goes through one file of a known language; a fault ends the run. -/
def sortFile (p : Progress) (current : Path) (s : Service) (a : Arguments) (file : Path) (language t : Text) :
    Progress × Option ServiceFault :=
  let got := p.edits current s a.scope language t
  let p := { p with cache := got.cache }.tell ((got.told a.verbose).map .line)
  match got.answer a.verbose with
  | .error f => (p, some f)
  | .ok edits => (p.finishFile current file language t (Edit.select edits), none)

/-- Goes through one file. -/
def file (p : Progress) (current : Path) (s : Service) (a : Arguments) (file : Path) :
    Progress × Option ServiceFault :=
  let language? := if a.language.isEmpty then Language.ofPath? file else some a.language
  match language?.filter s.supports with
  | none => (p.skip file "language not configured", none)
  | some language =>
    match p.tree.isFile current file with
    | .error f => (p, some (.breakdown (.unsearched file f)))
    | .ok false => (p.skip file "not a file", none)
    | .ok true =>
      match p.tree.read current file with
      | .error f => (p.fail file (f.message file), none)
      | .ok octets =>
        match document octets with
        | .error f => (p.fail file f.message.toList, none)
        | .ok t => p.sortFile current s a file language t

/-- Goes through files until a fault ends the run. -/
def files (p : Progress) (current : Path) (s : Service) (a : Arguments) : List Path → Progress × Option ServiceFault
  | [] => (p, none)
  | f :: fs =>
    match p.file current s a f with
    | (p, some fault) => (p, some fault)
    | (p, none) => p.files current s a fs

end Progress

/-! ## The run -/

/-- The end of a run that was broken off. -/
def Ending.broken (b : Breakdown) (told : List Told) (written : List (Path × List UInt8)) : Ending where
  status := 1
  breakdown := some b
  output := []
  told := told
  written := written

/-- The end of a run whose settings cannot be used. -/
def Ending.refused (f : SettingsFault) (told : List Told) : Ending :=
  match f with
  | .breakdown b => .broken b told []
  | f => { status := 2, output := [], told := told ++ faultNotes f, written := [] }

/-- Runs the command with settings and a service. -/
def runWith (tree : FileTree) (current : Path) (a : Arguments) (rules : List Told) (s : Service) : Ending :=
  let off := if s.settings.enable then [] else [Told.note "Class sorting is disabled in config".toList]
  let start : Progress := ⟨tree, {}, ⟨a.mode, [], [], []⟩, rules ++ off, []⟩
  match start.files current s a a.files with
  | (p, some (.breakdown b)) => .broken b p.told p.written
  | (p, some (.build fault)) =>
    { status := 2, output := [], told := p.told ++ [.note ("ERROR: ".toList ++ fault.message)], written := p.written }
  | (p, none) => { status := p.report.exit, output := p.report.write, told := p.told, written := p.written }

/-- Runs the command in a current directory. -/
def run (tree : FileTree) (current : Path) (a : Arguments) : Ending :=
  match workspaceFault? a with
  | some b => .broken b [] []
  | none =>
    match settings tree current a with
    | .error f => .refused f []
    | .ok set =>
      let rules := (Registry.log set).map Told.line
      match Service.make set (workspace current a) a.strict with
      | .error f => .refused f rules
      | .ok s => runWith tree current a rules s

/-- The paths that a run reads, as far as the files known so far can tell. -/
def reads (tree : FileTree) (current : Path) (a : Arguments) : List Path :=
  let root := workspace current a
  let own := match a.config with
    | .value p => p
    | _ => ownSettings root
  match settings tree current a with
  | .error _ => [own]
  | .ok set =>
    let table := if set.tablePath.isEmpty then RankTable.usualPlaces.map root.under
      else [root.under (Path.read set.tablePath)]
    own :: table ++ a.files

end ClassTidy.Command
