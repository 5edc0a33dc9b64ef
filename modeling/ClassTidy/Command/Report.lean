/-
  ClassTidy.Command.Report — what a run tells of the files it has gone through.

  The report is one JSON object: the mode, the files with their edits, the files skipped
  and those that could not be read, and two totals. Lines and columns count from one.
-/
import ClassTidy.Command.Arguments
import ClassTidy.Document.Edit
import ClassTidy.Document.Lines
import ClassTidy.Json.Printer

namespace ClassTidy.Command

def Mode.label : Mode → String
  | .report => "report"
  | .check => "check"
  | .write => "write"

/-- An edit and where it stands. -/
structure Row where
  line : Nat
  column : Int
  edit : Edit
  deriving DecidableEq, Repr

structure FileReport where
  path : Path
  language : Text
  rows : List Row
  written : Bool
  deriving DecidableEq, Repr

structure Report where
  mode : Mode
  files : List FileReport := []
  skipped : List Path := []
  /-- Files that could not be read, and why. -/
  failed : List (Path × Text) := []
  deriving DecidableEq, Repr

/-- An edit with its line and column, both from one. -/
def Row.ofEdit (starts : List Nat) (e : Edit) : Row :=
  let (line, column) := Document.position starts e.start
  ⟨line + 1, column + 1, e⟩

/-- The rows for edits of a document. -/
def Row.ofEdits (t : Text) (es : List Edit) : List Row := es.map (Row.ofEdit (Document.lineStarts t))

namespace Report

/-- How many files have something to change. -/
def changedFiles (r : Report) : Nat := r.files.countP fun f => !f.rows.isEmpty

def totalEdits (r : Report) : Nat := (r.files.flatMap (·.rows)).length

def object (fields : List (String × Json)) : Json := .obj (fields.map fun (k, v) => (k.toList, v))

def rowValue (r : Row) : Json := object [
  ("line", .int r.line),
  ("column", .int r.column),
  ("start", .int r.edit.start),
  ("end", .int r.edit.stop),
  ("original", .str r.edit.old),
  ("sorted", .str r.edit.new)]

def fileValue (f : FileReport) : Json := object [
  ("path", .str f.path.write),
  ("language", .str f.language),
  ("edits", .arr (f.rows.map rowValue)),
  ("written", .bool f.written)]

def value (r : Report) : Json := object [
  ("mode", .str r.mode.label.toList),
  ("files", .arr (r.files.map fileValue)),
  ("skipped", .arr (r.skipped.map fun p => .str p.write)),
  ("failed", .arr (r.failed.map fun (p, m) => object [("path", .str p.write), ("error", .str m)])),
  ("changed_files", .int r.changedFiles),
  ("total_edits", .int r.totalEdits)]

/-- The report as it is printed. -/
def write (r : Report) : Text := Json.indented 0 r.value ++ ['\n']

/-- The status with which the command ends: 2 if a file could not be read, 1 if a check found something. -/
def exit (r : Report) : Nat :=
  if !r.failed.isEmpty then 2 else if r.mode = .check && r.changedFiles != 0 then 1 else 0

end Report

end ClassTidy.Command
