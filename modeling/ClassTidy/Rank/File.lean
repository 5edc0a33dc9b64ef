/-
  ClassTidy.Rank.File — rank tables in a workspace.

  A table file is a JSON object with two objects, `classes` and `variants`; a missing one
  is empty. A rank is an integer, or a text of decimal digits for one that is too wide for
  JSON. Any other value fails the whole table, since a rank that was read wrong would put
  classes in a wrong order without a word.

  A configured path is seen from the workspace; without one, a list of usual places is
  tried in order. A place of which it cannot be found out whether it has a file ends the
  search, and that is another fault than those of a table that was found.
-/
import ClassTidy.Breakdown
import ClassTidy.Json.Reader
import ClassTidy.Log
import ClassTidy.Number.Integer
import ClassTidy.Rank.Table
import ClassTidy.Settings.Basic
import ClassTidy.Text.Utf8
import ClassTidy.Workspace.FileTree

namespace ClassTidy

/-- Why a table file gives no table. -/
inductive TableFault where
  | unreadable (path : Path) (fault : FileFault)
  | notJson
  | notObject (path : Path)
  | partNotObject (part : Text) (path : Path)
  | notInteger (part name : Text) (fraction : Bool) (path : Path)
  | tooManyDigits (count : Nat)
  deriving DecidableEq, Repr

def TableFault.message : TableFault → Text
  | .unreadable p f => f.message p
  | .notJson => Json.faultMessage.toList
  | .notObject p => "Rank table must be a JSON object: ".toList ++ p.write
  | .partNotObject k p => Text.quoted k ++ " must be an object in ".toList ++ p.write
  | .notInteger k n fraction p =>
    k ++ '[' :: Text.quoted n ++ "] must be an integer in ".toList ++ p.write ++
      (if fraction then " (write ranks wider than 64 bits as decimal strings)" else "").toList
  | .tooManyDigits n => (Breakdown.tooManyDigits n).message

/-- Why there is no table for a workspace. -/
inductive BuildFault where
  | noTable (root : Path)
  | failed (path : Path) (fault : TableFault)
  /-- The search for a table broke off at a place. -/
  | unsearched (path : Path) (fault : FileFault)
  deriving DecidableEq, Repr

/-- What went wrong, as the log tells it. -/
def BuildFault.reason : BuildFault → Text
  | .noTable root => "No rank table configured and none found under ".toList ++ root.write
  | .failed p f => "Failed to load rank table ".toList ++ p.write ++ ':' :: ' ' :: f.message
  | .unsearched p f => f.message p

/-- What those are told who wait for the table; what is no fault of a table is said to be one of the build. -/
def BuildFault.message : BuildFault → Text
  | .unsearched p f => "Oracle build failed: ".toList ++ f.message p
  | f => f.reason

namespace RankTable

/-- A rank in decimal digits. -/
def decimal? (negative : Bool) (digits : Text) : Option (Except Nat Int) :=
  if digits.isEmpty || !digits.all Text.isDigit then none
  else if Number.mostDigits < digits.length then some (.error digits.length)
  else
    let n : Int := Text.natValue digits
    some (.ok (if negative then -n else n))

/-- The rank that a value writes; an error is the number of digits that are too many. -/
def readRank? : Json → Option (Except Nat Int)
  | .int n => some (.ok n)
  | .str ('-' :: digits) => decimal? true digits
  | .str digits => decimal? false digits
  | _ => none

def isFraction : Json → Bool
  | .float _ => true
  | _ => false

def readRanks (part : Text) (path : Path) : Json.Fields → Except TableFault (List (Text × Int))
  | [] => .ok []
  | (name, v) :: rest =>
    match readRank? v with
    | none => .error (.notInteger part name (isFraction v) path)
    | some (.error n) => .error (.tooManyDigits n)
    | some (.ok n) =>
      match readRanks part path rest with
      | .error f => .error f
      | .ok ranks => .ok ((name, n) :: ranks)

/-- One of the two parts of a table. -/
def readPart (part : Text) (path : Path) (fields : Json.Fields) : Except TableFault (List (Text × Int)) :=
  match Json.field? fields part with
  | none => .ok []
  | some (.obj ranks) => readRanks part path ranks
  | some _ => .error (.partNotObject part path)

/-- The table that a value writes. -/
def ofValue (path : Path) : Json → Except TableFault RankTable
  | .obj fields =>
    match readPart "classes".toList path fields with
    | .error f => .error f
    | .ok classes =>
      match readPart "variants".toList path fields with
      | .error f => .error f
      | .ok variants => .ok ⟨classes, variants⟩
  | _ => .error (.notObject path)

/-- The table that octets write. -/
def ofOctets (path : Path) (octets : List UInt8) : Except TableFault RankTable :=
  match Text.Utf8.decode octets with
  | .error _ => .error .notJson
  | .ok t =>
    match Json.read? Json.Limits.file t with
    | none => .error .notJson
    | some v => ofValue path v

/-- The table in a file. -/
def load (tree : FileTree) (current path : Path) : Except TableFault RankTable :=
  match tree.read current path with
  | .error f => .error (.unreadable path f)
  | .ok octets => ofOctets path octets

/-- Where tables usually are, seen from the workspace. -/
def usualPlaces : List Path :=
  ["class-order.json", ".classorder/class-order.json", "config/class-order.json",
    "app/assets/tailwind/class-order.json", "src/styles/class-order.json", "styles/class-order.json"].map
    fun s => Path.read s.toList

/-- The first of some places that has a file. -/
def search (tree : FileTree) (current : Path) : List Path → Except (Path × FileFault) (Option Path)
  | [] => .ok none
  | p :: ps =>
    match tree.isFile current p with
    | .error f => .error (p, f)
    | .ok true => .ok (some p)
    | .ok false => search tree current ps

/-- The first usual place that has a file. -/
def discover (tree : FileTree) (current root : Path) : Except (Path × FileFault) (Option Path) :=
  search tree current (usualPlaces.map root.under)

/-- The path of the table: the configured one, or one that is found. -/
def path (tree : FileTree) (current root : Path) (configured : Text) : Except (Path × FileFault) (Option Path) :=
  if configured.isEmpty then discover tree current root
  else .ok (some (root.under (Path.read configured)))

/-- The table for settings and a workspace. -/
def build (tree : FileTree) (current root : Path) (s : Settings) : Except BuildFault RankTable :=
  match path tree current root s.tablePath with
  | .error (p, f) => .error (.unsearched p f)
  | .ok none => .error (.noTable root)
  | .ok (some p) =>
    match load tree current p with
    | .error f => .error (.failed p f)
    | .ok table => .ok table

/-- What is told while a table is built. -/
def buildLog (tree : FileTree) (current root : Path) (s : Settings) : Log :=
  match path tree current root s.tablePath with
  | .ok (some p) =>
    ⟨.info, .tables, .ok ("Loading class order from ".toList ++ p.write)⟩ ::
    match load tree current p with
    | .error _ => []
    | .ok table =>
      [⟨.info, .tables, .ok ("Class order loaded: ".toList ++
        Text.ofNat table.classes.length ++ " classes, ".toList ++
        Text.ofNat table.variants.length ++ " variants".toList)⟩]
  | _ => []

end RankTable

end ClassTidy
