/-
  ClassTidy.Service — class strings of documents, for one workspace and its settings.

  The service finds the spans of a document by the rules of its language and the
  configured calls, gets the rank table through the cache when there is something to
  sort, and gives an edit for every span whose class string is not in its canonical form.

  Getting the table can fail, and is the only thing that touches the cache; everything
  behind it is a plain function of the table. Finding spans can break down, and so can
  telling of the ranks, where it is told.
-/
import ClassTidy.Cache.Basic
import ClassTidy.Document.Edit
import ClassTidy.Json.Shown
import ClassTidy.Rank.File
import ClassTidy.Settings.Registry
import ClassTidy.Span.Find

namespace ClassTidy

structure Service where
  settings : Settings
  root : Path
  registry : Registry

/-- A class string, its canonical form, and whether they differ. -/
structure SortResult where
  old : Text
  new : Text
  changed : Bool
  deriving DecidableEq, Repr

/-- Why a request to the service has no answer. -/
inductive ServiceFault where
  | build (f : BuildFault)
  | breakdown (b : Breakdown)

/-- What a request to the service leaves behind. -/
structure Outcome (α : Type) where
  value : Except ServiceFault α
  cache : Cache RankTable
  log : Log

namespace Outcome

variable {α : Type}

/-- The lines that are told; with `verbose` all are shown, and one without words ends them. -/
def told (o : Outcome α) (verbose : Bool) : Log := if verbose then o.log.said else o.log

/-- What a request comes to when its lines are told. -/
def answer (o : Outcome α) (verbose : Bool) : Except ServiceFault α :=
  match if verbose then o.log.unsaid? else none with
  | some b => .error (.breakdown b)
  | none => o.value

end Outcome

/-- The canonical form of a class string by a table, which has one rank for every class. -/
def RankTable.normalize (table : RankTable) (o : ClassList.Options) (t : Text) : Text :=
  match ClassList.fixed? o t with
  | some t => t
  | none => ClassList.arrange o t (Ranked.mark table.rank (ClassList.hold o t).middle.tokens)

namespace Service

/-- A service for settings; with `strict`, an error in a rule is a fault. -/
def make (s : Settings) (root : Path) (strict : Bool) : Except SettingsFault Service :=
  match Registry.build s strict with
  | .ok r => .ok ⟨s, root, r⟩
  | .error f => .error f

def supports (s : Service) (language : Text) : Bool := (s.registry.language? language).isSome

/-! ## With a table -/

/-- The canonical form of a class string. -/
def normal (s : Service) (table : RankTable) (t : Text) : Text := table.normalize s.settings.options t

def sortWith (s : Service) (table : RankTable) (t : Text) : SortResult :=
  let new := s.normal table t
  ⟨t, new, new != t⟩

/-- The edit for a span, if its class string changes. -/
def edit? (s : Service) (table : RankTable) (span : Span) : Option Edit :=
  let new := s.normal table span.classes
  if new = span.classes then none else some ⟨span.classStart, span.classStop, span.classes, new⟩

def editsWith (s : Service) (table : RankTable) (spans : List Span) : List Edit := spans.filterMap (s.edit? table)

/-- What is told about one class string: the ranks of its classes, and how it changes. -/
def sortLog (s : Service) (table : RankTable) (t : Text) : Log :=
  let ranks := match ClassList.query? s.settings.options t with
    | some names =>
      [⟨.debug, .ranks, (Ranked.trace (Ranked.mark table.rank names)).map ("Class orders: ".toList ++ ·)⟩]
    | none => []
  let new := s.normal table t
  let change := if new = t then [] else
    [⟨.debug, .service, .ok ("Sorted: ".toList ++ Text.quoted t ++ " -> ".toList ++ Text.quoted new)⟩]
  ranks ++ change

/-! ## Spans -/

/-- The spans of a document; none for an unknown language. -/
def spans (s : Service) (t language : Text) : Except Breakdown (List Span) :=
  match s.registry.language? language with
  | none => .ok []
  | some l => Span.find t l.rules s.settings.functions

/-- Which spans of a document are asked for. -/
inductive Scope where
  | all
  /-- Those that touch a range; a missing end is an end of the document. -/
  | range (start stop : Option Int)
  | offset (o : Int)
  deriving DecidableEq, Repr

def Scope.restrict (scope : Scope) (t : Text) (spans : List Span) : List Span :=
  match scope with
  | .all => spans
  | .range none none => spans
  | .range start stop => Span.inRange (start.getD 0) (stop.getD t.length) spans
  | .offset o => Span.atOffset o spans

/-- The spans asked for; none if sorting is switched off. -/
def spansIn (s : Service) (t language : Text) (scope : Scope) : Except Breakdown (List Span) :=
  if s.settings.enable then
    match s.spans t language with
    | .ok ss => .ok (scope.restrict t ss)
    | .error b => .error b
  else .ok []

/-! ## Through the cache -/

/-- The fingerprint under which the service's table is kept. -/
def fingerprint (s : Service) (current : Path) : Fingerprint := s.settings.fingerprint current s.root

/-- The table: the installed one, or one that is built now. -/
def table (s : Service) (tree : FileTree) (current : Path) (cache : Cache RankTable) :
    Except BuildFault RankTable × Cache RankTable :=
  cache.fetch (s.fingerprint current) fun _ => RankTable.build tree current s.root s.settings

/-- What is told while the table is fetched. -/
def tableLog (s : Service) (tree : FileTree) (current : Path) (cache : Cache RankTable) : Log :=
  let f := s.fingerprint current
  match cache.table? f with
  | some _ => []
  | none =>
    cache.waitLog f ++ RankTable.buildLog tree current s.root s.settings ++
      { cache with latest := some f }.endLog f
        ((RankTable.build tree current s.root s.settings).mapError BuildFault.reason)

/-- Sorts one class string. -/
def sort (s : Service) (tree : FileTree) (current : Path) (cache : Cache RankTable) (t : Text) : Outcome SortResult :=
  let told := s.tableLog tree current cache
  match s.table tree current cache with
  | (.error f, cache) => ⟨.error (.build f), cache, told⟩
  | (.ok table, cache) => ⟨.ok (s.sortWith table t), cache, told ++ s.sortLog table t⟩

/-- The edits for spans; without spans nothing is asked of the cache. -/
def edits (s : Service) (tree : FileTree) (current : Path) (cache : Cache RankTable) (spans : List Span) :
    Outcome (List Edit) :=
  if spans.isEmpty then ⟨.ok [], cache, []⟩
  else
    let told := s.tableLog tree current cache
    match s.table tree current cache with
    | (.error f, cache) => ⟨.error (.build f), cache, told⟩
    | (.ok table, cache) =>
      ⟨.ok (s.editsWith table spans), cache, told ++ spans.flatMap fun x => s.sortLog table x.classes⟩

/-- The edits for the spans of a document that are asked for. -/
def editsIn (s : Service) (tree : FileTree) (current : Path) (cache : Cache RankTable) (t language : Text)
    (scope : Scope) : Outcome (List Edit) :=
  match s.spansIn t language scope with
  | .ok ss => s.edits tree current cache ss
  | .error b => ⟨.error (.breakdown b), cache, []⟩

end Service

end ClassTidy
