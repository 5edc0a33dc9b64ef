/-
  ClassTidy.Settings.Decode — settings from a JSON object.

  Names that start with `_` are comments. Any other unknown name is refused first, then
  each setting is checked: the three choices, the path, the two lists of texts, and the
  custom languages with their rules. The first fault found is the one reported.
-/
import ClassTidy.Json.Reader
import ClassTidy.Json.Shown
import ClassTidy.Settings.Basic
import ClassTidy.Sorting
import ClassTidy.Text.Utf8
import ClassTidy.Workspace.FileTree

namespace ClassTidy

/-- Why there are no settings, or none that can be used. -/
inductive SettingsFault where
  | unknownNames (names : List Text)
  | notBoolean (name : Text)
  | pathNotText
  | notTexts (name : Text)
  | blankEntry (name : Text) (entry : Json)
  | languagesNotList
  | languageNotObject
  | languageWithoutId
  | patternsNotList (language : Text)
  | patternWithoutRegex (language : Text)
  | groupNotInteger (language : Text) (group : Json)
  | badRules (errors : List RuleError)
  | breakdown (b : Breakdown)
  | unreadable (path : Path) (fault : FileFault)
  | notJson (path : Path) (reason : Text)
  | notObject (path : Path)

def SettingsFault.message : SettingsFault → Text
  | .unknownNames ns => "Unknown config key(s): ".toList ++ Text.join ", ".toList ns
  | .notBoolean n => Text.quoted n ++ " must be a boolean".toList
  | .pathNotText => "'rank_table_path' must be a string".toList
  | .notTexts n => Text.quoted n ++ " must be a list of strings".toList
  | .blankEntry n v => Text.quoted n ++ " entries must be non-empty strings, got ".toList ++ v.shown
  | .languagesNotList => "'custom_languages' must be a list".toList
  | .languageNotObject => "custom_languages entries must be objects".toList
  | .languageWithoutId => "custom language needs a non-empty 'language_id'".toList
  | .patternsNotList l => "'patterns' must be a list in language ".toList ++ Text.quoted l
  | .patternWithoutRegex l => "Pattern in language ".toList ++ Text.quoted l ++ " needs a string 'regex'".toList
  | .groupNotInteger l v =>
    "capture_group must be an integer in language ".toList ++ Text.quoted l ++ ", got ".toList ++ v.shown
  | .badRules es => Rule.strictMessage es
  | .breakdown b => b.message
  | .unreadable p f => "Cannot read config ".toList ++ p.write ++ ':' :: ' ' :: f.message p
  | .notJson p reason => "Config is not valid JSON: ".toList ++ p.write ++ ' ' :: '(' :: reason ++ [')']
  | .notObject p => "Config payload must be a JSON object: ".toList ++ p.write

/-- The rule errors behind a fault. -/
def SettingsFault.rules : SettingsFault → List RuleError
  | .badRules es => es
  | _ => []

namespace Settings

def enableName : Text := "enable".toList
def keepRepeatsName : Text := "preserve_duplicates".toList
def keepGapsName : Text := "preserve_whitespace".toList
def tablePathName : Text := "rank_table_path".toList
def enabledName : Text := "enabled_languages".toList
def customName : Text := "custom_languages".toList
def functionsName : Text := "class_functions".toList

def knownNames : List Text :=
  [enableName, keepRepeatsName, keepGapsName, tablePathName, enabledName, customName, functionsName]

/-- A name that marks a comment. -/
def isComment (name : Text) : Bool := name.head? == some '_'

/-- The fields that are no comments. -/
def relevant (fields : Json.Fields) : Json.Fields := fields.filter fun f => !isComment f.1

/-- The names that mean nothing, in order. -/
def unknown (fields : Json.Fields) : List Text :=
  Sorting.sortBy Text.le ((fields.map (·.1)).filter fun n => !knownNames.contains n)

def readBool (fields : Json.Fields) (name : Text) (default : Bool) : Except SettingsFault Bool :=
  match Json.field? fields name with
  | none => .ok default
  | some (.bool b) => .ok b
  | some _ => .error (.notBoolean name)

def readPath (fields : Json.Fields) : Except SettingsFault Text :=
  match Json.field? fields tablePathName with
  | none => .ok []
  | some (.str t) => .ok t
  | some _ => .error .pathNotText

/-- Texts that are not blank. -/
def readEntries (name : Text) : List Json → Except SettingsFault (List Text)
  | [] => .ok []
  | .str t :: vs =>
    if Text.isBlankOnly t then .error (.blankEntry name (.str t))
    else match readEntries name vs with
      | .ok ts => .ok (t :: ts)
      | .error f => .error f
  | v :: _ => .error (.blankEntry name v)

/-- Each text once, where it came first; `seen` are those before. -/
def distinct (seen : List Text) : List Text → List Text
  | [] => []
  | t :: ts => if seen.contains t then distinct seen ts else t :: distinct (t :: seen) ts

def readTexts (fields : Json.Fields) (name : Text) (default : List Text) : Except SettingsFault (List Text) :=
  match Json.field? fields name with
  | none => .ok default
  | some (.arr vs) => (readEntries name vs).map (distinct [])
  | some _ => .error (.notTexts name)

/-- One rule of a language. -/
def readRule (language : Text) : Json → Except SettingsFault RawRule
  | .obj fields =>
    match Json.field? fields "regex".toList with
    | some (.str regex) =>
      match Json.field? fields "capture_group".toList with
      | none => .ok ⟨regex, 1⟩
      | some (.int n) => .ok ⟨regex, n⟩
      | some v => .error (.groupNotInteger language v)
    | _ => .error (.patternWithoutRegex language)
  | _ => .error (.patternWithoutRegex language)

def readRules (language : Text) : List Json → Except SettingsFault (List RawRule)
  | [] => .ok []
  | v :: vs =>
    match readRule language v with
    | .error f => .error f
    | .ok r =>
      match readRules language vs with
      | .error f => .error f
      | .ok rs => .ok (r :: rs)

/-- One custom language. -/
def readLanguage : Json → Except SettingsFault Language
  | .obj fields =>
    match Json.field? fields "language_id".toList with
    | some (.str []) => .error .languageWithoutId
    | some (.str id) =>
      match Json.field? fields "patterns".toList with
      | none => .ok ⟨id, []⟩
      | some (.arr vs) => (readRules id vs).map fun rs => ⟨id, rs⟩
      | some _ => .error (.patternsNotList id)
    | _ => .error .languageWithoutId
  | _ => .error .languageNotObject

def readLanguageList : List Json → Except SettingsFault (List Language)
  | [] => .ok []
  | v :: vs =>
    match readLanguage v with
    | .error f => .error f
    | .ok l =>
      match readLanguageList vs with
      | .error f => .error f
      | .ok ls => .ok (l :: ls)

def readLanguages (fields : Json.Fields) : Except SettingsFault (List Language) :=
  match Json.field? fields customName with
  | none => .ok []
  | some (.arr vs) => readLanguageList vs
  | some _ => .error .languagesNotList

/-- Settings from the fields of an object. -/
def ofFields (all : Json.Fields) : Except SettingsFault Settings := do
  let fields := relevant all
  let strange := unknown fields
  if !strange.isEmpty then throw (.unknownNames strange)
  let enable ← readBool fields enableName true
  let keepRepeats ← readBool fields keepRepeatsName false
  let keepGaps ← readBool fields keepGapsName false
  let tablePath ← readPath fields
  let enabled ← readTexts fields enabledName []
  let functions ← readTexts fields functionsName defaultFunctions
  let custom ← readLanguages fields
  return ⟨enable, tablePath, keepRepeats, keepGaps, enabled, custom, functions⟩

/-- Settings from a file. -/
def load (tree : FileTree) (current path : Path) : Except SettingsFault Settings :=
  match tree.read current path with
  | .error .badName => .error (.notJson path (FileFault.badName.message path))
  | .error f => .error (.unreadable path f)
  | .ok octets =>
    let value := match Text.Utf8.decode octets with
      | .ok t => Json.read? Json.Limits.file t
      | .error _ => none
    match value with
    | none => .error (.notJson path Json.faultMessage.toList)
    | some (.obj fields) => ofFields fields
    | some _ => .error (.notObject path)

/-- The name of the settings file of a workspace. -/
def fileName : Text := ".classorder.json".toList

end Settings

end ClassTidy
