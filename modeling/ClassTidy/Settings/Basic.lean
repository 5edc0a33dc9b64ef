/-
  ClassTidy.Settings.Basic — what a user can set, and what follows from it.

  Languages are the built-in ones, all or those that are named, and custom ones: a custom
  language takes the place of an earlier one of its id or comes last. A document's
  language can be told from the suffix of its path.
-/
import ClassTidy.ClassList.Normal
import ClassTidy.Span.Rule
import ClassTidy.Workspace.Path

namespace ClassTidy

/-- A language and its rules. -/
structure Language where
  id : Text
  rules : List RawRule
  deriving DecidableEq, Repr

namespace Language

/-- A rule whose first group holds the class string. -/
def rule (regex : String) : RawRule := ⟨regex.toList, 1⟩

def htmlRules : List RawRule := [
  rule "class=\"([^\"]+)\"",
  rule "class='([^']+)'"]

def jsxRules : List RawRule := [
  rule "className=\"([^\"]+)\"",
  rule "className='([^']+)'",
  rule "className=\\\x7b`([^`]+)`\\\x7d",
  rule "className=\\\x7b\"([^\"]+)\"\\\x7d",
  rule "className=\\\x7b'([^']+)'\\\x7d"]

def rubyRules : List RawRule := [
  rule "class:\\s*[\"']([^\"']+)[\"']",
  rule "classes:\\s*[\"']([^\"']+)[\"']",
  rule "class:\\s*%w\\[([^\\]]+)\\]"]

def vueRules : List RawRule := [
  rule "class=\"([^\"]+)\"",
  rule ":class=\"'([^']+)'\""]

def builtin : List Language := [
  ⟨"ruby".toList, rubyRules⟩,
  ⟨"erb".toList, htmlRules⟩,
  ⟨"html".toList, htmlRules⟩,
  ⟨"javascriptreact".toList, jsxRules⟩,
  ⟨"typescriptreact".toList, jsxRules⟩,
  ⟨"vue".toList, vueRules⟩]

/-- Suffixes of paths and the languages they tell. -/
def suffixes : List (Text × Text) := [
  (".rb".toList, "ruby".toList),
  (".erb".toList, "erb".toList),
  (".html".toList, "html".toList),
  (".htm".toList, "html".toList),
  (".jsx".toList, "javascriptreact".toList),
  (".tsx".toList, "typescriptreact".toList),
  (".vue".toList, "vue".toList)]

/-- The language that a path tells; case does not matter, and no suffix has a letter beyond ASCII. -/
def ofPath? (p : Path) : Option Text :=
  suffixes.lookup (p.suffix.map fun c => Char.ofNat (Text.asciiLower c.toNat))

/-- Puts a language in the place of the one with its id, or last. -/
def override (l : Language) : List Language → List Language
  | [] => [l]
  | m :: ms => if m.id = l.id then l :: ms else m :: override l ms

end Language

structure Settings where
  enable : Bool
  tablePath : Text
  keepRepeats : Bool
  keepGaps : Bool
  /-- Built-in languages to keep; all if empty. -/
  enabled : List Text
  custom : List Language
  /-- Names of functions whose arguments hold class strings. -/
  functions : List Text
  deriving DecidableEq, Repr

namespace Settings

def defaultFunctions : List Text :=
  ["cn", "clsx", "twMerge", "twJoin", "cva", "cx", "merge", "tw"].map String.toList

def default : Settings := ⟨true, [], false, false, [], [], defaultFunctions⟩

/-- How class strings are put in order. -/
def options (s : Settings) : ClassList.Options :=
  { unique := !s.keepRepeats,
    collapse := if s.keepGaps then none else some ⟨true, true⟩ }

/-- The languages in use. -/
def languages (s : Settings) : List Language :=
  let kept := if s.enabled.isEmpty then Language.builtin
    else Language.builtin.filter fun l => s.enabled.contains l.id
  s.custom.foldl (fun ls l => Language.override l ls) kept

end Settings

end ClassTidy
