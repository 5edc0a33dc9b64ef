/-
  ClassTidy.Settings.Registry — the languages in use with their rules read.
-/
import ClassTidy.Settings.Decode

namespace ClassTidy

structure CompiledLanguage where
  id : Text
  rules : List Rule
  errors : List RuleError
  deriving DecidableEq, Repr

/-- The languages in use, in order. -/
structure Registry where
  languages : List CompiledLanguage
  deriving DecidableEq, Repr

namespace Registry

def ids (r : Registry) : List Text := r.languages.map (·.id)

def errors (r : Registry) : List RuleError := r.languages.flatMap (·.errors)

def language? (r : Registry) (id : Text) : Option CompiledLanguage := r.languages.find? fun l => l.id = id

def compileLanguage (l : Language) : CompiledLanguage := ⟨l.id, Rule.usable l.rules, Rule.errors l.id l.rules⟩

/-- The registry of settings; errors in rules are kept beside them. -/
def lenient (s : Settings) : Registry := ⟨s.languages.map compileLanguage⟩

/-- The first breakdown in reading the rules of settings. -/
def breakdown? (s : Settings) : Option Breakdown := s.languages.findSome? fun l => Rule.breakdown? l.rules

/-- The registry of settings; with `strict`, an error in a rule is a fault. -/
def build (s : Settings) (strict : Bool) : Except SettingsFault Registry :=
  match breakdown? s with
  | some b => .error (.breakdown b)
  | none =>
    let r := lenient s
    if strict && !r.errors.isEmpty then .error (.badRules r.errors) else .ok r

/-- What is told about the rules of settings. -/
def log (s : Settings) : Log := s.languages.flatMap fun l => Rule.log l.id l.rules

end Registry

end ClassTidy
