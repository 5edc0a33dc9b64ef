/-
  ClassTidy.Span.Rule — class strings found by patterns.

  A rule is a pattern and the group that holds the class string. Rules are read in order;
  one that cannot be used is noted with its reason and the others go on, unless reading it
  breaks down, which ends all of it. A group that the pattern does not have is told about
  and never found.

  A match whose group is absent or blank is no span. The class string is looked for in
  the match by its text, so it is found where that text occurs first.
-/
import ClassTidy.Log
import ClassTidy.Text.Blank
import ClassTidy.Pattern.Matcher
import ClassTidy.Pattern.Reader
import ClassTidy.Span.Basic

namespace ClassTidy

/-- A rule as settings give it. -/
structure RawRule where
  regex : Text
  group : Int
  deriving DecidableEq, Repr

structure Rule where
  regex : Text
  pattern : Pattern
  group : Nat
  deriving DecidableEq, Repr

/-- Why a rule cannot be used. -/
inductive RuleCause where
  | negativeGroup (group : Int)
  | badPattern (fault : Pattern.Fault)
  deriving DecidableEq, Repr

/-- What comes of reading a rule. -/
inductive RuleReading where
  | rule (r : Rule)
  | error (c : RuleCause)
  | breakdown (b : Breakdown)
  deriving DecidableEq, Repr

structure RuleError where
  rule : RawRule
  cause : RuleCause
  /-- The language that the rule is for; may be empty. -/
  language : Text
  deriving DecidableEq, Repr

def negativeGroupMessage (group : Int) : Text := "capture_group must be >= 0, got ".toList ++ Text.ofInt group

def RuleError.message (e : RuleError) : Text :=
  match e.cause with
  | .negativeGroup g => negativeGroupMessage g
  | .badPattern f => "invalid regex: ".toList ++ f.message e.rule.regex

namespace Rule

/-- Reads one rule. -/
def read (raw : RawRule) : RuleReading :=
  if raw.group < 0 then .error (.negativeGroup raw.group)
  else match Pattern.read raw.regex with
    | .ok p => .rule ⟨raw.regex, p, raw.group.toNat⟩
    | .error (.fault f) => .error (.badPattern f)
    | .error (.breakdown b) => .breakdown b

/-- The first breakdown in reading a list of rules. -/
def breakdown? (raws : List RawRule) : Option Breakdown :=
  raws.findSome? fun raw => match read raw with
    | .breakdown b => some b
    | _ => none

/-- The rules of a list that can be used, in order. -/
def usable (raws : List RawRule) : List Rule :=
  raws.filterMap fun raw => match read raw with
    | .rule r => some r
    | _ => none

/-- The errors of a list's other rules, in order. -/
def errors (language : Text) (raws : List RawRule) : List RuleError :=
  raws.filterMap fun raw => match read raw with
    | .error c => some ⟨raw, c, language⟩
    | _ => none

/-- What is said when errors are not let pass. -/
def strictMessage (errors : List RuleError) : Text :=
  Text.ofNat errors.length ++ " invalid pattern rule(s)".toList

/-- Why no rules of a list are used. -/
inductive CompileFault where
  | errors (es : List RuleError)
  | breakdown (b : Breakdown)
  deriving DecidableEq, Repr

/-- The usable rules of a list; with `strict`, the errors if there are any. -/
def compile (language : Text) (strict : Bool) (raws : List RawRule) : Except CompileFault (List Rule) :=
  match breakdown? raws with
  | some b => .error (.breakdown b)
  | none =>
    let errs := errors language raws
    if strict && !errs.isEmpty then .error (.errors errs) else .ok (usable raws)

/-- The group of a rule is none of its pattern's. -/
def isIdle (r : Rule) : Bool := r.pattern.groups < r.group

def warnIdle (r : Rule) : Log.Line :=
  ⟨.warning, .rules, .ok ("Rule ".toList ++ Text.quoted r.regex ++ " has ".toList ++ Text.ofNat r.pattern.groups ++
    " group(s); capture_group ".toList ++ Text.ofNat r.group ++ " never participates".toList)⟩

def warnError (e : RuleError) : Log.Line :=
  let language := if e.language.isEmpty then [] else " (".toList ++ e.language ++ [')']
  ⟨.warning, .rules, .ok ("Skipping pattern rule ".toList ++ Text.quoted e.rule.regex ++ language ++
    ':' :: ' ' :: e.message)⟩

/-- What is told about a list of rules: idle groups first, then errors. -/
def log (language : Text) (raws : List RawRule) : Log :=
  (((usable raws).filter isIdle).map warnIdle) ++ (errors language raws).map warnError

/-- The span of a match, if its group holds a class string. -/
def span? (t : Text) (r : Rule) (m : Match) : Option Span :=
  if r.isIdle then none
  else match m.group? r.group with
    | none => none
    | some (a, b) =>
      let classes := Text.slice t a b
      if Text.isBlankOnly classes then none
      else
        let full := Text.slice t m.start m.stop
        match Text.find? classes full with
        | none => none
        | some i => some ⟨full, classes, m.start, m.start + i, m.start + i + classes.length, .rule⟩

/-- The spans of a rule's matches, unless one of them is torn. -/
def spansOf (t : Text) (r : Rule) (found : List Match) : Except Breakdown (List Span) :=
  if found.any fun m => m.isTorn r.pattern.groups then .error .tornGroup else .ok (found.filterMap (span? t r))

/-- The spans that one rule finds. -/
def spans (t : Text) (r : Rule) : Except Breakdown (List Span) := r.spansOf t (r.pattern.allMatches t)

end Rule

/-- The spans that rules find, rule by rule. -/
def Span.ofRules (t : Text) : List Rule → Except Breakdown (List Span)
  | [] => .ok []
  | r :: rs =>
    match r.spans t with
    | .error b => .error b
    | .ok ss =>
      match Span.ofRules t rs with
      | .error b => .error b
      | .ok others => .ok (ss ++ others)

end ClassTidy
