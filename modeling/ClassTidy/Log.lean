/-
  ClassTidy.Log — what the library tells while it works.

  A line has a level, the part of the library it comes from, and a message. Nothing in
  the library depends on its own log: functions that have something to tell have a second
  function beside them, or a second result, that gives the lines. A line is put into words
  only where it is shown; a line that has no words breaks off what it was to be told of.
-/
import ClassTidy.Breakdown

namespace ClassTidy

namespace Log

inductive Level where
  | debug
  | info
  | warning
  | error
  deriving DecidableEq, Repr

def Level.label : Level → String
  | .debug => "DEBUG"
  | .info => "INFO"
  | .warning => "WARNING"
  | .error => "ERROR"

/-- Worth telling without being asked. -/
def Level.isLoud : Level → Bool
  | .debug => false
  | .info => false
  | .warning => true
  | .error => true

/-- The part of the library that a line comes from. -/
inductive Source where
  | rules
  | ranks
  | tables
  | cache
  | service
  deriving DecidableEq, Repr

def Source.label : Source → String
  | .rules => "classorder.pattern_matcher"
  | .ranks => "classorder.normalizer"
  | .tables => "classorder.oracle"
  | .cache => "classorder.oracle_cache"
  | .service => "classorder.service"

structure Line where
  level : Level
  source : Source
  /-- The words, or why there are none. -/
  message : Except Breakdown Text
  deriving Repr

/-- The words of a line. -/
def Line.text (l : Line) : Text :=
  match l.message with
  | .ok t => t
  | .error _ => []

/-- Why a line has no words. -/
def Line.unsaid? (l : Line) : Option Breakdown :=
  match l.message with
  | .ok _ => none
  | .error b => some b

/-- A line with its level and its source in front. -/
def Line.write (l : Line) : Text :=
  l.level.label.toList ++ ' ' :: l.source.label.toList ++ ':' :: ' ' :: l.text

end Log

/-- What was told, in order. -/
abbrev Log := List Log.Line

namespace Log

/-- What breaks off a log of which every line is shown. -/
def unsaid? (log : Log) : Option Breakdown := log.findSome? Line.unsaid?

/-- The lines that are told before a log breaks off. -/
def said (log : Log) : Log := log.takeWhile fun l => l.unsaid?.isNone

end Log

end ClassTidy
