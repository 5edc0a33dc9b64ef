/-
  ClassTidy.Pattern.Fault — why a text is no pattern.

  A fault has a cause and the position it points at; only what shows in a pattern as a
  whole, such as a look-behind of variable width, has none. In a text of more than one
  line the message adds line and column, counted from 1.
-/
import ClassTidy.Breakdown
import ClassTidy.Pattern.Basic
import ClassTidy.Text.Quoted

namespace ClassTidy.Pattern

inductive Cause where
  | openGroup
  | unbalanced
  | openSet
  | openComment
  | nothingToRepeat
  | multipleRepeat
  | repeatBounds
  | badRange (low high : Text)
  | badEscape (escape : Text)
  | danglingEscape
  | incompleteEscape (escape : Text)
  | octalEscape (escape : Text)
  | missingBrace
  | unknownCharacter (name : Text)
  | badReference (number : Nat)
  | badGroupNumber
  | referenceToOpenGroup
  | referenceInBehind
  | nameTaken (name : Text) (number earlier : Nat)
  | badName (name : Text)
  | unknownName (name : Text)
  | missingName (what : String)
  | openName (terminator : Char)
  | unknownExtension (extension : Text)
  | unexpectedEnd
  | lateFlags
  | tooManyBranches
  | flagForBytes
  | flagsIncompatible
  | flagExpected (what : String)
  | unknownFlag
  | globalFlagOn
  | globalFlagOff
  | kindFlagOff
  | flagOnAndOff
  | variableBehind
  | farBehind
  | repeatInTemplate (mode : Mode)
  deriving DecidableEq, Repr

def Cause.message : Cause → Text
  | .openGroup => "missing ), unterminated subpattern".toList
  | .unbalanced => "unbalanced parenthesis".toList
  | .openSet => "unterminated character set".toList
  | .openComment => "missing ), unterminated comment".toList
  | .nothingToRepeat => "nothing to repeat".toList
  | .multipleRepeat => "multiple repeat".toList
  | .repeatBounds => "min repeat greater than max repeat".toList
  | .badRange low high => "bad character range ".toList ++ low ++ '-' :: high
  | .badEscape e => "bad escape ".toList ++ e
  | .danglingEscape => "bad escape (end of pattern)".toList
  | .incompleteEscape e => "incomplete escape ".toList ++ e
  | .octalEscape e => "octal escape value ".toList ++ e ++ " outside of range 0-0o377".toList
  | .missingBrace => "missing \x7b".toList
  | .unknownCharacter n => "undefined character name ".toList ++ Text.quoted n
  | .badReference n => "invalid group reference ".toList ++ Text.ofNat n
  | .badGroupNumber => "bad group number".toList
  | .referenceToOpenGroup => "cannot refer to an open group".toList
  | .referenceInBehind => "cannot refer to group defined in the same lookbehind subpattern".toList
  | .nameTaken n number earlier =>
    "redefinition of group name ".toList ++ Text.quoted n ++ " as group ".toList ++ Text.ofNat number ++
      "; was group ".toList ++ Text.ofNat earlier
  | .badName n => "bad character in group name ".toList ++ Text.quoted n
  | .unknownName n => "unknown group name ".toList ++ Text.quoted n
  | .missingName what => "missing ".toList ++ what.toList
  | .openName c => "missing ".toList ++ c :: ", unterminated name".toList
  | .unknownExtension e => "unknown extension ?".toList ++ e
  | .unexpectedEnd => "unexpected end of pattern".toList
  | .lateFlags => "global flags not at the start of the expression".toList
  | .tooManyBranches => "conditional backref with more than two branches".toList
  | .flagForBytes => "bad inline flags: cannot use 'L' flag with a str pattern".toList
  | .flagsIncompatible => "bad inline flags: flags 'a', 'u' and 'L' are incompatible".toList
  | .flagExpected what => "missing ".toList ++ what.toList
  | .unknownFlag => "unknown flag".toList
  | .globalFlagOn => "bad inline flags: cannot turn on global flag".toList
  | .globalFlagOff => "bad inline flags: cannot turn off global flag".toList
  | .kindFlagOff => "bad inline flags: cannot turn off flags 'a', 'u' and 'L'".toList
  | .flagOnAndOff => "bad inline flags: flag turned on and off".toList
  | .variableBehind => "look-behind requires fixed-width pattern".toList
  | .farBehind => "looks too much behind".toList
  | .repeatInTemplate mode =>
    "internal: unsupported template operator ".toList ++ (match mode with
      | .greedy => "MAX_REPEAT"
      | .lazy => "MIN_REPEAT"
      | .possessive => "POSSESSIVE_REPEAT").toList

structure Fault where
  cause : Cause
  position : Option Nat
  deriving DecidableEq, Repr

/-- Why a text was not read as a pattern: it is none, or reading it broke off. -/
inductive ReadError where
  | fault (f : Fault)
  | breakdown (b : Breakdown)
  deriving DecidableEq, Repr

/-- The line of a position, counted from 1. -/
def lineOf (pattern : Text) (position : Nat) : Nat := (pattern.take position).count '\n' + 1

/-- The column of a position, counted from 1. -/
def columnOf (pattern : Text) (position : Nat) : Nat :=
  ((pattern.take position).reverse.takeWhile (· != '\n')).length + 1

/-- The message for a fault in a pattern. -/
def Fault.message (f : Fault) (pattern : Text) : Text :=
  match f.position with
  | none => f.cause.message
  | some p =>
    let at_ := f.cause.message ++ " at position ".toList ++ Text.ofNat p
    if pattern.contains '\n' then
      at_ ++ " (line ".toList ++ Text.ofNat (lineOf pattern p) ++ ", column ".toList ++
        Text.ofNat (columnOf pattern p) ++ [')']
    else at_

end ClassTidy.Pattern
