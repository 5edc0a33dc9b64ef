/-
  ClassTidy.Breakdown — what breaks the work off.

  A fault is part of the work: it is told, and what it does not touch goes on. A breakdown
  is not: whatever was being done ends there and leaves nothing but the breakdown itself.
-/
import ClassTidy.Workspace.FileTree

namespace ClassTidy

inductive Breakdown where
  /-- A pattern repeats something more often than can be counted. -/
  | repeatTooLarge
  /-- A number has more digits than are read. -/
  | tooManyDigits (count : Nat)
  /-- A number has more digits than are written. -/
  | tooWide
  /-- A pattern is to look at ASCII alone and at all characters. -/
  | asciiAndAll
  /-- A group of a match ends before it begins. -/
  | tornGroup
  /-- An offset was asked for and left out. -/
  | missingOffset
  /-- The workspace was asked for and left out. -/
  | missingWorkspace
  /-- The settings file was asked for and left out. -/
  | missingSettings
  /-- What a path leads to cannot be found out. -/
  | unsearched (path : Path) (fault : FileFault)
  deriving DecidableEq, Repr

def Breakdown.message : Breakdown → Text
  | .repeatTooLarge => "the repetition number is too large".toList
  | .tooManyDigits n =>
    "Exceeds the limit (4300 digits) for integer string conversion: value has ".toList ++ Text.ofNat n ++
      " digits; use sys.set_int_max_str_digits() to increase the limit".toList
  | .tooWide =>
    ("Exceeds the limit (4300 digits) for integer string conversion; " ++
      "use sys.set_int_max_str_digits() to increase the limit").toList
  | .asciiAndAll => "ASCII and UNICODE flags are incompatible".toList
  | .tornGroup => "The span of capturing group is wrong, please report a bug for the re module.".toList
  | .missingOffset => "'<=' not supported between instances of 'int' and 'list'".toList
  | .missingWorkspace => "'list' object has no attribute 'resolve'".toList
  | .missingSettings => "'list' object has no attribute 'read_bytes'".toList
  | .unsearched p f => f.message p

end ClassTidy
