/-
  ClassTidy.Json.Printer — value to text.

  Strings are written with the short escapes and, for the other controls, `\u00XX`; all
  else stands as it is. The compact form has no blanks, the indented one puts every item
  on a line of its own, two blanks deeper than its container. The canonical form sorts
  fields by name. Only integers of 64 bits, with or without sign, can be written, and
  containers only to a certain depth; the first thing in the text that cannot be written
  is the one reported.
-/
import ClassTidy.Json.Basic
import ClassTidy.Number.Shortest
import ClassTidy.Sorting

namespace ClassTidy.Json

/-- Fractions are positional from `0.00001` to below `10^16`; an exponent has its sign and no zeros in front. -/
def layout : Number.Layout := ⟨-5, 16, true, 1⟩

/-- One character inside a string. -/
def writeChar (c : Char) : Text :=
  if c = '"' ∨ c = '\\' then ['\\', c]
  else if c = '\n' then ['\\', 'n']
  else if c = '\r' then ['\\', 'r']
  else if c = '\t' then ['\\', 't']
  else if c.toNat = 8 then ['\\', 'b']
  else if c.toNat = 12 then ['\\', 'f']
  else if c.toNat < 0x20 then '\\' :: 'u' :: Text.hex 4 c.toNat
  else [c]

def writeString (t : Text) : Text := '"' :: (t.flatMap writeChar ++ ['"'])

mutual

/-- The compact form. -/
def compact : Json → Text
  | .null => "null".toList
  | .bool b => (if b then "true" else "false").toList
  | .int n => Text.ofInt n
  | .float x => x.write layout
  | .str t => writeString t
  | .arr items => '[' :: (compactItems items ++ [']'])
  | .obj fields => '\x7b' :: (compactFields fields ++ ['\x7d'])

def compactItems : List Json → Text
  | [] => []
  | [v] => compact v
  | v :: w :: vs => compact v ++ ',' :: compactItems (w :: vs)

def compactFields : List (Text × Json) → Text
  | [] => []
  | [(k, v)] => writeString k ++ ':' :: compact v
  | (k, v) :: f :: fs => writeString k ++ ':' :: (compact v ++ ',' :: compactFields (f :: fs))

end

/-- A new line, `depth` levels deep. -/
def newLine (depth : Nat) : Text := '\n' :: List.replicate (2 * depth) ' '

mutual

/-- The indented form of a value that starts `depth` levels deep. -/
def indented (depth : Nat) : Json → Text
  | .arr [] => ['[', ']']
  | .obj [] => ['\x7b', '\x7d']
  | .arr (v :: vs) => '[' :: (indentedItems (depth + 1) (v :: vs) ++ newLine depth ++ [']'])
  | .obj (f :: fs) => '\x7b' :: (indentedFields (depth + 1) (f :: fs) ++ newLine depth ++ ['\x7d'])
  | .null => compact .null
  | .bool b => compact (.bool b)
  | .int n => compact (.int n)
  | .float x => compact (.float x)
  | .str t => compact (.str t)

def indentedItems (depth : Nat) : List Json → Text
  | [] => []
  | [v] => newLine depth ++ indented depth v
  | v :: w :: vs => newLine depth ++ indented depth v ++ ',' :: indentedItems depth (w :: vs)

def indentedFields (depth : Nat) : List (Text × Json) → Text
  | [] => []
  | [(k, v)] => newLine depth ++ writeString k ++ ':' :: ' ' :: indented depth v
  | (k, v) :: f :: fs =>
    newLine depth ++ writeString k ++ ':' :: ' ' :: indented depth v ++ ',' :: indentedFields depth (f :: fs)

end

/-- Fields in order of name. -/
def sortFields (fields : Fields) : Fields := Sorting.sortBy (fun a b => Text.le a.1 b.1) fields

mutual

/-- The value with the fields of every object in order of name. -/
def sorted : Json → Json
  | .arr items => .arr (sortedItems items)
  | .obj fields => .obj (sortFields (sortedValues fields))
  | .null => .null
  | .bool b => .bool b
  | .int n => .int n
  | .float x => .float x
  | .str t => .str t

def sortedItems : List Json → List Json
  | [] => []
  | v :: vs => sorted v :: sortedItems vs

def sortedValues : List (Text × Json) → List (Text × Json)
  | [] => []
  | (k, v) :: fs => (k, sorted v) :: sortedValues fs

end

/-- An integer that fits 64 bits, with or without sign. -/
def fits (n : Int) : Bool := -9223372036854775808 ≤ n && n ≤ 18446744073709551615

/-- Why a value cannot be written. -/
inductive PrintFault where
  | wideInteger
  | tooDeep
  deriving DecidableEq, Repr

def PrintFault.message : PrintFault → String
  | .wideInteger => "Integer exceeds 64-bit range"
  | .tooDeep => "Recursion limit reached"

/-- How many containers can stand inside each other. -/
def deepest : Nat := 254

mutual

/-- The first thing in a value that cannot be written, if `levels` more containers may be opened. -/
def fault? (levels : Nat) : Json → Option PrintFault
  | .int n => if fits n then none else some .wideInteger
  | .arr items => if levels = 0 then some .tooDeep else itemsFault? (levels - 1) items
  | .obj fields => if levels = 0 then some .tooDeep else fieldsFault? (levels - 1) fields
  | .null => none
  | .bool _ => none
  | .float _ => none
  | .str _ => none

def itemsFault? (levels : Nat) : List Json → Option PrintFault
  | [] => none
  | v :: vs =>
    match fault? levels v with
    | some f => some f
    | none => itemsFault? levels vs

def fieldsFault? (levels : Nat) : List (Text × Json) → Option PrintFault
  | [] => none
  | (_, v) :: fs =>
    match fault? levels v with
    | some f => some f
    | none => fieldsFault? levels fs

end

/-- The compact form with sorted fields. -/
def canonical (v : Json) : Except PrintFault Text :=
  match fault? deepest (sorted v) with
  | some f => .error f
  | none => .ok (compact (sorted v))

/-- The indented form with sorted fields. -/
def pretty (v : Json) : Except PrintFault Text :=
  match fault? deepest (sorted v) with
  | some f => .error f
  | none => .ok (indented 0 (sorted v))

end ClassTidy.Json
