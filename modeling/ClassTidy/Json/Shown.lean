/-
  ClassTidy.Json.Shown — a value as a message shows it.

  `None`, `True` and `False` stand for the three words, texts are quoted, a list is shown
  in brackets and an object in braces, with `, ` between items and `: ` after a name.
-/
import ClassTidy.Json.Basic
import ClassTidy.Text.Quoted
import ClassTidy.Number.Shortest

namespace ClassTidy.Json

/-- Fractions in messages are positional from `0.0001` to below `10^16`; an exponent has a sign and two digits. -/
def shownLayout : Number.Layout := ⟨-4, 16, true, 2⟩

mutual

def shown : Json → Text
  | .null => "None".toList
  | .bool b => (if b then "True" else "False").toList
  | .int n => Text.ofInt n
  | .float x => x.write shownLayout
  | .str t => Text.quoted t
  | .arr items => '[' :: (shownItems items ++ [']'])
  | .obj fields => '\x7b' :: (shownFields fields ++ ['\x7d'])

def shownItems : List Json → Text
  | [] => []
  | [v] => shown v
  | v :: w :: vs => shown v ++ ',' :: ' ' :: shownItems (w :: vs)

def shownFields : List (Text × Json) → Text
  | [] => []
  | [(k, v)] => Text.quoted k ++ ':' :: ' ' :: shown v
  | (k, v) :: f :: fs => Text.quoted k ++ ':' :: ' ' :: (shown v ++ ',' :: ' ' :: shownFields (f :: fs))

end

end ClassTidy.Json
