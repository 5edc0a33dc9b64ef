/-
  ClassTidy.Json.Basic — values of a settings file, a rank table and a report.

  Fields of an object keep the order in which they came, and a name occurs once.
  A number is an integer or, if it was written with a fraction or an exponent or is too
  wide for its reader, a binary fraction.
-/
import ClassTidy.Text.Basic
import ClassTidy.Number.Binary64

namespace ClassTidy

inductive Json where
  | null
  | bool (b : Bool)
  | int (n : Int)
  | float (x : Number.Binary64)
  | str (t : Text)
  | arr (items : List Json)
  | obj (fields : List (Text × Json))

namespace Json

abbrev Fields := List (Text × Json)

/-- The value of a field. -/
def field? (fields : Fields) (name : Text) : Option Json :=
  match fields with
  | [] => none
  | (k, v) :: rest => if k = name then some v else field? rest name

/-- Sets a field: a name that is there keeps its place and takes the new value. -/
def put (fields : Fields) (name : Text) (v : Json) : Fields :=
  match fields with
  | [] => [(name, v)]
  | (k, w) :: rest => if k = name then (k, v) :: rest else (k, w) :: put rest name v

/-- The kind of a value, as messages name it. -/
def kind : Json → String
  | .null => "NoneType"
  | .bool _ => "bool"
  | .int _ => "int"
  | .float _ => "float"
  | .str _ => "str"
  | .arr _ => "list"
  | .obj _ => "dict"

end Json

end ClassTidy
