/-
  ClassTidy.Number.Integer — integers as people write them.

  Blanks may stand around the number, one sign in front of it, and single underscores
  between its digits. The digits may be those of any script.
-/
import ClassTidy.Text.Blank
import ClassTidy.Text.Digits

namespace ClassTidy.Number

/-- The most digits that a number may have. -/
def mostDigits : Nat := 4300

/-- A blank that may stand around a number: any but the four separators U+001C to U+001F. -/
def isPadding (c : Char) : Bool := Text.isBlank c && !(28 ≤ c.toNat && c.toNat ≤ 31)

/-- The text without the blanks around it. -/
def unpad (t : Text) : Text := ((t.dropWhile isPadding).reverse.dropWhile isPadding).reverse

/-- The values of digits; an underscore may stand between two of them. -/
def digits? : Text → Option (List Nat)
  | [] => none
  | [c] => (Text.digitValue? c.toNat).map fun d => [d]
  | c :: '_' :: t =>
    match Text.digitValue? c.toNat, digits? t with
    | some d, some ds => some (d :: ds)
    | _, _ => none
  | c :: t =>
    match Text.digitValue? c.toNat, digits? t with
    | some d, some ds => some (d :: ds)
    | _, _ => none

/-- The natural number with given digits. -/
def ofDigits (ds : List Nat) : Nat := ds.foldl (fun n d => n * 10 + d) 0

/-- A number without a sign. -/
def magnitude? (t : Text) : Option Nat :=
  match digits? t with
  | some ds => if ds.length ≤ mostDigits then some (ofDigits ds) else none
  | none => none

/-- The integer that a text writes. -/
def integer? (t : Text) : Option Int :=
  match unpad t with
  | '-' :: u => (magnitude? u).map fun n => -(n : Int)
  | '+' :: u => (magnitude? u).map fun n => (n : Int)
  | u => (magnitude? u).map fun n => (n : Int)

end ClassTidy.Number
