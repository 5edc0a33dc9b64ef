/-
  ClassTidy.Text.Basic — text as the rest of the library sees it.

  A text is a list of code points, so an offset, a length and a column all count code
  points, and a slice is `drop` then `take`. Words for users are built as `String` and
  turned into text where they meet document text.
-/

namespace ClassTidy

/-- A document, a class string, a name: a list of code points. -/
abbrev Text := List Char

namespace Text

/-- The part of a text from offset `i` up to, and without, offset `j`. -/
def slice (t : Text) (i j : Nat) : Text := (t.drop i).take (j - i)

/-- The least offset at which `p` occurs in a text. -/
def find? (p : Text) : Text → Option Nat
  | [] => if p.isPrefixOf [] then some 0 else none
  | c :: t => if p.isPrefixOf (c :: t) then some 0 else (find? p t).map (· + 1)

/-- Texts put one after the other with `sep` between them. -/
def join (sep : Text) : List Text → Text
  | [] => []
  | [t] => t
  | t :: u :: ts => t ++ sep ++ join sep (u :: ts)

/-- The pieces of a text between the occurrences of one character; never empty. -/
def pieces (sep : Char) : Text → List Text
  | [] => [[]]
  | c :: t =>
    if c = sep then [] :: pieces sep t
    else match pieces sep t with
      | [] => [[c]]
      | p :: ps => (c :: p) :: ps

/-- The order of texts by code point. -/
def le : Text → Text → Bool
  | [], _ => true
  | _ :: _, [] => false
  | a :: s, b :: t => if a = b then le s t else decide (a.toNat < b.toNat)

/-- A number in decimal digits. -/
def ofNat (n : Nat) : Text := Nat.toDigits 10 n

/-- An integer in decimal digits, with `-` in front if it is negative. -/
def ofInt : Int → Text
  | .ofNat n => ofNat n
  | .negSucc n => '-' :: ofNat (n + 1)

/-- One hexadecimal digit, in lower case. -/
def hexDigit (n : Nat) : Char := if n < 10 then Char.ofNat (48 + n) else Char.ofNat (87 + n)

/-- The last `width` hexadecimal digits of a number. -/
def hex (width n : Nat) : Text :=
  match width with
  | 0 => []
  | w + 1 => hex w (n / 16) ++ [hexDigit (n % 16)]

/-- The value of a hexadecimal digit in either case. -/
def hexValue? (c : Char) : Option Nat :=
  let n := c.toNat
  if 48 ≤ n ∧ n ≤ 57 then some (n - 48)
  else if 97 ≤ n ∧ n ≤ 102 then some (n - 87)
  else if 65 ≤ n ∧ n ≤ 70 then some (n - 55)
  else none

/-- One of the ten digits `0` to `9`. -/
def isDigit (c : Char) : Bool := 48 ≤ c.toNat && c.toNat ≤ 57

/-- The number that a run of digits `0` to `9` writes. -/
def natValue (t : Text) : Nat := t.foldl (fun n c => n * 10 + (c.toNat - 48)) 0

end Text

end ClassTidy
