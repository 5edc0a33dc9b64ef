/-
  ClassTidy.Text.Blank — the wide set of blank characters and what trimming means.

  Two sets of blanks occur. Classes are separated by five characters only
  (`ClassTidy.ClassList.isSeparator`). The wide set here decides whether a text has
  anything in it at all, what `\s` means in a pattern, and what is trimmed off the ends
  of a collapsed class string.
-/
import ClassTidy.Text.Basic

namespace ClassTidy.Text

/-- The wide set of blanks: white space of any script and the four information separators. -/
def isBlank (c : Char) : Bool :=
  let n := c.toNat
  (9 ≤ n && n ≤ 13) || (28 ≤ n && n ≤ 32) || n == 0x85 || n == 0xA0 || n == 0x1680 ||
  (0x2000 ≤ n && n ≤ 0x200A) || n == 0x2028 || n == 0x2029 || n == 0x202F || n == 0x205F || n == 0x3000

/-- Nothing but blanks; the empty text counts. -/
def isBlankOnly (t : Text) : Bool := t.all isBlank

/-- A text without the blanks in front. -/
def dropLeading (t : Text) : Text := t.dropWhile isBlank

/-- A text without the blanks behind. -/
def dropTrailing (t : Text) : Text := (t.reverse.dropWhile isBlank).reverse

/-- A non-empty run of blanks in front becomes `r`. -/
def replaceLeading (r t : Text) : Text :=
  match t with
  | [] => []
  | c :: _ => if isBlank c then r ++ dropLeading t else t

/-- A non-empty run of blanks behind becomes `r`. -/
def replaceTrailing (r t : Text) : Text :=
  match t.reverse with
  | [] => []
  | c :: _ => if isBlank c then dropTrailing t ++ r else t

/-- A text without the blanks at either end. -/
def trim (t : Text) : Text := dropTrailing (dropLeading t)

end ClassTidy.Text
