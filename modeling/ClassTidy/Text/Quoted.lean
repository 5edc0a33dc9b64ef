/-
  ClassTidy.Text.Quoted — a text as a message shows it between quotes.

  The quote is `'`, or `"` for a text that has a `'` and no `"`. The quote in use and the
  backslash get a backslash; newline, return and tab have names; every other code point
  that is not printable is spelled in hexadecimal, with as few digits of 2, 4, 8 as fit.
-/
import ClassTidy.Text.Basic
import ClassTidy.Text.Printable

namespace ClassTidy.Text

/-- The quote a text is shown in. -/
def quoteFor (t : Text) : Char :=
  if t.contains '\'' && !t.contains '"' then '"' else '\''

/-- One code point between the quotes `q`. -/
def quotedChar (q c : Char) : Text :=
  if c = q ∨ c = '\\' then ['\\', c]
  else if c = '\n' then ['\\', 'n']
  else if c = '\r' then ['\\', 'r']
  else if c = '\t' then ['\\', 't']
  else if isPrintable c.toNat then [c]
  else if c.toNat < 0x100 then '\\' :: 'x' :: hex 2 c.toNat
  else if c.toNat < 0x10000 then '\\' :: 'u' :: hex 4 c.toNat
  else '\\' :: 'U' :: hex 8 c.toNat

/-- A text between quotes. -/
def quoted (t : Text) : Text :=
  let q := quoteFor t
  q :: (t.flatMap (quotedChar q) ++ [q])

end ClassTidy.Text
