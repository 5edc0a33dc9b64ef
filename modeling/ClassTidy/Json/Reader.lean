/-
  ClassTidy.Json.Reader — text to value.

  The grammar is strict: no comments, no comma before a closing bracket, no leading
  zeros, no raw control characters in strings, no half surrogate pairs. A field that is
  written twice keeps its first place and its last value. An integer outside the reader's
  bounds is read as a binary fraction, and a number past the largest fraction is refused.
  A `none` refuses the whole text; no reason is kept, `Json.faultMessage` stands for all.

  Every reader takes text and gives back what it read and the text that follows. Nesting
  is bounded by `depth`; `fuel` bounds the number of calls inside each other, and twice
  the length of the text is always enough, since every other call takes a character.
-/
import ClassTidy.Json.Basic

namespace ClassTidy.Json

/-- Which integers a reader keeps as integers, and how deep values may nest. -/
structure Limits where
  least : Option Int
  greatest : Option Int
  depth : Nat

/-- Files: integers of 64 bits with or without sign, 1024 levels. -/
def Limits.file : Limits := ⟨some (-9223372036854775808), some 18446744073709551615, 1024⟩

/-- What is said of a text that is not JSON. -/
def faultMessage : String := "not a valid JSON text"

def Limits.admits (l : Limits) (n : Int) : Bool :=
  (match l.least with
    | some a => decide (a ≤ n)
    | none => true) &&
  (match l.greatest with
    | some b => decide (n ≤ b)
    | none => true)

def isSpace (c : Char) : Bool := c == ' ' || c == '\t' || c == '\n' || c == '\r'

def skipSpace (t : Text) : Text := t.dropWhile isSpace

/-! ## Strings -/

/-- Four hexadecimal digits off the front. -/
def hex4 : Text → Option (Nat × Text)
  | a :: b :: c :: d :: t => do
    let a ← Text.hexValue? a
    let b ← Text.hexValue? b
    let c ← Text.hexValue? c
    let d ← Text.hexValue? d
    return (((a * 16 + b) * 16 + c) * 16 + d, t)
  | _ => none

/-- The character after `\u`: a code point, or a surrogate pair written as two. -/
def unicodeEscape (t : Text) : Option (Char × Text) := do
  let (n, t) ← hex4 t
  if 0xD800 ≤ n ∧ n < 0xDC00 then
    match t with
    | '\\' :: 'u' :: t => do
      let (m, t) ← hex4 t
      if 0xDC00 ≤ m ∧ m < 0xE000 then
        return (Char.ofNat (0x10000 + (n - 0xD800) * 0x400 + (m - 0xDC00)), t)
      else none
    | _ => none
  else if 0xDC00 ≤ n ∧ n < 0xE000 then none
  else return (Char.ofNat n, t)

/-- The character after a backslash. -/
def escape : Text → Option (Char × Text)
  | '"' :: t => some ('"', t)
  | '\\' :: t => some ('\\', t)
  | '/' :: t => some ('/', t)
  | 'b' :: t => some ('\x08', t)
  | 'f' :: t => some ('\x0c', t)
  | 'n' :: t => some ('\n', t)
  | 'r' :: t => some ('\r', t)
  | 't' :: t => some ('\t', t)
  | 'u' :: t => unicodeEscape t
  | _ => none

/-- A string after its opening quote. -/
def stringTail : Nat → Text → Option (Text × Text)
  | 0, _ => none
  | _ + 1, [] => none
  | fuel + 1, c :: t =>
    if c = '"' then some ([], t)
    else if c = '\\' then do
      let (c, t) ← escape t
      let (s, t) ← stringTail fuel t
      return (c :: s, t)
    else if c.toNat < 0x20 then none
    else do
      let (s, t) ← stringTail fuel t
      return (c :: s, t)

/-! ## Numbers -/

/-- The digits before the point: `0`, or digits that do not start with `0`. -/
def wholePart (t : Text) : Option (Text × Text) :=
  match t.takeWhile Text.isDigit with
  | [] => none
  | '0' :: _ :: _ => none
  | ds => some (ds, t.dropWhile Text.isDigit)

/-- The digits after a point, if there is one. -/
def fractionPart : Text → Option (Option Text × Text)
  | '.' :: t =>
    match t.takeWhile Text.isDigit with
    | [] => none
    | ds => some (some ds, t.dropWhile Text.isDigit)
  | t => some (none, t)

/-- The exponent after `e`: its sign and digits. -/
def exponentDigits (negative : Bool) (t : Text) : Option (Option Int × Text) :=
  match t.takeWhile Text.isDigit with
  | [] => none
  | ds =>
    let n : Int := Text.natValue ds
    some (some (if negative then -n else n), t.dropWhile Text.isDigit)

/-- The exponent, if there is one. -/
def exponentPart : Text → Option (Option Int × Text)
  | c :: t =>
    if c = 'e' ∨ c = 'E' then
      match t with
      | '+' :: t => exponentDigits false t
      | '-' :: t => exponentDigits true t
      | t => exponentDigits false t
    else some (none, c :: t)
  | [] => some (none, [])

/-- A number after its sign. -/
def number (l : Limits) (negative : Bool) (t : Text) : Option (Json × Text) := do
  let (whole, t) ← wholePart t
  let (fraction, t) ← fractionPart t
  let (exponent, t) ← exponentPart t
  match fraction, exponent with
  | none, none =>
    let n : Int := Text.natValue whole
    let n := if negative then -n else n
    if l.admits n then return (.int n, t)
    else return (.float (← Number.Binary64.ofDecimal negative (Text.natValue whole) 0), t)
  | _, _ =>
    let f := fraction.getD []
    let e := exponent.getD 0 - f.length
    return (.float (← Number.Binary64.ofDecimal negative (Text.natValue (whole ++ f)) e), t)

/-! ## Values -/

/-- A word that stands for a value. -/
def word (w : String) (v : Json) (t : Text) : Option (Json × Text) :=
  if w.toList.isPrefixOf t then some (v, t.drop w.length) else none

mutual

/-- A value at the front of a text that starts with no blank. -/
def value (l : Limits) : Nat → Nat → Text → Option (Json × Text)
  | 0, _, _ => none
  | _ + 1, _, [] => none
  | fuel + 1, depth, c :: t =>
    if c = '"' then do
      let (s, t) ← stringTail (t.length + 1) t
      return (.str s, t)
    else if c = '[' then
      match depth with
      | 0 => none
      | depth + 1 =>
        match skipSpace t with
        | ']' :: t => some (.arr [], t)
        | t => do
          let (items, t) ← elements l fuel depth t
          return (.arr items, t)
    else if c = '\x7b' then
      match depth with
      | 0 => none
      | depth + 1 =>
        match skipSpace t with
        | '\x7d' :: t => some (.obj [], t)
        | t => do
          let (fields, t) ← members l fuel depth [] t
          return (.obj fields, t)
    else if c = '-' then number l true t
    else if c = 't' then word "true" (.bool true) (c :: t)
    else if c = 'f' then word "false" (.bool false) (c :: t)
    else if c = 'n' then word "null" .null (c :: t)
    else number l false (c :: t)

/-- The items of an array from the first one on, to its closing bracket. -/
def elements (l : Limits) : Nat → Nat → Text → Option (List Json × Text)
  | 0, _, _ => none
  | fuel + 1, depth, t => do
    let (v, t) ← value l fuel depth t
    match skipSpace t with
    | ',' :: t => do
      let (vs, t) ← elements l fuel depth (skipSpace t)
      return (v :: vs, t)
    | ']' :: t => return ([v], t)
    | _ => none

/-- The fields of an object from one on, put after those already read, to its closing brace. -/
def members (l : Limits) : Nat → Nat → Fields → Text → Option (Fields × Text)
  | 0, _, _, _ => none
  | fuel + 1, depth, before, t =>
    match t with
    | '"' :: t => do
      let (name, t) ← stringTail (t.length + 1) t
      match skipSpace t with
      | ':' :: t => do
        let (v, t) ← value l fuel depth (skipSpace t)
        let fields := put before name v
        match skipSpace t with
        | ',' :: t => members l fuel depth fields (skipSpace t)
        | '\x7d' :: t => return (fields, t)
        | _ => none
      | _ => none
    | _ => none

end

/-- Reads a whole text. -/
def read? (l : Limits) (t : Text) : Option Json :=
  match value l (2 * t.length + 2) l.depth (skipSpace t) with
  | some (v, rest) => if (skipSpace rest).isEmpty then some v else none
  | none => none

end ClassTidy.Json
