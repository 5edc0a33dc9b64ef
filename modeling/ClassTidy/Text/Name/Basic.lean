/-
  ClassTidy.Text.Name.Basic — listings of names, shortened.

  A listing names characters in the order of their code points. A colon and hexadecimal
  digits give the code point of the next name; from there on they are counted up. Every
  name is given as its difference from the one before: small letters, `a` for 0 to `z` for
  25, whose sum says how many characters it shares with it, and then the characters in
  which it goes on. Names have capitals, digits, blanks and hyphens only, so the three do
  not get mixed up.
-/
import ClassTidy.Text.Basic

namespace ClassTidy.Text.Name

/-- What a reader of listings is about to read. -/
inductive Phase where
  | code
  | shared
  | tail
  deriving DecidableEq, Repr

/-- How far a listing has been read in search of a name. -/
structure Walk where
  phase : Phase := .code
  /-- The code point of the name being read. -/
  code : Nat := 0
  /-- The name before it. -/
  earlier : Text := []
  /-- How much of that it shares. -/
  shared : Nat := 0
  /-- What it goes on with, the last character in front. -/
  tail : Text := []
  found : Option Nat := none
  deriving DecidableEq, Repr

namespace Walk

/-- The name being read. -/
def name (w : Walk) : Text := w.earlier.take w.shared ++ w.tail.reverse

/-- Ends the name being read, if there is one. -/
def close (wanted : Text) (w : Walk) : Walk :=
  match w.phase with
  | .tail =>
    { phase := .shared, code := w.code + 1, earlier := w.name,
      found := if w.name = wanted then some w.code else w.found }
  | _ => w

/-- Reads one character of a listing. -/
def step (wanted : Text) (w : Walk) (c : Char) : Walk :=
  if c = ':' then { w.close wanted with phase := .code, code := 0 }
  else if 'a' ≤ c then
    let w := w.close wanted
    { w with phase := .shared, shared := w.shared + (c.toNat - 97) }
  else
    match w.phase with
    | .code => { w with code := w.code * 16 + (hexValue? c).getD 0 }
    | _ => { w with phase := .tail, tail := c :: w.tail }

end Walk

/-- The code point that a listing gives for a name. -/
def find? (listing : List String) (wanted : Text) : Option Nat :=
  ((listing.foldl (fun (w : Walk) line => line.toList.foldl (Walk.step wanted) w) {}).close wanted).found

end ClassTidy.Text.Name
