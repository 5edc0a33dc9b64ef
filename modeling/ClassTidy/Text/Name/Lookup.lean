/-
  ClassTidy.Text.Name.Lookup — the character with a name.

  Names are compared with capitals and small letters alike. Two families are not listed,
  and have to be written in capitals: ideographs, named for their code points, and Hangul
  syllables, named for the letters they are made of.
-/
import ClassTidy.Text.Name.Alias
import ClassTidy.Text.Name.Basic
import ClassTidy.Text.Name.ListingA
import ClassTidy.Text.Name.ListingB
import ClassTidy.Text.Name.ListingC
import ClassTidy.Text.Name.ListingD
import ClassTidy.Text.Name.ListingE
import ClassTidy.Text.Name.ListingF
import ClassTidy.Text.Name.ListingG
import ClassTidy.Text.Name.ListingH

namespace ClassTidy.Text.Name

/-! ## Hangul syllables -/

def leadingLetters : List String :=
  ["G", "GG", "N", "D", "DD", "R", "M", "B", "BB", "S", "SS", "", "J", "JJ", "C", "K", "T", "P", "H"]

def vowels : List String := [
  "A", "AE", "YA", "YAE", "EO", "E", "YEO", "YE", "O", "WA", "WAE", "OE", "YO", "U", "WEO", "WE", "WI",
    "YU", "EU", "YI", "I"]

def trailingLetters : List String := [
  "", "G", "GG", "GS", "N", "NJ", "NH", "D", "L", "LG", "LM", "LB", "LS", "LT", "LP", "LH", "M", "B",
    "BS", "S", "SS", "NG",
  "J", "C", "K", "T", "P", "H"]

/-- The longest of some texts that a text starts with: its number among them, and its length. -/
def longest? (choices : List String) (t : Text) : Option (Nat × Nat) :=
  choices.zipIdx.foldl (fun best (s, i) =>
    if s.toList.isPrefixOf t && (match best with
        | some (_, n) => n < s.length
        | none => true)
    then some (i, s.length) else best) none

/-- The syllable made of letters: of each kind the longest that fits. -/
def syllable? (t : Text) : Option Nat := do
  let (l, a) ← longest? leadingLetters t
  let (v, b) ← longest? vowels (t.drop a)
  let (f, c) ← longest? trailingLetters (t.drop (a + b))
  if a + b + c = t.length then some (0xAC00 + (l * vowels.length + v) * trailingLetters.length + f) else none

/-! ## Ideographs -/

def ideographs : List (Nat × Nat) := [
  (0x3400, 0x4DBF), (0x4E00, 0x9FFF), (0x20000, 0x2A6DF), (0x2A700, 0x2B738), (0x2B740, 0x2B81D), (0x2B820, 0x2CEA1),
  (0x2CEB0, 0x2EBE0), (0x30000, 0x3134A)]

/-- The ideograph with a code point in four or five digits. -/
def ideograph? (t : Text) : Option Nat :=
  if (t.length = 4 || t.length = 5) && t.all (fun c => isDigit c || ('A' ≤ c && c ≤ 'F')) then
    let n := t.foldl (fun n c => n * 16 + (hexValue? c).getD 0) 0
    if ideographs.any fun r => r.1 ≤ n && n ≤ r.2 then some n else none
  else none

/-! ## All names -/

def listings : List (List String) := [listingA, listingB, listingC, listingD, listingE, listingF, listingG, listingH]

def syllableStart : Text := "HANGUL SYLLABLE ".toList

def ideographStart : Text := "CJK UNIFIED IDEOGRAPH-".toList

end ClassTidy.Text.Name

namespace ClassTidy.Text

/-- The code point of the character with a name. -/
def named? (t : Text) : Option Nat :=
  if Name.syllableStart.isPrefixOf t then Name.syllable? (t.drop Name.syllableStart.length)
  else if Name.ideographStart.isPrefixOf t then Name.ideograph? (t.drop Name.ideographStart.length)
  else
    let wanted := t.map Char.toUpper
    match Name.alias? wanted with
    | some n => some n
    | none => Name.listings.findSome? fun l => Name.find? l wanted

end ClassTidy.Text
