/-
  ClassTidy.Text.Utf8 — text as octets, and where octets are not text.

  A character is a lead octet and as many tails as the lead asks for; the lead also fixes
  the range of the first tail, which rules out long spellings, surrogates and code points
  past the last plane. Decoding stops at the first octet that starts no character and says
  which octets are at fault: a lead that can start nothing, a tail out of range, or an end
  inside a character.
-/
import ClassTidy.Text.Basic

namespace ClassTidy.Text.Utf8

/-- Why octets from some position on are not a character. -/
inductive Reason where
  | badStart
  | badContinuation
  | unexpectedEnd
  deriving DecidableEq, Repr

/-- The octets at fault: `length` of them from `start` on; `octet` is the first. -/
structure Fault where
  start : Nat
  length : Nat
  octet : Nat
  reason : Reason
  deriving DecidableEq, Repr

def Reason.message : Reason → String
  | .badStart => "invalid start byte"
  | .badContinuation => "invalid continuation byte"
  | .unexpectedEnd => "unexpected end of data"

def Fault.message (f : Fault) : String :=
  let place :=
    if f.length ≤ 1 then
      "byte 0x" ++ String.ofList (hex 2 f.octet) ++ " in position " ++ toString f.start
    else
      "bytes in position " ++ toString f.start ++ "-" ++ toString (f.start + f.length - 1)
  "'utf-8' codec can't decode " ++ place ++ ": " ++ f.reason.message

/-- What a lead octet asks for. -/
structure Lead where
  /-- The bits that the lead itself gives. -/
  bits : Nat
  tails : Nat
  /-- The least and the greatest first tail. -/
  low : Nat
  high : Nat

def lead? (b : Nat) : Option Lead :=
  if b < 0x80 then some ⟨b, 0, 0x80, 0xBF⟩
  else if b < 0xC2 then none
  else if b < 0xE0 then some ⟨b - 0xC0, 1, 0x80, 0xBF⟩
  else if b = 0xE0 then some ⟨0, 2, 0xA0, 0xBF⟩
  else if b = 0xED then some ⟨0xD, 2, 0x80, 0x9F⟩
  else if b < 0xF0 then some ⟨b - 0xE0, 2, 0x80, 0xBF⟩
  else if b = 0xF0 then some ⟨0, 3, 0x90, 0xBF⟩
  else if b < 0xF4 then some ⟨b - 0xF0, 3, 0x80, 0xBF⟩
  else if b = 0xF4 then some ⟨4, 3, 0x80, 0x8F⟩
  else none

/-- Reads tails: the code point and the rest, or how many tails were good and what stopped them. -/
def tails (acc read : Nat) : Nat → Nat → Nat → List UInt8 → Except (Nat × Reason) (Nat × List UInt8)
  | 0, _, _, bs => .ok (acc, bs)
  | _ + 1, _, _, [] => .error (read, .unexpectedEnd)
  | n + 1, low, high, b :: bs =>
    if low ≤ b.toNat ∧ b.toNat ≤ high then
      tails (acc * 64 + (b.toNat - 0x80)) (read + 1) n 0x80 0xBF bs
    else .error (read, .badContinuation)

/-- One character off the front with the octets it took, or the octets at fault at position `i`. -/
def next (i : Nat) (b : UInt8) (bs : List UInt8) : Except Fault (Char × Nat × List UInt8) :=
  match lead? b.toNat with
  | none => .error ⟨i, 1, b.toNat, .badStart⟩
  | some l =>
    match tails l.bits 0 l.tails l.low l.high bs with
    | .ok (n, rest) => .ok (Char.ofNat n, l.tails + 1, rest)
    | .error (read, why) => .error ⟨i, read + 1, b.toNat, why⟩

/-- Decodes at most `fuel` characters, the first of them at position `i`. -/
def decodeFrom (i : Nat) : Nat → List UInt8 → Except Fault Text
  | _, [] => .ok []
  | 0, _ :: _ => .ok []
  | fuel + 1, b :: bs =>
    match next i b bs with
    | .error f => .error f
    | .ok (c, taken, rest) =>
      match decodeFrom (i + taken) fuel rest with
      | .error f => .error f
      | .ok t => .ok (c :: t)

/-- The text that octets spell, or the first octets at fault. -/
def decode (bs : List UInt8) : Except Fault Text := decodeFrom 0 bs.length bs

/-- The octets of one code point. -/
def encodeChar (c : Char) : List UInt8 :=
  let n := c.toNat
  if n < 0x80 then [n.toUInt8]
  else if n < 0x800 then [(0xC0 + n / 64).toUInt8, (0x80 + n % 64).toUInt8]
  else if n < 0x10000 then
    [(0xE0 + n / 4096).toUInt8, (0x80 + n / 64 % 64).toUInt8, (0x80 + n % 64).toUInt8]
  else
    [(0xF0 + n / 262144).toUInt8, (0x80 + n / 4096 % 64).toUInt8, (0x80 + n / 64 % 64).toUInt8,
      (0x80 + n % 64).toUInt8]

/-- The octets of a text. -/
def encode (t : Text) : List UInt8 := t.flatMap encodeChar

end ClassTidy.Text.Utf8
