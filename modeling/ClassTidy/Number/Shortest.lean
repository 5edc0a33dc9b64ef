/-
  ClassTidy.Number.Shortest — the fewest digits that read back, and how they are laid out.

  A binary value stands for the interval of reals that round to it (its ends belong to it
  if its mantissa is even). Of the decimals with 1, 2, 3, … digits, the first that falls
  into the interval is taken, of two with as many digits the nearer. A `Layout` says where
  the point goes and when an exponent is written.
-/
import ClassTidy.Text.Basic
import ClassTidy.Number.Binary64

namespace ClassTidy.Number

/-- Digits `d₁d₂…` with the point after `point` of them: `0.d₁d₂… * 10 ^ point`. -/
structure Digits where
  digits : Text
  point : Int

/-- How digits are laid out. -/
structure Layout where
  /-- Positional notation is used while the point lies above this place … -/
  above : Int
  /-- … and not above that one. -/
  upTo : Int
  /-- Whether a positive exponent gets a `+`. -/
  plus : Bool
  /-- The least number of digits of an exponent. -/
  width : Nat

namespace Shortest

/-- The least `e` from `e` on, within `fuel` steps, with `n < d * 10 ^ e`. -/
def pointFrom (n d : Nat) : Nat → Nat → Nat
  | 0, e => e
  | fuel + 1, e => if n < d * Nat.pow 10 e then e else pointFrom n d fuel (e + 1)

/-- The greatest `e`, within `fuel` steps from `e`, with `n * 10 ^ e < d`. -/
def depthFrom (n d : Nat) : Nat → Nat → Nat
  | 0, e => e
  | fuel + 1, e => if n * Nat.pow 10 (e + 1) < d then depthFrom n d fuel (e + 1) else e

/-- The place of the point: the `p` with `10 ^ (p - 1) ≤ n / d < 10 ^ p`. -/
def place (n d : Nat) : Int :=
  if d ≤ n then pointFrom n d 310 1 else -(depthFrom n d 330 0 : Int)

/-- Whether `c * 10 ^ k` lies in the interval of `m * 2 ^ q`; distances are in quarters of `2 ^ q`. -/
def inside (m : Nat) (q : Int) (lowQuarters : Nat) (c : Nat) (k : Int) : Bool :=
  -- Both numbers times 4, brought to whole numbers by one common factor.
  let two : Nat := if q < 0 then Nat.pow 2 q.natAbs else 1
  let ten : Nat := if k < 0 then Nat.pow 10 k.natAbs else 1
  let value := 4 * m * (if q < 0 then 1 else Nat.pow 2 q.natAbs) * ten
  let unit := (if q < 0 then 1 else Nat.pow 2 q.natAbs) * ten
  let point := 4 * c * (if k < 0 then 1 else Nat.pow 10 k.natAbs) * two
  if m % 2 = 0 then value ≤ point + lowQuarters * unit && point ≤ value + 2 * unit
  else value < point + lowQuarters * unit && point < value + 2 * unit

/-- The digits of the decimal with `count` digits that stands for `m * 2 ^ q`, if there is one. -/
def attempt (m : Nat) (q : Int) (lowQuarters : Nat) (n d : Nat) (p : Int) (count : Nat) : Option (Nat × Int) :=
  let k := p - count
  let a := if k < 0 then n * Nat.pow 10 k.natAbs else n
  let b := if k < 0 then d else d * Nat.pow 10 k.natAbs
  let c := a / b
  let low := inside m q lowQuarters c k
  let high := inside m q lowQuarters (c + 1) k
  let nearer := if 2 * (a % b) < b then true else if b < 2 * (a % b) then false else c % 2 == 0
  if low && (nearer || !high) then some (c, k)
  else if high then some (c + 1, k)
  else none

def search (m : Nat) (q : Int) (lowQuarters : Nat) (n d : Nat) (p : Int) : Nat → Nat → Nat × Int
  | 0, _ => (m, 0)
  | fuel + 1, count =>
    match attempt m q lowQuarters n d p count with
    | some r => r
    | none => search m q lowQuarters n d p fuel (count + 1)

/-- Zeros at the end of a mantissa move into the power of ten. -/
def strip : Nat → Nat → Int → Nat × Int
  | 0, c, k => (c, k)
  | fuel + 1, c, k => if c ≠ 0 ∧ c % 10 = 0 then strip fuel (c / 10) (k + 1) else (c, k)

/-- The shortest digits that read back as `m * 2 ^ q`. -/
def digits (m : Nat) (q : Int) : Digits :=
  if m = 0 then ⟨['0'], 1⟩
  else
    let n := if q < 0 then m else m * Nat.pow 2 q.natAbs
    let d := if q < 0 then Nat.pow 2 q.natAbs else 1
    let lowQuarters := if m = Nat.pow 2 52 ∧ Binary64.leastExponent < q then 1 else 2
    let (c, k) := search m q lowQuarters n d (place n d) 17 1
    let (c, k) := strip 20 c k
    let ds := Text.ofNat c
    ⟨ds, ds.length + k⟩

end Shortest

/-- The exponent after its mark. -/
def Layout.exponent (l : Layout) (e : Int) : Text :=
  let ds := Text.ofNat e.natAbs
  let sign := if e < 0 then ['-'] else if l.plus then ['+'] else []
  sign ++ List.replicate (l.width - ds.length) '0' ++ ds

/-- Digits with point and exponent; a whole number keeps `.0`. -/
def Layout.write (l : Layout) (v : Digits) : Text :=
  if l.above < v.point ∧ v.point ≤ l.upTo then
    if v.point ≤ 0 then "0.".toList ++ List.replicate v.point.natAbs '0' ++ v.digits
    else
      let p := v.point.natAbs
      if v.digits.length ≤ p then v.digits ++ List.replicate (p - v.digits.length) '0' ++ ".0".toList
      else v.digits.take p ++ '.' :: v.digits.drop p
  else
    let tail := match v.digits.drop 1 with
      | [] => []
      | ds => '.' :: ds
    v.digits.take 1 ++ tail ++ 'e' :: l.exponent (v.point - 1)

/-- A value in the given layout. -/
def Binary64.write (x : Binary64) (l : Layout) : Text :=
  (if x.negative then ['-'] else []) ++ l.write (Shortest.digits x.mantissa x.exponent)

end ClassTidy.Number
