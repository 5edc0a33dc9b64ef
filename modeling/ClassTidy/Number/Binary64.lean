/-
  ClassTidy.Number.Binary64 — numbers with a fraction, as 64-bit binary floating point.

  A value is a sign, a mantissa below 2^53 and a power of two. A decimal is rounded to the
  nearest value, a tie going to the even mantissa, and there is none for a decimal past
  the largest. All of it is exact arithmetic on naturals.
-/

namespace ClassTidy.Number

/-- The value `mantissa * 2 ^ exponent`, negated if `negative`. -/
structure Binary64 where
  negative : Bool
  mantissa : Nat
  exponent : Int
  deriving DecidableEq, Repr

namespace Binary64

/-- The least power of two of a value. -/
def leastExponent : Int := -1074

/-- The greatest power of two of a value. -/
def greatestExponent : Int := 971

def zero (negative : Bool) : Binary64 := ⟨negative, 0, leastExponent⟩

/-- A quotient rounded to the nearest natural, a tie going to the even one. -/
def roundDiv (n d : Nat) : Nat :=
  let q := n / d
  let r := n % d
  if 2 * r < d then q
  else if d < 2 * r then q + 1
  else if q % 2 = 0 then q else q + 1

/-- The quotient `n / d` divided by `2 ^ q`, as numerator and denominator. -/
def scale (n d : Nat) (q : Int) : Nat × Nat :=
  match q with
  | .ofNat k => (n, d * Nat.pow 2 k)
  | .negSucc k => (n * Nat.pow 2 (k + 1), d)

/-- The value nearest to `n / d`; none past the largest value. -/
def ofRatio (negative : Bool) (n d : Nat) : Option Binary64 :=
  if n = 0 then some (zero negative)
  else
    let guess : Int := (Nat.log2 n : Int) - (Nat.log2 d : Int) - 53
    let q0 := max leastExponent guess
    let (a0, b0) := scale n d q0
    let q := if Nat.pow 2 53 ≤ a0 / b0 then q0 + 1 else q0
    let (a, b) := scale n d q
    let m := roundDiv a b
    let (m, q) := if m = Nat.pow 2 53 then (Nat.pow 2 52, q + 1) else (m, q)
    if greatestExponent < q then none else some ⟨negative, m, q⟩

/-- The value nearest to `digits * 10 ^ exponent`; none past the largest value. -/
def ofDecimal (negative : Bool) (digits : Nat) (exponent : Int) : Option Binary64 :=
  let size : Int := (Nat.toDigits 10 digits).length
  if digits = 0 ∨ size + exponent < -330 then some (zero negative)
  else if 330 < size + exponent then none
  else match exponent with
    | .ofNat e => ofRatio negative (digits * Nat.pow 10 e) 1
    | .negSucc e => ofRatio negative digits (Nat.pow 10 (e + 1))

end Binary64

end ClassTidy.Number
