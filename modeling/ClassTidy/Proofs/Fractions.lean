/-
  ClassTidy.Proofs.Fractions — which decimals have a binary fraction near them.

  A quotient is scaled by a power of two until it lies below `2 ^ 53`, and not below `2 ^ 52`
  unless the power is the least one (`scaled`). Rounding can carry it to `2 ^ 53`, from
  `2 ^ 53 - 1/2` on, since a tie goes to the even side (`le_roundDiv`). There is no value
  exactly if the power is then too large.

  Proved (`ofDecimal_eq_none`): a decimal has no value exactly if it is at least halfway from the
  largest value to the next power of two.
-/
import Mathlib.Algebra.Order.Field.Power
import Mathlib.Data.Nat.Digits.Lemmas
import Mathlib.Tactic.Linarith
import Mathlib.Tactic.NormNum
import Mathlib.Tactic.Positivity
import Mathlib.Tactic.Ring
import ClassTidy.Number.Binary64

namespace ClassTidy.Number.Binary64

/-- Where decimals stop having a value: halfway from the largest one to the next power of two. -/
def overflow : ℚ := (2 ^ 54 - 1) * 2 ^ 970

theorem le_overflow : (2 : ℚ) ^ 53 * 2 ^ 970 ≤ overflow := mul_le_mul_of_nonneg_right (by norm_num) (by positivity)

theorem overflow_le : overflow ≤ 2 ^ 52 * 2 ^ 972 := by
  have hpos : (0 : ℚ) ≤ 2 ^ 970 := by positivity
  unfold overflow
  rw [pow_add (2 : ℚ) 970 2]
  generalize (2 : ℚ) ^ 970 = p at hpos
  linarith

theorem overflow_le_ten : overflow ≤ 10 ^ (33 * 10) := by
  calc overflow ≤ 2 ^ 52 * 2 ^ 972 := overflow_le
    _ = 2 ^ (52 + 972) := (pow_add 2 52 972).symm
    _ ≤ 2 ^ (109 * 10) := pow_le_pow_right₀ one_le_two (by decide)
    _ = (2 ^ 109) ^ 10 := pow_mul 2 109 10
    _ ≤ (10 ^ 33) ^ 10 := pow_le_pow_left₀ (by positivity) (by norm_num) 10
    _ = 10 ^ (33 * 10) := (pow_mul 10 33 10).symm

/-! ## Rounding -/

theorem le_roundDiv {n d k : Nat} (hd : 0 < d) (heven : k % 2 = 0) :
    k ≤ roundDiv n d ↔ 2 * (k * d) ≤ 2 * n + d := by
  have hn : n / d * d + n % d = n := by rw [Nat.mul_comm]; exact Nat.div_add_mod n d
  have hr : n % d < d := Nat.mod_lt n hd
  unfold roundDiv
  generalize n / d = q at hn
  generalize n % d = r at hn hr
  -- only at `q + 1` does the remainder count
  rcases lt_trichotomy k (q + 1) with hlt | rfl | hgt
  · have hmul : k * d ≤ q * d := Nat.mul_le_mul_right d (by omega)
    refine iff_of_true ?_ (by omega)
    dsimp only
    split_ifs <;> omega
  · have hodd : q % 2 = 1 := by omega
    rw [Nat.add_mul, Nat.one_mul]
    dsimp only
    split_ifs <;> omega
  · have hmul : (q + 2) * d ≤ k * d := Nat.mul_le_mul_right d (by omega)
    rw [Nat.add_mul] at hmul
    refine iff_of_false ?_ (by omega)
    dsimp only
    split_ifs <;> omega

theorem roundDiv_le (n d : Nat) : roundDiv n d ≤ n / d + 1 := by
  unfold roundDiv
  dsimp only
  split_ifs <;> omega

/-! ## Scaling -/

theorem scale_pos {n d : Nat} (hd : 0 < d) (q : Int) : 0 < (scale n d q).2 := by
  cases q with
  | ofNat k => exact Nat.mul_pos hd (Nat.pow_pos (by decide))
  | negSucc k => exact hd

theorem scale_ratio (n d : Nat) (q : Int) : ((scale n d q).1 : ℚ) / (scale n d q).2 = n / d / 2 ^ q := by
  cases q with
  | ofNat k => simp [scale, div_div]
  | negSucc k =>
    rw [zpow_negSucc, div_inv_eq_mul]
    simp only [scale, Nat.pow_eq, Nat.cast_mul, Nat.cast_pow, Nat.cast_ofNat]
    ring

/-- The power of two that a quotient is scaled by. -/
def power (n d : Nat) : Int :=
  let q := max leastExponent ((Nat.log2 n : Int) - (Nat.log2 d : Int) - 53)
  if Nat.pow 2 53 ≤ (scale n d q).1 / (scale n d q).2 then q + 1 else q

theorem ofRatio_eq_none_iff_power {negative : Bool} {n d : Nat} (hn : n ≠ 0) :
    ofRatio negative n d = none ↔
      greatestExponent < power n d ∨
        power n d = greatestExponent ∧ roundDiv (scale n d (power n d)).1 (scale n d (power n d)).2 = 2 ^ 53 := by
  unfold ofRatio
  rw [if_neg hn]
  let rounded : Nat × Int :=
    if roundDiv (scale n d (power n d)).1 (scale n d (power n d)).2 = 2 ^ 53 then (2 ^ 52, power n d + 1)
    else (roundDiv (scale n d (power n d)).1 (scale n d (power n d)).2, power n d)
  change (if greatestExponent < rounded.2 then none else some (Binary64.mk negative rounded.1 rounded.2)) = none ↔ _
  unfold rounded
  by_cases hcarry : roundDiv (scale n d (power n d)).1 (scale n d (power n d)).2 = 2 ^ 53
  · rw [if_pos hcarry]
    simp only [ite_eq_left_iff, reduceCtorEq, imp_false, not_not, hcarry, and_true]
    omega
  · rw [if_neg hcarry]
    simp only [ite_eq_left_iff, reduceCtorEq, imp_false, not_not, hcarry, and_false, or_false]

/-- A quotient lies between the powers of two that the lengths of its parts give. -/
theorem ratio_bounds {n d : Nat} (hn : n ≠ 0) (hd : d ≠ 0) :
    (2 : ℚ) ^ ((Nat.log2 n : Int) - Nat.log2 d - 1) ≤ n / d ∧
    (n / d : ℚ) < 2 ^ ((Nat.log2 n : Int) - Nat.log2 d + 1) := by
  have hlow : (2 : ℚ) ^ Nat.log2 n ≤ n := by exact_mod_cast Nat.log2_self_le hn
  have hhigh : (n : ℚ) < 2 ^ (Nat.log2 n + 1) := by exact_mod_cast Nat.lt_log2_self
  have hlow' : (2 : ℚ) ^ Nat.log2 d ≤ d := by exact_mod_cast Nat.log2_self_le hd
  have hhigh' : (d : ℚ) < 2 ^ (Nat.log2 d + 1) := by exact_mod_cast Nat.lt_log2_self
  have hd' : (0 : ℚ) < d := by exact_mod_cast Nat.pos_of_ne_zero hd
  constructor
  · rw [le_div_iff₀ hd']
    calc (2 : ℚ) ^ ((Nat.log2 n : Int) - Nat.log2 d - 1) * d
        ≤ 2 ^ ((Nat.log2 n : Int) - Nat.log2 d - 1) * 2 ^ (Nat.log2 d + 1) := by gcongr
      _ = 2 ^ Nat.log2 n := by
        rw [← zpow_natCast, ← zpow_add₀ two_ne_zero, ← zpow_natCast]
        congr 1
        push_cast
        ring
      _ ≤ n := hlow
  · rw [div_lt_iff₀ hd']
    calc (n : ℚ) < 2 ^ (Nat.log2 n + 1) := hhigh
      _ = 2 ^ ((Nat.log2 n : Int) - Nat.log2 d + 1) * 2 ^ Nat.log2 d := by
        rw [← zpow_natCast, ← zpow_natCast, ← zpow_add₀ two_ne_zero]
        congr 1
        push_cast
        ring
      _ ≤ 2 ^ ((Nat.log2 n : Int) - Nat.log2 d + 1) * d := by gcongr

/-- A scaled quotient lies below `2 ^ 53`, and not below `2 ^ 52` unless the power is about the least. -/
theorem scaled {n d : Nat} (hn : n ≠ 0) (hd : d ≠ 0) :
    (n / d / 2 ^ power n d : ℚ) < 2 ^ 53 ∧
    (leastExponent + 1 < power n d → (2 : ℚ) ^ 52 ≤ n / d / 2 ^ power n d) := by
  obtain ⟨hlow, hhigh⟩ := ratio_bounds hn hd
  generalize hguess : (Nat.log2 n : Int) - (Nat.log2 d : Int) - 53 = guess
  generalize hq : max leastExponent guess = q
  have hpos : (0 : ℚ) < 2 ^ q := by positivity
  have hfloor : 2 ^ 53 ≤ (scale n d q).1 / (scale n d q).2 ↔ (2 : ℚ) ^ 53 * 2 ^ q ≤ n / d := by
    have hb := scale_pos (n := n) (Nat.pos_of_ne_zero hd) q
    rw [Nat.le_div_iff_mul_le hb, ← le_div_iff₀ hpos, ← scale_ratio, le_div_iff₀ (by exact_mod_cast hb)]
    exact_mod_cast Iff.rfl
  have hpower : power n d = if 2 ^ 53 ≤ (scale n d q).1 / (scale n d q).2 then q + 1 else q := by
    subst hq hguess
    rfl
  rw [hpower]
  by_cases h : 2 ^ 53 ≤ (scale n d q).1 / (scale n d q).2
  · rw [if_pos h]
    have hratio := hfloor.mp h
    have hdouble : (2 : ℚ) ^ (q + 1) = 2 ^ q * 2 := zpow_add_one₀ two_ne_zero q
    have hbelow : (n / d : ℚ) < 2 ^ 54 * 2 ^ q := by
      refine hhigh.trans_le ?_
      rw [← zpow_natCast, ← zpow_add₀ two_ne_zero]
      exact zpow_le_zpow_right₀ one_le_two (by push_cast; omega)
    rw [hdouble]
    refine ⟨?_, fun _ => ?_⟩
    · rw [div_lt_iff₀ (by positivity)]
      linarith
    · rw [le_div_iff₀ (by positivity)]
      linarith
  · rw [if_neg h]
    refine ⟨?_, fun hleast => ?_⟩
    · rw [div_lt_iff₀ hpos]
      exact not_le.mp fun hratio => h (hfloor.mpr hratio)
    · rw [le_div_iff₀ hpos]
      refine le_trans ?_ hlow
      rw [← zpow_natCast, ← zpow_add₀ two_ne_zero]
      exact zpow_le_zpow_right₀ one_le_two (by push_cast; omega)

/-! ## Overflow -/

/-- Rounding carries to `2 ^ 53` from half a unit below it. -/
theorem roundDiv_eq_carry {a b : Nat} (hb : 0 < b) (h : (a / b : ℚ) < 2 ^ 53) :
    roundDiv a b = 2 ^ 53 ↔ (2 : ℚ) ^ 53 - 1 / 2 ≤ a / b := by
  have hb' : (0 : ℚ) < b := by exact_mod_cast hb
  have hfloor : a / b < 2 ^ 53 := by
    rw [Nat.div_lt_iff_lt_mul hb]
    rw [div_lt_iff₀ hb'] at h
    exact_mod_cast h
  have hle := roundDiv_le a b
  have hcarry : roundDiv a b = 2 ^ 53 ↔ 2 ^ 53 ≤ roundDiv a b := by omega
  rw [hcarry, le_roundDiv hb rfl, le_div_iff₀ hb']
  constructor
  · intro hround
    have hcast : (2 : ℚ) * (2 ^ 53 * b) ≤ 2 * a + b := by exact_mod_cast hround
    linarith
  · intro hround
    have hcast : (2 : ℚ) * (2 ^ 53 * b) ≤ 2 * a + b := by linarith
    exact_mod_cast hcast

theorem ofRatio_eq_none {negative : Bool} {n d : Nat} (hd : d ≠ 0) :
    ofRatio negative n d = none ↔ overflow ≤ n / d := by
  by_cases hn : n = 0
  · subst hn
    refine iff_of_false (by simp [ofRatio]) ?_
    norm_num [overflow]
  · obtain ⟨hbelow, hnormal⟩ := scaled hn hd
    have hcarry := roundDiv_eq_carry (scale_pos (n := n) (Nat.pos_of_ne_zero hd) (power n d))
      (scale_ratio n d _ ▸ hbelow)
    rw [scale_ratio] at hcarry
    rw [ofRatio_eq_none_iff_power hn, hcarry]
    generalize power n d = q at hbelow hnormal
    have hpos : (0 : ℚ) < 2 ^ q := by positivity
    rw [div_lt_iff₀ hpos] at hbelow
    rcases lt_trichotomy q greatestExponent with hless | rfl | hmore
    · have hpower : (2 : ℚ) ^ q ≤ 2 ^ 970 := by
        rw [← zpow_natCast]
        exact zpow_le_zpow_right₀ one_le_two (Int.lt_add_one_iff.mp hless)
      refine iff_of_false (by omega) (not_le.mpr (hbelow.trans_le ?_))
      calc (2 : ℚ) ^ 53 * 2 ^ q ≤ 2 ^ 53 * 2 ^ 970 := by gcongr
        _ ≤ overflow := le_overflow
    · rw [le_div_iff₀ hpos]
      have hlimit : ((2 : ℚ) ^ 53 - 1 / 2) * 2 ^ greatestExponent = overflow := by
        rw [overflow, show greatestExponent = ((970 + 1 : Nat) : Int) from rfl, zpow_natCast, pow_succ (2 : ℚ) 970]
        generalize (2 : ℚ) ^ 970 = p
        ring
      rw [hlimit]
      simp
    · have hleast := hnormal (by unfold leastExponent; unfold greatestExponent at hmore; omega)
      rw [le_div_iff₀ hpos] at hleast
      have hpower : (2 : ℚ) ^ 972 ≤ 2 ^ q := by
        rw [← zpow_natCast]
        exact zpow_le_zpow_right₀ one_le_two (Int.add_one_le_iff.mpr hmore)
      refine iff_of_true (.inl hmore) (le_trans ?_ hleast)
      calc overflow ≤ 2 ^ 52 * 2 ^ 972 := overflow_le
        _ ≤ 2 ^ 52 * 2 ^ q := by gcongr

/-- A natural lies between the powers of ten that its digits give. -/
theorem digits_bounds {n : Nat} (hn : n ≠ 0) :
    (10 : ℚ) ^ ((Nat.toDigits 10 n).length - 1 : Int) ≤ n ∧
    (n : ℚ) < 10 ^ ((Nat.toDigits 10 n).length : Int) := by
  have hpos : 0 < (Nat.toDigits 10 n).length := Nat.length_toDigits_pos
  have hlt := (Nat.length_toDigits_le_iff (b := 10) (by decide) hpos).mp (le_refl (Nat.toDigits 10 n).length)
  refine ⟨?_, by exact_mod_cast hlt⟩
  obtain ⟨k, hk⟩ : ∃ k, (Nat.toDigits 10 n).length = k + 1 := ⟨_, (Nat.succ_pred_eq_of_pos hpos).symm⟩
  rw [hk]
  have hle : 10 ^ k ≤ n := by
    cases k with
    | zero => exact Nat.pos_of_ne_zero hn
    | succ k =>
      -- with fewer digits it would be shorter
      by_contra hless
      have := (Nat.length_toDigits_le_iff (b := 10) (by decide) k.succ_pos).mpr (Nat.lt_of_not_le hless)
      omega
  push_cast
  rw [add_sub_cancel_right, zpow_natCast]
  exact_mod_cast hle

/-- A decimal has no value exactly if it is at least halfway from the largest value to the next power of two. -/
theorem ofDecimal_eq_none {negative : Bool} {digits : Nat} {exponent : Int} :
    ofDecimal negative digits exponent = none ↔ overflow ≤ digits * 10 ^ exponent := by
  have hpos : (0 : ℚ) < 10 ^ exponent := by positivity
  unfold ofDecimal
  dsimp only
  by_cases hdigits : digits = 0
  · subst hdigits
    refine iff_of_false (by simp) ?_
    norm_num [overflow]
  obtain ⟨hlow, hhigh⟩ := digits_bounds hdigits
  generalize ((Nat.toDigits 10 digits).length : Int) = size at hlow hhigh
  by_cases hsmall : size + exponent < -330
  · rw [if_pos (.inr hsmall)]
    refine iff_of_false (by simp) (not_le.mpr ?_)
    calc (digits * 10 ^ exponent : ℚ) < 10 ^ size * 10 ^ exponent := by gcongr
      _ = 10 ^ (size + exponent) := (zpow_add₀ (by norm_num) _ _).symm
      _ ≤ 10 ^ (0 : Int) := zpow_le_zpow_right₀ (by norm_num) (by omega)
      _ ≤ 2 ^ 53 * 2 ^ 970 := by rw [zpow_zero, ← pow_add]; exact one_le_pow₀ one_le_two
      _ ≤ overflow := le_overflow
  rw [if_neg (by tauto)]
  by_cases hlarge : 330 < size + exponent
  · rw [if_pos hlarge]
    refine iff_of_true rfl ?_
    calc overflow ≤ 10 ^ (33 * 10) := overflow_le_ten
      _ = 10 ^ ((33 * 10 : Nat) : Int) := (zpow_natCast 10 (33 * 10)).symm
      _ ≤ 10 ^ (size - 1 + exponent) := zpow_le_zpow_right₀ (by norm_num) (by omega)
      _ = 10 ^ (size - 1) * 10 ^ exponent := zpow_add₀ (by norm_num) _ _
      _ ≤ digits * 10 ^ exponent := by gcongr
  rw [if_neg hlarge]
  cases exponent with
  | ofNat e =>
    dsimp only
    rw [ofRatio_eq_none one_ne_zero]
    simp
  | negSucc e =>
    have hpower : Nat.pow 10 (e + 1) ≠ 0 := (Nat.pow_pos (by decide)).ne'
    dsimp only
    rw [ofRatio_eq_none hpower, zpow_negSucc, ← div_eq_mul_inv]
    simp

end ClassTidy.Number.Binary64
