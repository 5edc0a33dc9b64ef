/-
  ClassTidy.Proofs.Spelling — how strings and numbers are written.

  A string is a run of characters between quotes, each of which stands for itself or is written
  behind a backslash, by a letter or by its code (`TextSpelled`). A number is a sign, digits with
  no zero in front of others, a fraction and an exponent (`Numeral.Spelled`). What a number
  stands for depends on the reader's limits (`Numeral.value?`): an integer that is too wide
  becomes a binary fraction, and there is none past the largest.

  Proved: what is read up to a closing quote is spelled there (`stringTail_sound`), and a string is
  read up to its own (`TextSpelled.read`). What is read as a number is spelled as one
  (`number_sound`), and a number is read to its end if what follows cannot belong to it
  (`number_spelled`).
-/
import Mathlib.Data.List.TakeWhile
import ClassTidy.Json.Reader

namespace ClassTidy.Json

/-! ## Strings -/

/-- Four hexadecimal digits and the number that they write. -/
inductive FourHex : Text → Nat → Prop
  | mk {a b c d : Char} {w x y z : Nat} (ha : Text.hexValue? a = some w) (hb : Text.hexValue? b = some x)
      (hc : Text.hexValue? c = some y) (hd : Text.hexValue? d = some z) :
      FourHex [a, b, c, d] (((w * 16 + x) * 16 + y) * 16 + z)

/-- The letters that stand for a character behind a backslash. -/
def shortEscapes : List (Char × Char) :=
  [('"', '"'), ('\\', '\\'), ('/', '/'), ('b', '\x08'), ('f', '\x0c'), ('n', '\n'), ('r', '\r'), ('t', '\t')]

/-- How one character of a string is written: as itself, by a letter, by its code, or by the two halves of its code. -/
inductive CharSpelled : Char → Text → Prop
  | plain {c : Char} (control : 0x20 ≤ c.toNat) (quote : c ≠ '"') (backslash : c ≠ '\\') : CharSpelled c [c]
  | short {e c : Char} (known : (e, c) ∈ shortEscapes) : CharSpelled c ['\\', e]
  | code {u : Text} {n : Nat} (digits : FourHex u n) (whole : n < 0xD800 ∨ 0xE000 ≤ n) :
      CharSpelled (Char.ofNat n) ('\\' :: 'u' :: u)
  | pair {u w : Text} {n m : Nat} (digits : FourHex u n) (high : 0xD800 ≤ n ∧ n < 0xDC00) (digits' : FourHex w m)
      (low : 0xDC00 ≤ m ∧ m < 0xE000) :
      CharSpelled (Char.ofNat (0x10000 + (n - 0xD800) * 0x400 + (m - 0xDC00))) ('\\' :: 'u' :: (u ++ '\\' :: 'u' :: w))

/-- What stands between the quotes of a string. -/
inductive TextSpelled : Text → Text → Prop
  | nil : TextSpelled [] []
  | cons {c : Char} {s u w : Text} (char : CharSpelled c u) (rest : TextSpelled s w) : TextSpelled (c :: s) (u ++ w)

theorem FourHex.read {u : Text} {n : Nat} (h : FourHex u n) (rest : Text) : hex4 (u ++ rest) = some (n, rest) := by
  obtain ⟨ha, hb, hc, hd⟩ := h
  simp [hex4, ha, hb, hc, hd]

theorem fourHex_of_read {t rest : Text} {n : Nat} (h : hex4 t = some (n, rest)) :
    ∃ u, t = u ++ rest ∧ FourHex u n := by
  unfold hex4 at h
  split at h
  · rename_i a b c d t
    simp only [Option.bind_eq_bind, Option.bind_eq_some_iff, Option.pure_def, Option.some.injEq, Prod.mk.injEq] at h
    obtain ⟨w, ha, x, hb, y, hc, z, hd, rfl, rfl⟩ := h
    exact ⟨[a, b, c, d], rfl, .mk ha hb hc hd⟩
  · cases h

theorem unicodeEscape_sound {t rest : Text} {c : Char} (h : unicodeEscape t = some (c, rest)) :
    ∃ u, t = u ++ rest ∧ CharSpelled c ('\\' :: 'u' :: u) := by
  unfold unicodeEscape at h
  simp only [Option.bind_eq_bind, Option.bind_eq_some_iff, Option.pure_def, Prod.exists] at h
  obtain ⟨n, t', hn, h⟩ := h
  obtain ⟨u, rfl, hu⟩ := fourHex_of_read hn
  by_cases hhigh : 0xD800 ≤ n ∧ n < 0xDC00
  · simp only [hhigh, and_self, if_true] at h
    split at h
    · rename_i t''
      simp only [Option.bind_eq_some_iff, Prod.exists] at h
      obtain ⟨m, t', hm, h⟩ := h
      obtain ⟨w, rfl, hw⟩ := fourHex_of_read hm
      by_cases hlow : 0xDC00 ≤ m ∧ m < 0xE000
      · rw [if_pos hlow] at h
        obtain ⟨rfl, rfl⟩ := Prod.mk.inj (Option.some.inj h)
        exact ⟨u ++ '\\' :: 'u' :: w, by simp, .pair hu hhigh hw hlow⟩
      · rw [if_neg hlow] at h
        cases h
    · cases h
  · rw [if_neg hhigh] at h
    by_cases hlow : 0xDC00 ≤ n ∧ n < 0xE000
    · rw [if_pos hlow] at h
      cases h
    · rw [if_neg hlow] at h
      obtain ⟨rfl, rfl⟩ := Prod.mk.inj (Option.some.inj h)
      exact ⟨u, rfl, .code hu (by omega)⟩

theorem escape_sound {t rest : Text} {c : Char} (h : escape t = some (c, rest)) :
    ∃ u, t = u ++ rest ∧ CharSpelled c ('\\' :: u) := by
  have short : ∀ {e d : Char} {t' : Text}, (e, d) ∈ shortEscapes → some (d, t') = some (c, rest) →
      ∃ u, e :: t' = u ++ rest ∧ CharSpelled c ('\\' :: u) := by
    intro e d t' hknown heq
    obtain ⟨rfl, rfl⟩ := Prod.mk.inj (Option.some.inj heq)
    exact ⟨[e], rfl, .short hknown⟩
  unfold escape at h
  split at h
  case h_9 =>
    obtain ⟨u, rfl, hu⟩ := unicodeEscape_sound h
    exact ⟨'u' :: u, rfl, hu⟩
  case h_10 => cases h
  all_goals exact short (by decide) h

/-- A character that is written behind a backslash is read there. -/
theorem CharSpelled.read {c : Char} {u : Text} (h : CharSpelled c u) (rest : Text) :
    (u = [c] ∧ 0x20 ≤ c.toNat ∧ c ≠ '"' ∧ c ≠ '\\') ∨ ∃ w, u = '\\' :: w ∧
    escape (w ++ rest) = some (c, rest) := by
  cases h with
  | plain control quote backslash => exact .inl ⟨rfl, control, quote, backslash⟩
  | short known =>
    refine .inr ⟨_, rfl, ?_⟩
    simp only [shortEscapes, List.mem_cons, Prod.mk.injEq, List.not_mem_nil, or_false] at known
    rcases known with ⟨rfl, rfl⟩ | ⟨rfl, rfl⟩ | ⟨rfl, rfl⟩ | ⟨rfl, rfl⟩ | ⟨rfl, rfl⟩ |
      ⟨rfl, rfl⟩ | ⟨rfl, rfl⟩ | ⟨rfl, rfl⟩ <;> rfl
  | @code u n digits whole =>
    refine .inr ⟨_, rfl, ?_⟩
    have hhigh : ¬ (0xD800 ≤ n ∧ n < 0xDC00) := by omega
    have hlow : ¬ (0xDC00 ≤ n ∧ n < 0xE000) := by omega
    simp only [List.cons_append, escape, unicodeEscape, digits.read, Option.bind_eq_bind, Option.bind_some,
      hhigh, hlow, if_false,
      Option.pure_def]
  | pair digits high digits' low =>
    refine .inr ⟨_, rfl, ?_⟩
    simp only [List.cons_append, List.append_assoc, escape, unicodeEscape, digits.read, digits'.read,
      Option.bind_eq_bind,
      Option.bind_some, high, low, and_self, if_true, Option.pure_def]

theorem CharSpelled.ne_nil {c : Char} {u : Text} (h : CharSpelled c u) : u ≠ [] := by
  cases h <;> simp

theorem stringTail_sound {fuel : Nat} {t s rest : Text} (h : stringTail fuel t = some (s, rest)) :
    ∃ u, t = u ++ '"' :: rest ∧ TextSpelled s u := by
  induction fuel generalizing t s with
  | zero => cases h
  | succ fuel ih =>
    cases t with
    | nil => cases h
    | cons c t =>
      rw [stringTail] at h
      by_cases hq : c = '"'
      · rw [if_pos hq] at h
        obtain ⟨rfl, rfl⟩ := Prod.mk.inj (Option.some.inj h)
        exact ⟨[], by rw [hq]; rfl, .nil⟩
      rw [if_neg hq] at h
      by_cases hb : c = '\\'
      · rw [if_pos hb] at h
        simp only [Option.bind_eq_bind, Option.bind_eq_some_iff, Option.pure_def, Prod.exists] at h
        obtain ⟨d, t', hescape, s', rest', htail, heq⟩ := h
        obtain ⟨rfl, rfl⟩ := Prod.mk.inj (Option.some.inj heq)
        obtain ⟨u, rfl, hu⟩ := escape_sound hescape
        obtain ⟨w, rfl, hw⟩ := ih htail
        exact ⟨'\\' :: u ++ w, by simp [hb], .cons hu hw⟩
      rw [if_neg hb] at h
      by_cases hcontrol : c.toNat < 0x20
      · rw [if_pos hcontrol] at h
        cases h
      rw [if_neg hcontrol] at h
      simp only [Option.bind_eq_bind, Option.bind_eq_some_iff, Option.pure_def, Prod.exists] at h
      obtain ⟨s', rest', htail, heq⟩ := h
      obtain ⟨rfl, rfl⟩ := Prod.mk.inj (Option.some.inj heq)
      obtain ⟨w, rfl, hw⟩ := ih htail
      exact ⟨[c] ++ w, by simp, .cons (.plain (by omega) hq hb) hw⟩

theorem TextSpelled.read {s u : Text} (h : TextSpelled s u) {fuel : Nat} (hf : u.length < fuel) (rest : Text) :
    stringTail fuel (u ++ '"' :: rest) = some (s, rest) := by
  induction h generalizing fuel with
  | nil =>
    obtain ⟨fuel, rfl⟩ := Nat.exists_eq_succ_of_ne_zero (Nat.ne_of_gt hf)
    simp [stringTail]
  | @cons c s u w char _ ih =>
    rw [List.length_append] at hf
    have hpos := List.length_pos_iff.mpr char.ne_nil
    obtain ⟨fuel, rfl⟩ := Nat.exists_eq_succ_of_ne_zero (by omega : fuel ≠ 0)
    have htail := ih (by omega : w.length < fuel)
    rw [List.append_assoc]
    rcases char.read (w ++ '"' :: rest) with ⟨rfl, hcontrol, hq, hb⟩ | ⟨v, rfl, hescape⟩
    · rw [List.singleton_append, stringTail, if_neg hq, if_neg hb, if_neg (by omega), htail]
      rfl
    · rw [List.cons_append, stringTail, if_neg (by decide), if_pos rfl, hescape]
      simp only [Option.bind_eq_bind, Option.bind_some, htail]
      rfl

/-! ## Numbers -/

/-- A run of digits. -/
def Digits (ds : Text) : Prop := ds ≠ [] ∧ ∀ c ∈ ds, Text.isDigit c = true

/-- A number by its parts: a sign, digits before the point, digits behind it, and an exponent. -/
structure Numeral where
  negative : Bool
  whole : Text
  fraction : Option Text
  exponent : Option Int

inductive FractionSpelled : Option Text → Text → Prop
  | absent : FractionSpelled none []
  | digits {ds : Text} (h : Digits ds) : FractionSpelled (some ds) ('.' :: ds)

inductive ExponentSpelled : Option Int → Text → Prop
  | absent : ExponentSpelled none []
  | bare {e : Char} {ds : Text} (mark : e = 'e' ∨ e = 'E') (h : Digits ds) :
      ExponentSpelled (some (Text.natValue ds)) (e :: ds)
  | plus {e : Char} {ds : Text} (mark : e = 'e' ∨ e = 'E') (h : Digits ds) :
      ExponentSpelled (some (Text.natValue ds)) (e :: '+' :: ds)
  | minus {e : Char} {ds : Text} (mark : e = 'e' ∨ e = 'E') (h : Digits ds) :
      ExponentSpelled (some (-(Text.natValue ds : Int))) (e :: '-' :: ds)

namespace Numeral

/-- How a number is written behind its sign: no zero in front of other digits. -/
structure Unsigned (n : Numeral) (u : Text) : Prop where
  digits : Digits n.whole
  zero : n.whole.head? = some '0' → n.whole = ['0']
  parts : ∃ f e, u = n.whole ++ (f ++ e) ∧ FractionSpelled n.fraction f ∧ ExponentSpelled n.exponent e

/-- How a number is written. -/
def Spelled (n : Numeral) (u : Text) : Prop := ∃ w, n.Unsigned w ∧ u = if n.negative then '-' :: w else w

/-- The integer before the point, with its sign. -/
def integer (n : Numeral) : Int := if n.negative then -(Text.natValue n.whole : Int) else Text.natValue n.whole

/-- The value of a number: an integer if it has neither fraction nor exponent and is not too wide, else the nearest
binary fraction; none past the largest. -/
def value? (l : Limits) (n : Numeral) : Option Json :=
  match n.fraction, n.exponent with
  | none, none =>
    if l.admits n.integer then some (.int n.integer)
    else (Number.Binary64.ofDecimal n.negative (Text.natValue n.whole) 0).map .float
  | _, _ =>
    let f := n.fraction.getD []
    (Number.Binary64.ofDecimal n.negative (Text.natValue (n.whole ++ f)) (n.exponent.getD 0 - f.length)).map .float

end Numeral

/-- No text in front of which a number could go on. -/
def Ends (rest : Text) : Prop := ∀ c ∈ rest.head?, Text.isDigit c = false ∧ c ≠ '.' ∧ c ≠ 'e' ∧ c ≠ 'E'

theorem Ends.digit {rest : Text} (h : Ends rest) :
    ∀ c ∈ rest.head?, Text.isDigit c = false := fun c hc => (h c hc).1

/-- Digits are taken up to the first character that is none. -/
theorem span_digits {ds rest : Text} (h : Digits ds) (hr : ∀ c ∈ rest.head?, Text.isDigit c = false) :
    (ds ++ rest).takeWhile Text.isDigit = ds ∧ (ds ++ rest).dropWhile Text.isDigit = rest := by
  have hstop : rest.takeWhile Text.isDigit = [] ∧ rest.dropWhile Text.isDigit = rest := by
    cases rest with
    | nil => exact ⟨rfl, rfl⟩
    | cons c rest => simp [hr c rfl]
  rw [List.takeWhile_append_of_pos h.2, List.dropWhile_append_of_pos h.2, hstop.1, hstop.2, List.append_nil]
  exact ⟨rfl, rfl⟩

theorem digits_takeWhile {t : Text} (h : t.takeWhile Text.isDigit ≠ []) : Digits (t.takeWhile Text.isDigit) :=
  ⟨h, fun _ hc => List.mem_takeWhile_imp hc⟩

theorem wholePart_sound {t ds rest : Text} (h : wholePart t = some (ds, rest)) :
    t = ds ++ rest ∧ Digits ds ∧ (ds.head? = some '0' → ds = ['0']) := by
  unfold wholePart at h
  have hsplit : t.takeWhile Text.isDigit ++ t.dropWhile Text.isDigit = t := List.takeWhile_append_dropWhile
  split at h
  · cases h
  · cases h
  · rename_i hne hzero
    obtain ⟨rfl, rfl⟩ := Prod.mk.inj (Option.some.inj h)
    refine ⟨hsplit.symm, digits_takeWhile hne, fun hhead => ?_⟩
    obtain ⟨ds, hds⟩ := List.head?_eq_some_iff.mp hhead
    cases ds with
    | nil => exact hds
    | cons d ds => exact absurd hds (hzero d ds)

theorem wholePart_spelled {ds rest : Text} (h : Digits ds) (hzero : ds.head? = some '0' → ds = ['0'])
    (hr : ∀ c ∈ rest.head?, Text.isDigit c = false) : wholePart (ds ++ rest) = some (ds, rest) := by
  obtain ⟨htake, hdrop⟩ := span_digits h hr
  unfold wholePart
  rw [htake, hdrop]
  split
  · exact absurd rfl h.1
  · rename_i d ds
    exact absurd (hzero rfl) (by simp)
  · rfl

theorem fractionPart_sound {t rest : Text} {f : Option Text} (h : fractionPart t = some (f, rest)) :
    ∃ u, t = u ++ rest ∧ FractionSpelled f u := by
  unfold fractionPart at h
  split at h
  · rename_i t
    split at h
    · cases h
    · rename_i hne
      obtain ⟨rfl, rfl⟩ := Prod.mk.inj (Option.some.inj h)
      refine ⟨'.' :: t.takeWhile Text.isDigit, ?_, .digits (digits_takeWhile hne)⟩
      rw [List.cons_append, List.takeWhile_append_dropWhile]
  · obtain ⟨rfl, rfl⟩ := Prod.mk.inj (Option.some.inj h)
    exact ⟨[], rfl, .absent⟩

theorem fractionPart_spelled {f : Option Text} {u rest : Text} (h : FractionSpelled f u)
    (hr : ∀ c ∈ rest.head?, Text.isDigit c = false ∧ c ≠ '.') : fractionPart (u ++ rest) = some (f, rest) := by
  cases h with
  | absent =>
    cases rest with
    | nil => rfl
    | cons c rest =>
      have hc := (hr c rfl).2
      unfold fractionPart
      split
      · rename_i heq
        exact absurd (List.cons.inj heq).1 hc
      · rfl
  | @digits ds h =>
    obtain ⟨htake, hdrop⟩ := span_digits h fun c hc => (hr c hc).1
    rw [List.cons_append, fractionPart, htake, hdrop]
    split
    · exact absurd rfl h.1
    · rfl

theorem exponentDigits_sound {negative : Bool} {t rest : Text} {e : Option Int}
    (h : exponentDigits negative t = some (e, rest)) :
    ∃ ds, t = ds ++ rest ∧ Digits ds ∧
      e = some (if negative then -(Text.natValue ds : Int) else Text.natValue ds) := by
  unfold exponentDigits at h
  split at h
  · cases h
  · rename_i hne
    obtain ⟨rfl, rfl⟩ := Prod.mk.inj (Option.some.inj h)
    exact ⟨_, List.takeWhile_append_dropWhile.symm, digits_takeWhile hne, rfl⟩

theorem exponentDigits_spelled {negative : Bool} {ds rest : Text} (h : Digits ds)
    (hr : ∀ c ∈ rest.head?, Text.isDigit c = false) :
    exponentDigits negative (ds ++ rest) =
      some (some (if negative then -(Text.natValue ds : Int) else Text.natValue ds), rest) := by
  obtain ⟨htake, hdrop⟩ := span_digits h hr
  unfold exponentDigits
  rw [htake, hdrop]
  split
  · exact absurd rfl h.1
  · rfl

theorem exponentPart_sound {t rest : Text} {e : Option Int} (h : exponentPart t = some (e, rest)) :
    ∃ u, t = u ++ rest ∧ ExponentSpelled e u := by
  unfold exponentPart at h
  split at h
  · rename_i c t
    by_cases hmark : c = 'e' ∨ c = 'E'
    · rw [if_pos hmark] at h
      split at h
      · obtain ⟨ds, rfl, hds, rfl⟩ := exponentDigits_sound h
        exact ⟨c :: '+' :: ds, rfl, .plus hmark hds⟩
      · obtain ⟨ds, rfl, hds, rfl⟩ := exponentDigits_sound h
        exact ⟨c :: '-' :: ds, rfl, .minus hmark hds⟩
      · obtain ⟨ds, rfl, hds, rfl⟩ := exponentDigits_sound h
        exact ⟨c :: ds, rfl, .bare hmark hds⟩
    · rw [if_neg hmark] at h
      obtain ⟨rfl, rfl⟩ := Prod.mk.inj (Option.some.inj h)
      exact ⟨[], rfl, .absent⟩
  · obtain ⟨rfl, rfl⟩ := Prod.mk.inj (Option.some.inj h)
    exact ⟨[], rfl, .absent⟩

theorem Digits.head {ds : Text} (h : Digits ds) : ∃ d ds', ds = d :: ds' ∧ Text.isDigit d = true := by
  obtain ⟨d, ds', rfl⟩ := List.exists_cons_of_ne_nil h.1
  exact ⟨d, ds', rfl, h.2 d List.mem_cons_self⟩

theorem exponentPart_spelled {e : Option Int} {u rest : Text} (h : ExponentSpelled e u) (hr : Ends rest) :
    exponentPart (u ++ rest) = some (e, rest) := by
  cases h with
  | absent =>
    cases rest with
    | nil => rfl
    | cons c rest =>
      obtain ⟨-, -, he, hE⟩ := hr c rfl
      simp [exponentPart, he, hE]
  | @bare c ds mark h =>
    -- the digit in front is no sign
    have hread : exponentDigits false (ds ++ rest) = some (some ↑(Text.natValue ds), rest) :=
      exponentDigits_spelled h hr.digit
    obtain ⟨d, ds', rfl, hd⟩ := h.head
    have hplus : d ≠ '+' := by rintro rfl; exact absurd hd (by decide)
    have hminus : d ≠ '-' := by rintro rfl; exact absurd hd (by decide)
    unfold exponentPart
    simp only [List.cons_append, if_pos mark]
    split
    · rename_i heq
      exact absurd (List.cons.inj heq).1 hplus
    · rename_i heq
      exact absurd (List.cons.inj heq).1 hminus
    · exact hread
  | plus mark h =>
    rw [List.cons_append, List.cons_append, exponentPart, if_pos mark]
    exact exponentDigits_spelled h hr.digit
  | minus mark h =>
    rw [List.cons_append, List.cons_append, exponentPart, if_pos mark]
    exact exponentDigits_spelled h hr.digit

/-- A number is read part by part. -/
theorem number_eq (l : Limits) (negative : Bool) (t : Text) :
    number l negative t = (wholePart t).bind fun w => (fractionPart w.2).bind fun f => (exponentPart f.2).bind fun e =>
      (Numeral.value? l ⟨negative, w.1, f.1, e.1⟩).map (·, e.2) := by
  unfold number
  simp only [Option.bind_eq_bind, Option.pure_def]
  congr 1; funext w; congr 1; funext f; congr 1; funext e
  obtain ⟨f, t1⟩ := f
  obtain ⟨e, t2⟩ := e
  cases f <;> cases e
  · simp only [Numeral.value?, Numeral.integer, apply_ite (Option.map _), Option.map_eq_bind, Option.bind_assoc]
    rfl
  all_goals
    simp only [Numeral.value?, Option.map_eq_bind, Option.bind_assoc]
    rfl

theorem number_sound {l : Limits} {negative : Bool} {t rest : Text} {v : Json}
    (h : number l negative t = some (v, rest)) :
    ∃ (n : Numeral) (u : Text), n.negative = negative ∧ n.Unsigned u ∧ t = u ++ rest ∧ n.value? l = some v := by
  rw [number_eq] at h
  simp only [Option.bind_eq_some_iff, Option.map_eq_some_iff, Prod.exists] at h
  obtain ⟨w, t1, hw, f, t2, hf, e, t3, he, v', hv, heq⟩ := h
  obtain ⟨rfl, rfl⟩ := Prod.mk.inj heq
  obtain ⟨rfl, hdigits, hzero⟩ := wholePart_sound hw
  obtain ⟨fu, rfl, hfu⟩ := fractionPart_sound hf
  obtain ⟨eu, rfl, heu⟩ := exponentPart_sound he
  exact ⟨⟨negative, w, f, e⟩, w ++ (fu ++ eu), rfl, ⟨hdigits, hzero, fu, eu, rfl, hfu, heu⟩, by simp, hv⟩

theorem ExponentSpelled.ends {e : Option Int} {u rest : Text} (h : ExponentSpelled e u) (hr : Ends rest) :
    ∀ c ∈ (u ++ rest).head?, Text.isDigit c = false ∧ c ≠ '.' := by
  have hmark : ∀ c : Char, c = 'e' ∨ c = 'E' → Text.isDigit c = false ∧ c ≠ '.' := by
    rintro c (rfl | rfl) <;> decide
  cases h with
  | absent => exact fun c hc => ⟨(hr c hc).1, (hr c hc).2.1⟩
  | bare mark _ | plus mark _ | minus mark _ =>
    intro c hc
    obtain rfl : _ = c := Option.some.inj hc
    exact hmark _ mark

theorem FractionSpelled.ends {f : Option Text} {u rest : Text} (h : FractionSpelled f u)
    (hr : ∀ c ∈ rest.head?, Text.isDigit c = false) : ∀ c ∈ (u ++ rest).head?, Text.isDigit c = false := by
  cases h with
  | absent => exact hr
  | digits _ =>
    intro c hc
    obtain rfl : '.' = c := Option.some.inj hc
    decide

theorem number_spelled (l : Limits) {n : Numeral} {u rest : Text} (h : n.Unsigned u) (hr : Ends rest) :
    number l n.negative (u ++ rest) = (n.value? l).map (·, rest) := by
  obtain ⟨f, e, rfl, hf, he⟩ := h.parts
  have hbehind := he.ends hr
  rw [number_eq, List.append_assoc, List.append_assoc,
    wholePart_spelled h.digits h.zero (hf.ends fun c hc => (hbehind c hc).1), Option.bind_some,
    fractionPart_spelled hf hbehind, Option.bind_some, exponentPart_spelled he hr, Option.bind_some]

end ClassTidy.Json
