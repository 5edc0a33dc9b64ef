/-
  ClassTidy.Proofs.Documents — a document that is written is read back.

  Octets of a text decode to the text (`decode_encode`), because the lead of every character
  asks for the tails that it was given, and their ranges leave no code point out; the ranges
  let nothing else in, so no other octets decode to it (`decode_eq_ok`). A file that
  is written holds what was put there (`read_write`): its path leads to the same place, since
  a walk looks at the kinds of entries and at their troubles only; files in other places hold
  what they held (`read_write_apart`). Files in different places can be written in any order
  (`Separate.writeAll_perm`). Line ends are unified once: a text without returns stays as it is
  (`unifyLines_of_plain`).

  Together: what is written for a document whose line ends were unified is the document that
  the next run reads (`document_encode`).
-/
import Mathlib.Data.List.Basic
import Mathlib.Data.List.Perm.Basic
import ClassTidy.Command.Run

namespace ClassTidy

/-! ## Octets -/

namespace Text.Utf8

theorem octet_toNat {n : Nat} (h : n < 256) : n.toUInt8.toNat = n := by
  simp [Nat.toUInt8, Nat.mod_eq_of_lt h]

/-- One tail in its range is taken. -/
theorem tails_cons {acc read n low high b : Nat} {bs : List UInt8} (hl : low ≤ b) (hh : b ≤ high) (hb : b < 256) :
    tails acc read (n + 1) low high (b.toUInt8 :: bs) = tails (acc * 64 + (b - 0x80)) (read + 1) n 0x80 0xBF bs := by
  simp only [tails, octet_toNat hb]
  rw [if_pos ⟨hl, hh⟩]

/-- The lead of a character of three octets: the first tail of the characters behind `0xE0` and `0xED` has a range of
its own. -/
theorem lead?_three {n : Nat} (hlow : 0x800 ≤ n) (hhigh : n < 0x10000) (hs : n < 0xD800 ∨ 0xDFFF < n) :
    ∃ low high, lead? (0xE0 + n / 4096) = some ⟨n / 4096, 2, low, high⟩ ∧
      low ≤ 0x80 + n / 64 % 64 ∧ 0x80 + n / 64 % 64 ≤ high := by
  unfold lead?
  rw [if_neg (by omega), if_neg (by omega), if_neg (by omega)]
  by_cases h0 : n / 4096 = 0
  · exact ⟨0xA0, 0xBF, by rw [h0]; rfl, by omega, by omega⟩
  · rw [if_neg (by omega)]
    by_cases hd : n / 4096 = 13
    · exact ⟨0x80, 0x9F, by rw [hd]; rfl, by omega, by omega⟩
    · rw [if_neg (by omega), if_pos (by omega)]
      exact ⟨0x80, 0xBF, by simp, by omega, by omega⟩

theorem lead?_four {n : Nat} (hlow : 0x10000 ≤ n) (hhigh : n < 0x110000) :
    ∃ low high, lead? (0xF0 + n / 262144) = some ⟨n / 262144, 3, low, high⟩ ∧
      low ≤ 0x80 + n / 4096 % 64 ∧ 0x80 + n / 4096 % 64 ≤ high := by
  unfold lead?
  rw [if_neg (by omega), if_neg (by omega), if_neg (by omega), if_neg (by omega), if_neg (by omega), if_neg (by omega)]
  by_cases h0 : n / 262144 = 0
  · exact ⟨0x90, 0xBF, by rw [h0]; rfl, by omega, by omega⟩
  · rw [if_neg (by omega)]
    by_cases h4 : n / 262144 = 4
    · exact ⟨0x80, 0x8F, by rw [h4]; rfl, by omega, by omega⟩
    · rw [if_pos (by omega)]
      exact ⟨0x80, 0xBF, by simp, by omega, by omega⟩

theorem char_range (c : Char) : c.toNat < 0xD800 ∨ (0xDFFF < c.toNat ∧ c.toNat < 0x110000) := c.valid

/-- The octets of a character are one character off the front. -/
theorem next_encodeChar (i : Nat) (c : Char) (rest : List UInt8) :
    ∃ b bs, encodeChar c ++ rest = b :: bs ∧ next i b bs = .ok (c, (encodeChar c).length, rest) := by
  have hrange := char_range c
  have hback : Char.ofNat c.toNat = c := Char.ofNat_toNat c
  generalize hn : c.toNat = n at hrange hback
  unfold encodeChar
  simp only [hn]
  by_cases h1 : n < 0x80
  · simp only [h1, if_true]
    refine ⟨_, _, rfl, ?_⟩
    have hl : lead? n = some ⟨n, 0, 0x80, 0xBF⟩ := if_pos h1
    simp only [next, octet_toNat (by omega : n < 256), hl, tails, hback, List.length_singleton]
    rfl
  by_cases h2 : n < 0x800
  · simp only [h1, h2, if_true, if_false]
    refine ⟨_, _, rfl, ?_⟩
    have hl : lead? (0xC0 + n / 64) = some ⟨n / 64, 1, 0x80, 0xBF⟩ := by
      unfold lead?
      rw [if_neg (by omega), if_neg (by omega), if_pos (by omega)]
      simp
    simp only [next, octet_toNat (by omega : 0xC0 + n / 64 < 256), hl, List.append_eq,
      List.cons_append, List.nil_append]
    rw [tails_cons (by omega) (by omega) (by omega)]
    have hval : n / 64 * 64 + (0x80 + n % 64 - 0x80) = n := by omega
    simp only [tails, hval, hback]
    rfl
  by_cases h3 : n < 0x10000
  · simp only [h1, h2, h3, if_true, if_false]
    refine ⟨_, _, rfl, ?_⟩
    obtain ⟨low, high, hl, hlow, hhigh⟩ := lead?_three (by omega) h3 (by omega)
    simp only [next, octet_toNat (by omega : 0xE0 + n / 4096 < 256), hl, List.append_eq,
      List.cons_append, List.nil_append]
    rw [tails_cons hlow hhigh (by omega), tails_cons (by omega) (by omega) (by omega)]
    have hval : (n / 4096 * 64 + (0x80 + n / 64 % 64 - 0x80)) * 64 + (0x80 + n % 64 - 0x80) = n := by omega
    simp only [tails, hval, hback]
    rfl
  · simp only [h1, h2, h3, if_false]
    refine ⟨_, _, rfl, ?_⟩
    obtain ⟨low, high, hl, hlow, hhigh⟩ := lead?_four (by omega) (by omega : n < 0x110000)
    simp only [next, octet_toNat (by omega : 0xF0 + n / 262144 < 256), hl, List.append_eq,
      List.cons_append, List.nil_append]
    rw [tails_cons hlow hhigh (by omega), tails_cons (by omega) (by omega) (by omega),
      tails_cons (by omega) (by omega) (by omega)]
    have hval : ((n / 262144 * 64 + (0x80 + n / 4096 % 64 - 0x80)) * 64 + (0x80 + n / 64 % 64 - 0x80)) * 64 +
        (0x80 + n % 64 - 0x80) = n := by omega
    simp only [tails, hval, hback]
    rfl

theorem encodeChar_length_pos (c : Char) : 0 < (encodeChar c).length := by
  unfold encodeChar
  simp only
  split
  · exact Nat.one_pos
  · split
    · exact Nat.two_pos
    · split <;> simp

theorem decodeFrom_encode (t : Text) (i : Nat) {fuel : Nat} (h : (encode t).length ≤ fuel) :
    decodeFrom i fuel (encode t) = .ok t := by
  induction t generalizing i fuel with
  | nil => cases fuel <;> rfl
  | cons c t ih =>
    have hcons : encode (c :: t) = encodeChar c ++ encode t := rfl
    obtain ⟨b, bs, hb, hnext⟩ := next_encodeChar i c (encode t)
    have hlen : (encodeChar c).length + (encode t).length = bs.length + 1 := by
      rw [← List.length_append, hb, List.length_cons]
    rw [hcons, hb] at h ⊢
    cases fuel with
    | zero => simp at h
    | succ fuel =>
      have hpos := encodeChar_length_pos c
      rw [List.length_cons] at h
      simp only [decodeFrom, hnext, ih (i + (encodeChar c).length) (by omega : (encode t).length ≤ fuel)]

/-- The octets of a text spell it. -/
theorem decode_encode (t : Text) : decode (encode t) = .ok t := decodeFrom_encode t 0 (Nat.le_refl _)

/-- What a lead octet can be, and the tails that it asks for. -/
theorem lead?_cases {b : Nat} {l : Lead} (h : lead? b = some l) :
    (b < 0x80 ∧ l.bits = b ∧ l.tails = 0) ∨
    (0xC2 ≤ b ∧ b < 0xE0 ∧ l.bits = b - 0xC0 ∧ l.tails = 1 ∧ l.low = 0x80 ∧ l.high = 0xBF) ∨
    (0xE0 ≤ b ∧ b < 0xF0 ∧ l.bits = b - 0xE0 ∧ l.tails = 2 ∧ 0x80 ≤ l.low ∧ l.high ≤ 0xBF ∧
      (0xE0 < b ∨ l.low = 0xA0) ∧ (b ≠ 0xED ∨ l.high = 0x9F)) ∨
    (0xF0 ≤ b ∧ b < 0xF5 ∧ l.bits = b - 0xF0 ∧ l.tails = 3 ∧ 0x80 ≤ l.low ∧ l.high ≤ 0xBF ∧
      (0xF0 < b ∨ l.low = 0x90) ∧ (b < 0xF4 ∨ l.high = 0x8F)) := by
  unfold lead? at h
  by_cases hone : b < 0x80
  · rw [if_pos hone] at h
    obtain rfl := Option.some.inj h
    exact Or.inl ⟨hone, rfl, rfl⟩
  rw [if_neg hone] at h
  by_cases hnone : b < 0xC2
  · rw [if_pos hnone] at h
    cases h
  rw [if_neg hnone] at h
  by_cases htwo : b < 0xE0
  · rw [if_pos htwo] at h
    obtain rfl := Option.some.inj h
    exact Or.inr (Or.inl ⟨by omega, htwo, rfl, rfl, rfl, rfl⟩)
  rw [if_neg htwo] at h
  by_cases hthree : b < 0xF0
  · refine Or.inr (Or.inr (Or.inl ⟨by omega, hthree, ?_⟩))
    by_cases hfirst : b = 0xE0
    · rw [if_pos hfirst] at h
      obtain rfl := Option.some.inj h
      exact ⟨by rw [hfirst], rfl, by decide, by decide, Or.inr rfl, Or.inl (by omega)⟩
    rw [if_neg hfirst] at h
    by_cases hlast : b = 0xED
    · rw [if_pos hlast] at h
      obtain rfl := Option.some.inj h
      exact ⟨by rw [hlast], rfl, by decide, by decide, Or.inl (by omega), Or.inr rfl⟩
    rw [if_neg hlast, if_pos hthree] at h
    obtain rfl := Option.some.inj h
    exact ⟨rfl, rfl, Nat.le_refl _, Nat.le_refl _, Or.inl (by omega), Or.inl hlast⟩
  rw [if_neg (by omega), if_neg (by omega), if_neg hthree] at h
  refine Or.inr (Or.inr (Or.inr ?_))
  by_cases hfirst : b = 0xF0
  · rw [if_pos hfirst] at h
    obtain rfl := Option.some.inj h
    exact ⟨by omega, by omega, by rw [hfirst], rfl, by decide, by decide, Or.inr rfl, Or.inl (by omega)⟩
  rw [if_neg hfirst] at h
  by_cases hfour : b < 0xF4
  · rw [if_pos hfour] at h
    obtain rfl := Option.some.inj h
    exact ⟨by omega, by omega, rfl, rfl, Nat.le_refl _, Nat.le_refl _, Or.inl (by omega), Or.inl hfour⟩
  rw [if_neg hfour] at h
  by_cases hlast : b = 0xF4
  · rw [if_pos hlast] at h
    obtain rfl := Option.some.inj h
    exact ⟨by omega, by omega, by rw [hlast], rfl, by decide, by decide, Or.inl (by omega), Or.inr rfl⟩
  · rw [if_neg hlast] at h
    cases h

theorem tails_zero {acc read low high m : Nat} {bs rest : List UInt8}
    (h : tails acc read 0 low high bs = .ok (m, rest)) : acc = m ∧ bs = rest :=
  Prod.mk.inj (Except.ok.inj h)

/-- A tail holds a digit to the base 64. -/
theorem tails_succ {acc read n low high m : Nat} {bs rest : List UInt8} (hlow : 0x80 ≤ low) (hhigh : high ≤ 0xBF)
    (h : tails acc read (n + 1) low high bs = .ok (m, rest)) :
    ∃ b bs' d, bs = b :: bs' ∧ b.toNat = 0x80 + d ∧ d < 64 ∧ low ≤ 0x80 + d ∧ 0x80 + d ≤ high ∧
      tails (acc * 64 + d) (read + 1) n 0x80 0xBF bs' = .ok (m, rest) := by
  cases bs with
  | nil => cases h
  | cons b bs =>
    rw [tails] at h
    split at h
    · rename_i hrange
      exact ⟨b, bs, b.toNat - 0x80, rfl, by omega, by omega, by omega, by omega, h⟩
    · cases h

theorem digit_last {n d : Nat} (h : d < 64) : (n * 64 + d) / 64 = n ∧ (n * 64 + d) % 64 = d := by omega

theorem toUInt8_eq {n : Nat} {b : UInt8} (h : n = b.toNat) : n.toUInt8 = b := by
  rw [h]
  exact UInt8.ofNat_toNat

theorem toNat_ofNat {n : Nat} (h : n < 0xD800 ∨ (0xDFFF < n ∧ n < 0x110000)) : (Char.ofNat n).toNat = n := by
  have hn : n.isValidChar := h
  unfold Char.ofNat
  rw [dif_pos hn]
  rfl

/-- A character off the front is its octets. -/
theorem next_sound {i taken : Nat} {b : UInt8} {bs rest : List UInt8} {c : Char}
    (h : next i b bs = .ok (c, taken, rest)) :
    b :: bs = encodeChar c ++ rest := by
  unfold next at h
  split at h
  · cases h
  rename_i l hl
  split at h
  · rename_i m rest' htails
    obtain ⟨rfl, -, rfl⟩ : Char.ofNat m = c ∧ l.tails + 1 = taken ∧ rest' = rest := by simpa using h
    -- the ranges of the tails give back the branch that wrote them
    rcases lead?_cases hl with ⟨hb, hbits, hcount⟩ | ⟨hlow, hhigh, hbits, hcount, hl1, hh1⟩ |
        ⟨hlow, hhigh, hbits, hcount, hl1, hh1, hfirst, hlast⟩ |
        ⟨hlow, hhigh, hbits, hcount, hl1, hh1, hfirst, hlast⟩
    · rw [hcount] at htails
      obtain ⟨rfl, rfl⟩ := tails_zero htails
      have hn : (Char.ofNat l.bits).toNat = l.bits := toNat_ofNat (by omega)
      simp only [encodeChar, hn]
      rw [if_pos (by omega), toUInt8_eq (by omega : l.bits = b.toNat)]
      rfl
    · rw [hcount] at htails
      obtain ⟨b1, bs1, d1, rfl, hb1, hd1, -, -, htails⟩ := tails_succ (by omega) (by omega) htails
      obtain ⟨rfl, rfl⟩ := tails_zero htails
      have hn : (Char.ofNat (l.bits * 64 + d1)).toNat = l.bits * 64 + d1 := toNat_ofNat (by omega)
      simp only [encodeChar, hn]
      rw [if_neg (by omega), if_pos (by omega), (digit_last hd1).1, (digit_last hd1).2,
        toUInt8_eq (by omega : 0xC0 + l.bits = b.toNat), toUInt8_eq hb1.symm]
      rfl
    · rw [hcount] at htails
      obtain ⟨b1, bs1, d1, rfl, hb1, hd1, hlow1, hhigh1, htails⟩ := tails_succ hl1 hh1 htails
      obtain ⟨b2, bs2, d2, rfl, hb2, hd2, -, -, htails⟩ := tails_succ (by omega) (by omega) htails
      obtain ⟨rfl, rfl⟩ := tails_zero htails
      have hn : (Char.ofNat ((l.bits * 64 + d1) * 64 + d2)).toNat = (l.bits * 64 + d1) * 64 + d2 :=
        toNat_ofNat (by omega)
      have htop : ((l.bits * 64 + d1) * 64 + d2) / 4096 = l.bits := by
        rw [show 4096 = 64 * 64 from rfl, ← Nat.div_div_eq_div_mul, (digit_last hd2).1, (digit_last hd1).1]
      simp only [encodeChar, hn]
      rw [if_neg (by omega), if_neg (by omega), if_pos (by omega), htop, (digit_last hd2).1, (digit_last hd2).2,
        (digit_last hd1).2, toUInt8_eq (by omega : 0xE0 + l.bits = b.toNat), toUInt8_eq hb1.symm,
        toUInt8_eq hb2.symm]
      rfl
    · rw [hcount] at htails
      obtain ⟨b1, bs1, d1, rfl, hb1, hd1, hlow1, hhigh1, htails⟩ := tails_succ hl1 hh1 htails
      obtain ⟨b2, bs2, d2, rfl, hb2, hd2, -, -, htails⟩ := tails_succ (by omega) (by omega) htails
      obtain ⟨b3, bs3, d3, rfl, hb3, hd3, -, -, htails⟩ := tails_succ (by omega) (by omega) htails
      obtain ⟨rfl, rfl⟩ := tails_zero htails
      have hn : (Char.ofNat (((l.bits * 64 + d1) * 64 + d2) * 64 + d3)).toNat =
          ((l.bits * 64 + d1) * 64 + d2) * 64 + d3 := toNat_ofNat (by omega)
      have hsecond : (((l.bits * 64 + d1) * 64 + d2) * 64 + d3) / 4096 = l.bits * 64 + d1 := by
        rw [show 4096 = 64 * 64 from rfl, ← Nat.div_div_eq_div_mul, (digit_last hd3).1, (digit_last hd2).1]
      have htop : (((l.bits * 64 + d1) * 64 + d2) * 64 + d3) / 262144 = l.bits := by
        rw [show 262144 = 4096 * 64 from rfl, ← Nat.div_div_eq_div_mul, hsecond, (digit_last hd1).1]
      simp only [encodeChar, hn]
      rw [if_neg (by omega), if_neg (by omega), if_neg (by omega), htop, hsecond, (digit_last hd3).1,
        (digit_last hd3).2, (digit_last hd2).2, (digit_last hd1).2, toUInt8_eq (by omega : 0xF0 + l.bits = b.toNat),
        toUInt8_eq hb1.symm, toUInt8_eq hb2.symm, toUInt8_eq hb3.symm]
      rfl
  · cases h

theorem decodeFrom_sound {i fuel : Nat} {bs : List UInt8} {t : Text} (h : decodeFrom i fuel bs = .ok t)
    (hf : bs.length ≤ fuel) : bs = encode t := by
  induction fuel generalizing i bs t with
  | zero =>
    obtain rfl : bs = [] := List.eq_nil_of_length_eq_zero (by omega)
    cases h
    rfl
  | succ fuel ih =>
    cases bs with
    | nil =>
      cases h
      rfl
    | cons b bs =>
      rw [decodeFrom] at h
      split at h
      · cases h
      · rename_i c taken rest hnext
        split at h
        · cases h
        · rename_i t' hrest
          cases h
          have hfront := next_sound hnext
          have hlen := congrArg List.length hfront
          have hpos := encodeChar_length_pos c
          simp only [List.length_cons, List.length_append] at hlen hf
          rw [hfront, ih hrest (by omega)]
          rfl

/-- Octets decode to a text exactly if they are its octets. -/
theorem decode_eq_ok {bs : List UInt8} {t : Text} : decode bs = .ok t ↔ bs = encode t := by
  constructor
  · intro h
    exact decodeFrom_sound h (Nat.le_refl _)
  · rintro rfl
    exact decode_encode t

theorem encode_injective {t u : Text} (h : encode t = encode u) : t = u := by
  have := decode_encode t
  rw [h, decode_encode] at this
  exact (Except.ok.inj this).symm

end Text.Utf8

/-! ## Line ends -/

namespace Document

theorem unifyLines_plain (t : Text) : ∀ c ∈ unifyLines t, c ≠ '\r' := by
  fun_induction unifyLines t with
  | case1 => intro c hc; cases hc
  | case2 t ih =>
    intro c hc
    rcases List.mem_cons.mp hc with rfl | hc
    · decide
    · exact ih c hc
  | case3 d t _ ih =>
    intro c hc
    rcases List.mem_cons.mp hc with rfl | hc
    · split
      · decide
      · assumption
    · exact ih c hc

theorem unifyLines_of_plain {t : Text} (h : ∀ c ∈ t, c ≠ '\r') : unifyLines t = t := by
  fun_induction unifyLines t with
  | case1 => rfl
  | case2 t _ => exact absurd rfl (h '\r' List.mem_cons_self)
  | case3 d t _ ih => rw [if_neg (h d List.mem_cons_self), ih fun c hc => h c (List.mem_cons_of_mem d hc)]

end Document

/-! ## Files -/

namespace FileTree

theorem lookup_setEntry (names : List Text) (e : Entry) (l : List (List Text × Entry)) (ns : List Text) :
    (setEntry names e l).lookup ns = if ns = names then some e else l.lookup ns := by
  induction l with
  | nil =>
    rw [setEntry, List.lookup_cons]
    by_cases h : ns = names
    · simp [h]
    · simp [h, beq_eq_false_iff_ne.mpr h]
  | cons x l ih =>
    obtain ⟨n, f⟩ := x
    rw [setEntry]
    by_cases hn : n = names
    · subst hn
      by_cases h : ns = n
      · simp [h]
      · simp [List.lookup_cons, h, beq_eq_false_iff_ne.mpr h]
    · rw [if_neg hn, List.lookup_cons, List.lookup_cons, ih]
      by_cases h : ns = n
      · subst h
        simp [hn]
      · simp [beq_eq_false_iff_ne.mpr h]

/-- The same directories stand in both trees, nothing else is missing in either, and the same troubles are in the
way. -/
structure SameShape (t u : FileTree) : Prop where
  none : ∀ ns, t.entry? ns = none ↔ u.entry? ns = none
  directory : ∀ ns, t.entry? ns = some .directory ↔ u.entry? ns = some .directory
  troubles : t.troubles = u.troubles

theorem SameShape.refl (t : FileTree) : SameShape t t := ⟨fun _ => Iff.rfl, fun _ => Iff.rfl, rfl⟩

theorem SameShape.symm {t u : FileTree} (h : SameShape t u) : SameShape u t :=
  ⟨fun ns => (h.none ns).symm, fun ns => (h.directory ns).symm, h.troubles.symm⟩

theorem SameShape.trans {t u v : FileTree} (h : SameShape t u) (h' : SameShape u v) : SameShape t v :=
  ⟨fun ns => (h.none ns).trans (h'.none ns), fun ns => (h.directory ns).trans (h'.directory ns),
    h.troubles.trans h'.troubles⟩

theorem SameShape.trouble? {t u : FileTree} (h : SameShape t u) (names : List Text) (use : Use) :
    t.trouble? names use = u.trouble? names use := by
  rw [FileTree.trouble?, FileTree.trouble?, h.troubles]

/-- Where one tree has a file, the other has one. -/
theorem SameShape.file {t u : FileTree} (h : SameShape t u) {ns : List Text} {o : List UInt8}
    (hf : t.entry? ns = some (.file o)) : ∃ o', u.entry? ns = some (.file o') := by
  cases hu : u.entry? ns with
  | none =>
    rw [(h.none ns).mpr hu] at hf
    cases hf
  | some e =>
    cases e with
    | directory =>
      rw [(h.directory ns).mpr hu] at hf
      cases hf
    | file o' => exact ⟨o', rfl⟩

theorem walk_of_sameShape {t u : FileTree} (h : SameShape t u) (current names : List Text) :
    t.walk current names = u.walk current names := by
  induction names generalizing current with
  | nil => rfl
  | cons n ns ih =>
    rw [walk, walk]
    cases ht : t.entry? current with
    | none => rw [(h.none current).mp ht]
    | some e =>
      cases e with
      | directory =>
        rw [(h.directory current).mp ht]
        simp only [ih, h.trouble?]
      | file o =>
        obtain ⟨o', hu⟩ := h.file ht
        rw [hu]

theorem locate_of_sameShape {t u : FileTree} (h : SameShape t u) (current p : Path) :
    t.locate current p = u.locate current p := by
  rw [locate, locate, walk_of_sameShape h]

/-- Whether a path leads to a file is a matter of shape, -/
theorem isFile_of_sameShape {t u : FileTree} (h : SameShape t u) (current p : Path) :
    t.isFile current p = u.isFile current p := by
  rw [isFile, isFile, locate_of_sameShape h]
  split
  · rfl
  · rename_i names _
    cases ht : t.entry? names with
    | none => rw [(h.none names).mp ht]
    | some e =>
      cases e with
      | directory => rw [(h.directory names).mp ht]
      | file o =>
        obtain ⟨o', hu⟩ := h.file ht
        rw [hu]

/-- and so is what comes of putting octets in one. -/
theorem save_of_sameShape {t u : FileTree} (h : SameShape t u) (current p : Path) (octets : List UInt8) :
    t.save current p octets = u.save current p octets := by
  simp only [save, locate_of_sameShape h, h.trouble?]

/-- What was saved without a fault was saved whole. -/
theorem save_done {t : FileTree} {current p : Path} {octets : List UInt8} {held : Option (List UInt8)}
    (h : t.save current p octets = (held, none)) : held = some octets := by
  unfold save at h
  split at h
  · cases h
  · split at h
    · exact (Prod.mk.inj h).1.symm
    · cases h

/-- What a file holds whose writing was given up is the first part of what was to be written. -/
theorem save_cut {t : FileTree} {current p : Path} {octets held : List UInt8} {f : FileFault}
    (h : t.save current p octets = (some held, some f)) : ∃ n, held = octets.take n := by
  unfold save at h
  split at h
  · cases h
  · split at h
    · cases h
    · rename_i w _
      obtain ⟨n, -, hn⟩ := Option.map_eq_some_iff.mp (Prod.mk.inj h).1
      exact ⟨n, hn.symm⟩

/-- Writing the file is given up on the way. -/
def GivesUp (t : FileTree) (current p : Path) : Prop := ∃ octets held f, t.save current p octets = (some held, some f)

theorem GivesUp.of_sameShape {t u : FileTree} (h : SameShape t u) {current p : Path} (hp : t.GivesUp current p) :
    u.GivesUp current p := by
  obtain ⟨octets, held, f, hsave⟩ := hp
  exact ⟨octets, held, f, save_of_sameShape h current p octets ▸ hsave⟩

/-- A path leads to a file that can be read. -/
def Readable (t : FileTree) (current p : Path) : Prop := ∃ octets, t.read current p = .ok octets

/-- A file that can be read stands at the end of its path, and nothing is in the way. -/
theorem read_cases {t : FileTree} {current p : Path} {octets : List UInt8} (h : t.read current p = .ok octets) :
    ∃ names, t.locate current p = .ok names ∧ t.entries.lookup names = some (.file octets) ∧ names ≠ [] ∧
      t.trouble? names .read = none := by
  unfold read at h
  split at h
  · cases h
  · rename_i names hnames
    split at h
    · cases h
    · cases h
    · rename_i found hfound
      split at h
      · cases h
      · rename_i hfree
        obtain rfl := Except.ok.inj h
        unfold entry? at hfound
        split at hfound
        · cases hfound
        · rename_i hne
          exact ⟨names, hnames, hfound, by simpa using hne, hfree⟩

theorem Readable.isFile {t : FileTree} {current p : Path} (h : t.Readable current p) :
    t.isFile current p = .ok true := by
  obtain ⟨octets, hread⟩ := h
  obtain ⟨names, hloc, hlookup, hne, -⟩ := read_cases hread
  simp [FileTree.isFile, hloc, entry?, hne, hlookup]

/-- Whether a file can be read is a matter of shape. -/
theorem Readable.of_sameShape {t u : FileTree} (h : SameShape t u) {current p : Path} (hp : t.Readable current p) :
    u.Readable current p := by
  obtain ⟨octets, hread⟩ := hp
  obtain ⟨names, hloc, hlookup, hne, hfree⟩ := read_cases hread
  obtain ⟨o', hu⟩ := h.file (by simp [ entry?, hne, hlookup] : t.entry? names = some (.file octets))
  refine ⟨o', ?_⟩
  simp only [read, ← locate_of_sameShape h, hloc, hu, ← h.trouble?, hfree]

theorem entry?_setEntry {t : FileTree} {names : List Text} (hne : names ≠ []) (e : Entry) (ns : List Text) :
    entry? { t with entries := setEntry names e t.entries } ns = if ns = names then some e else t.entry? ns := by
  unfold entry?
  simp only [lookup_setEntry]
  by_cases hns : ns = []
  · subst hns
    simp [hne.symm]
  · simp [hns]

theorem sameShape_setEntry {t : FileTree} {names : List Text} {old new : List UInt8} (hne : names ≠ [])
    (h : t.entries.lookup names = some (.file old)) :
    SameShape t { t with entries := setEntry names (.file new) t.entries } := by
  have ht : t.entry? names = some (.file old) := by simp [ entry?, hne, h]
  refine ⟨fun ns => ?_, fun ns => ?_, rfl⟩
  all_goals
    rw [ entry?_setEntry hne]
    by_cases hns : ns = names
    · subst hns
      simp [ht]
    · simp [hns]

/-- Writing a file puts its octets in its place. -/
theorem write_eq {t : FileTree} {current p : Path} (h : t.Readable current p) (new : List UInt8) :
    ∃ names, t.locate current p = .ok names ∧ names ≠ [] ∧ t.trouble? names .read = none ∧
      SameShape t (t.write current p new) ∧
      t.write current p new = { t with entries := setEntry names (.file new) t.entries } := by
  obtain ⟨old, hread⟩ := h
  obtain ⟨names, hloc, hlookup, hne, hfree⟩ := read_cases hread
  have heq : t.write current p new = { t with entries := setEntry names (.file new) t.entries } := by rw [write, hloc]
  exact ⟨names, hloc, hne, hfree, heq ▸ sameShape_setEntry hne hlookup, heq⟩

theorem sameShape_write {t : FileTree} {current p : Path} (h : t.Readable current p) (octets : List UInt8) :
    SameShape t (t.write current p octets) := by
  obtain ⟨-, -, -, -, hshape, -⟩ := write_eq h octets
  exact hshape

/-- A file holds what was written to it. -/
theorem read_write {t : FileTree} {current p : Path} (h : t.Readable current p) (new : List UInt8) :
    (t.write current p new).read current p = .ok new := by
  obtain ⟨names, hloc, hne, hfree, hshape, heq⟩ := write_eq h new
  rw [read, ← locate_of_sameShape hshape, hloc]
  simp only [← hshape.trouble?, hfree]
  rw [heq]
  simp only [ entry?_setEntry hne, if_true]

/-- Two paths that do not lead to one place. -/
def Apart (t : FileTree) (current p q : Path) : Prop :=
  ∀ names, t.locate current p = .ok names → t.locate current q ≠ .ok names

theorem apart_of_sameShape {t u : FileTree} (h : SameShape t u) {current p q : Path} (ha : t.Apart current p q) :
    u.Apart current p q := by
  intro names
  rw [← locate_of_sameShape h, ← locate_of_sameShape h]
  exact ha names

/-- Other files hold what they held. -/
theorem read_write_apart {t : FileTree} {current p q : Path} (h : t.Readable current p) (new : List UInt8)
    (hq : t.Apart current q p) : (t.write current p new).read current q = t.read current q := by
  obtain ⟨names, hloc, hne, -, hshape, heq⟩ := write_eq h new
  rw [read, read, ← locate_of_sameShape hshape]
  cases hlq : t.locate current q with
  | error f => rfl
  | ok ns =>
    have hns : ns ≠ names := fun e => hq ns hlq (e ▸ hloc)
    have hentry : FileTree.entry? (t.write current p new) ns =
        t.entry? ns := by rw [heq, entry?_setEntry hne, if_neg hns]
    simp only [hentry, ← hshape.trouble?]

/-- The tree with files written one after the other. -/
def writeAll (t : FileTree) (current : Path) (files : List (Path × List UInt8)) : FileTree :=
  files.foldl (fun t f => t.write current f.1 f.2) t

theorem writeAll_append (t : FileTree) (current : Path) (l m : List (Path × List UInt8)) :
    t.writeAll current (l ++ m) = (t.writeAll current l).writeAll current m := List.foldl_append

theorem Apart.symm {t : FileTree} {current p q : Path} (h : t.Apart current p q) : t.Apart current q p :=
  fun names hq hp => h names hp hq

instance (t : FileTree) (current : Path) : Std.Symm (t.Apart current) := ⟨fun _ _ => Apart.symm⟩

/-! ## Many files -/

/-- Files that can be read and stand in different places. -/
structure Separate (t : FileTree) (current : Path) (puts : List (Path × List UInt8)) : Prop where
  files : ∀ x ∈ puts, t.Readable current x.1
  apart : puts.Pairwise fun x y => t.Apart current x.1 y.1

theorem SameShape.separate {t u : FileTree} (h : SameShape t u) {current : Path} {puts : List (Path × List UInt8)}
    (hp : t.Separate current puts) : u.Separate current puts :=
  ⟨fun x hx => (hp.files x hx).of_sameShape h, hp.apart.imp fun ha => apart_of_sameShape h ha⟩

section Separate

variable {t : FileTree} {current q : Path} {x : Path × List UInt8} {puts puts' : List (Path × List UInt8)}

theorem Separate.tail (h : t.Separate current (x :: puts)) : t.Separate current puts :=
  ⟨fun y hy => h.files y (List.mem_cons_of_mem x hy), (List.pairwise_cons.mp h.apart).2⟩

/-- When the first file is written, the others still stand in different places. -/
theorem Separate.next (h : t.Separate current (x :: puts)) : (t.write current x.1 x.2).Separate current puts :=
  (sameShape_write (h.files x List.mem_cons_self) x.2).separate h.tail

theorem Separate.perm (h : t.Separate current puts) (hperm : puts.Perm puts') : t.Separate current puts' :=
  ⟨fun x hx => h.files x (hperm.mem_iff.mpr hx), h.apart.perm hperm Apart.symm⟩

theorem Separate.sameShape (h : t.Separate current puts) : SameShape t (t.writeAll current puts) := by
  induction puts generalizing t with
  | nil => exact SameShape.refl t
  | cons x puts ih => exact (sameShape_write (h.files x List.mem_cons_self) x.2).trans (ih h.next)

/-- Files in other places hold what they held. -/
theorem Separate.read_apart (h : t.Separate current puts) (hq : ∀ x ∈ puts, t.Apart current q x.1) :
    (t.writeAll current puts).read current q = t.read current q := by
  induction puts generalizing t with
  | nil => rfl
  | cons x puts ih =>
    obtain ⟨hfirst, hrest⟩ := List.forall_mem_cons.mp hq
    have hfile := h.files x List.mem_cons_self
    calc ((t.write current x.1 x.2).writeAll current puts).read current q
        = (t.write current x.1 x.2).read current q :=
          ih h.next fun y hy => apart_of_sameShape (sameShape_write hfile x.2) (hrest y hy)
      _ = t.read current q := read_write_apart hfile x.2 hfirst

end Separate

end FileTree

/-- What is written for a text without returns is read back as it is. -/
theorem Command.Progress.document_encode {t : Text} (h : ∀ c ∈ t, c ≠ '\r') :
    document (Text.Utf8.encode t) = .ok t := by
  rw [document, Text.Utf8.decode_encode]
  simp only [Except.map, Document.unifyLines_of_plain h]

theorem Command.Progress.document_eq_ok {octets : List UInt8} {t : Text} :
    document octets = .ok t ↔ ∃ u, Text.Utf8.decode octets = .ok u ∧ Document.unifyLines u = t := by
  unfold document
  cases Text.Utf8.decode octets <;> simp [Except.map]

theorem Command.Progress.document_eq_error {octets : List UInt8} {f : Text.Utf8.Fault} :
    document octets = .error f ↔ Text.Utf8.decode octets = .error f := by
  unfold document
  cases Text.Utf8.decode octets <;> simp [Except.map]

theorem Command.Progress.document_plain {octets : List UInt8} {t : Text} (h : document octets = .ok t) :
    ∀ c ∈ t, c ≠ '\r' := by
  obtain ⟨u, -, rfl⟩ := document_eq_ok.mp h
  exact Document.unifyLines_plain u

end ClassTidy
