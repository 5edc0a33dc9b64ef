/-
  ClassTidy.Proofs.Callees — which calls are looked into.

  Neither names nor blanks hold a parenthesis. So whatever name is found, and wherever it
  begins, the call opens at the next parenthesis, and between two parentheses there is one
  call at most (`firstOpening?_named`, `callsFrom_parenthesis`). The search from the left is
  the same as asking every parenthesis whether a name and blanks stand before it.

  Proved (`calls_exact`): the parentheses that are looked into are exactly these, each of
  them once and in order, so neither the order of the names nor repeats among them matter.

  What stands before a parenthesis can be the end of a longer identifier. The callee is the
  whole identifier (`callee`), and a name that stands at its end is enough to be found
  (`ends_iff_callee`).

  Proved (`calls_callee`): calls are looked into exactly if their callee ends in one of the
  names, every span lies among the arguments of such a call, and each lies among those of a
  call to one of the names exactly if that holds of the spans in calls to longer identifiers.
-/
import Mathlib.Data.List.DropRight
import ClassTidy.Text.Letters
import ClassTidy.Proofs.Balance

namespace ClassTidy

/-! ## From parenthesis to parenthesis -/

/-- Induction over the parts of a text between the occurrences of a character. -/
theorem Text.parted_induction {c : Char} {P : Text → Prop} (last : ∀ t, c ∉ t → P t)
    (next : ∀ s rest, c ∉ s → P rest → P (s ++ c :: rest)) (t : Text) : P t := by
  induction hlen : t.length using Nat.strong_induction_on generalizing t with
  | _ n ih =>
    subst hlen
    by_cases h : c ∈ t
    · obtain ⟨s, rest, ht, hs⟩ := List.eq_append_cons_of_mem h
      have hshort : rest.length < t.length := by
        rw [ht, List.length_append, List.length_cons]
        omega
      rw [ht]
      exact next s rest hs (ih rest.length hshort rest rfl)
    · exact last t h

/-- An occurrence of a character is the first one, or it is behind the first one. -/
theorem Text.occurrence_cases {c : Char} {s rest u v : Text} (hs : c ∉ s) (h : s ++ c :: rest = u ++ c :: v) :
    (u = s ∧ v = rest) ∨ ∃ w, u = s ++ c :: w ∧ rest = w ++ c :: v := by
  rcases List.append_eq_append_iff.mp h with ⟨w, hu, hrest⟩ | ⟨w, hw, hv⟩
  · cases w with
    | nil =>
      obtain ⟨-, hrest⟩ := List.cons.inj hrest
      exact Or.inl ⟨by simpa using hu, hrest.symm⟩
    | cons d w =>
      obtain ⟨hd, hrest⟩ := List.cons.inj hrest
      rw [← hd] at hu
      exact Or.inr ⟨w, hu, hrest⟩
  · cases w with
    | nil =>
      obtain ⟨-, hrest⟩ := List.cons.inj hv
      exact Or.inl ⟨by simpa using hw.symm, hrest⟩
    | cons d w =>
      obtain ⟨hd, -⟩ := List.cons.inj hv
      rw [← hd] at hw
      exact absurd (by rw [hw]; simp) hs

namespace Span

open Text (isBlank)

/-- One of the names, with blanks behind it. -/
def Named (names : List Text) (u : Text) : Prop :=
  ∃ name ∈ names, ∃ gap, u = name ++ gap ∧ ∀ c ∈ gap, isBlank c = true

/-- One of the names stands at the end of a text, with blanks behind it. -/
def Ends (names : List Text) (s : Text) : Prop := ∃ u, u <:+ s ∧ Named names u

/-- The parenthesis at `q` comes behind one of the names and blanks. -/
def Opened (names : List Text) (t : Text) (q : Nat) : Prop := t[q]? = some '(' ∧ Ends names (t.take q)

/-- An opening is a name, blanks and the parenthesis. -/
theorem opens?_eq_some {name t : Text} {n : Nat} :
    opens? name t = some n ↔
      ∃ gap rest, t = name ++ gap ++ '(' :: rest ∧ (∀ c ∈ gap, isBlank c = true) ∧
        n = (name ++ gap).length + 1 := by
  rw [opens?_eq, Opening.size?_eq_some (callOpening_sharp name)]
  constructor
  · intro ⟨s, rest, ht, hn, gap, m, q, heq, hgap, hm, hq⟩
    obtain ⟨c, l, hc, hl, rfl⟩ := List.forall₂_cons_left_iff.mp hm
    obtain rfl := List.forall₂_nil_left_iff.mp hl
    obtain rfl := List.forall₂_nil_left_iff.mp hq
    obtain rfl : c = '(' := eq_of_beq hc
    have hs : s = name ++ gap ++ ['('] := by simpa [callOpening] using heq
    subst hs
    exact ⟨gap, rest, by simp [ht], hgap, by simp [← hn, Nat.add_assoc]⟩
  · intro ⟨gap, rest, ht, hgap, hn⟩
    have hpasses : Text.Passes (callOpening name).behind ['('] := .cons (by simp) .nil
    exact ⟨name ++ gap ++ ['('], rest, by simp [ht], by simp [hn, Nat.add_assoc], gap, ['('], [],
      by simp [callOpening], hgap,
      hpasses, .nil⟩

variable {names : List Text}

theorem not_mem_named (hnames : ∀ n ∈ names, '(' ∉ n) {u : Text} (h : Named names u) : '(' ∉ u := by
  obtain ⟨name, hname, gap, rfl, hgap⟩ := h
  intro hmem
  rcases List.mem_append.mp hmem with hmem | hmem
  · exact hnames name hname hmem
  · exact absurd (hgap '(' hmem) (by decide)

/-- A call that opens in front of a text opens at its first parenthesis. -/
theorem opens?_parenthesis (hnames : ∀ n ∈ names, '(' ∉ n) {name s rest : Text} (hs : '(' ∉ s)
    (hname : name ∈ names) {n : Nat} (h : opens? name (s ++ '(' :: rest) = some n) :
    Named names s ∧ n = s.length + 1 := by
  obtain ⟨gap, rest', ht, hgap, hn⟩ := opens?_eq_some.mp h
  have hu : Named names (name ++ gap) := ⟨name, hname, gap, rfl, hgap⟩
  rcases Text.occurrence_cases hs ht with ⟨hsame, -⟩ | ⟨w, hw, -⟩
  · rw [hsame] at hu hn
    exact ⟨hu, hn⟩
  · exact absurd (by rw [hw]; simp) (not_mem_named hnames hu)

theorem firstOpening?_named (hnames : ∀ n ∈ names, '(' ∉ n) {s : Text} (h : Named names s) (rest : Text) :
    firstOpening? names (s ++ '(' :: rest) = some (s.length + 1) := by
  have hs := not_mem_named hnames h
  obtain ⟨name, hname, gap, heq, hgap⟩ := h
  have hopens : opens? name (s ++ '(' :: rest) = some (s.length + 1) :=
    opens?_eq_some.mpr ⟨gap, rest, by rw [heq], hgap, by rw [heq]⟩
  have hsome : (firstOpening? names (s ++ '(' :: rest)).isSome = true :=
    List.findSome?_isSome_iff.mpr ⟨name, hname, by simp [hopens]⟩
  -- some name is found, and all of them lead to the same parenthesis
  obtain ⟨n, hn⟩ := Option.isSome_iff_exists.mp hsome
  obtain ⟨first, hfirst, hfound⟩ := List.exists_of_findSome?_eq_some hn
  rw [hn, (opens?_parenthesis hnames hs hfirst hfound).2]

theorem firstOpening?_not_named (hnames : ∀ n ∈ names, '(' ∉ n) {s : Text} (hs : '(' ∉ s)
    (h : ¬ Named names s) (rest : Text) :
    firstOpening? names (s ++ '(' :: rest) = none := by
  apply List.findSome?_eq_none_iff.mpr
  intro name hname
  by_contra hsome
  obtain ⟨n, hn⟩ := Option.ne_none_iff_exists'.mp hsome
  exact h (opens?_parenthesis hnames hs hname hn).1

theorem firstOpening?_no_parenthesis {t : Text} (ht : '(' ∉ t) : firstOpening? names t = none := by
  apply List.findSome?_eq_none_iff.mpr
  intro name hname
  by_contra hsome
  obtain ⟨n, hn⟩ := Option.ne_none_iff_exists'.mp hsome
  obtain ⟨gap, rest, heq, -⟩ := opens?_eq_some.mp hn
  exact ht (by rw [heq]; simp)

theorem ends_cons {c : Char} {s : Text} : Ends names (c :: s) ↔ Named names (c :: s) ∨ Ends names s := by
  constructor
  · intro ⟨u, hu, hnamed⟩
    rcases List.suffix_cons_iff.mp hu with rfl | hu
    · exact Or.inl hnamed
    · exact Or.inr ⟨u, hu, hnamed⟩
  · intro h
    rcases h with h | ⟨u, hu, hnamed⟩
    · exact ⟨c :: s, List.suffix_refl _, h⟩
    · exact ⟨u, hu.trans (List.suffix_cons c s), hnamed⟩

/-- What stands at the end of a text stands behind its last parenthesis. -/
theorem ends_behind (hnames : ∀ n ∈ names, '(' ∉ n) (s w : Text) :
    Ends names (s ++ '(' :: w) ↔ Ends names w := by
  have hlast : w <:+ s ++ '(' :: w := (List.suffix_cons '(' w).trans (List.suffix_append s ('(' :: w))
  constructor
  · intro ⟨u, hu, hnamed⟩
    refine ⟨u, ?_, hnamed⟩
    by_cases hlen : u.length ≤ w.length
    · exact List.suffix_of_suffix_length_le hu hlast hlen
    · -- a longer one would hold the parenthesis
      obtain ⟨v, hv⟩ : '(' :: w <:+ u :=
        List.suffix_of_suffix_length_le (List.suffix_append s ('(' :: w)) hu (by simp only [List.length_cons]; omega)
      exact absurd (by rw [← hv]; simp) (not_mem_named hnames hnamed)
  · intro ⟨u, hu, hnamed⟩
    exact ⟨u, hu.trans hlast, hnamed⟩

theorem callsFrom_skip (skip i : Nat) (t : Text) :
    callsFrom names skip i t = callsFrom names 0 (i + skip) (t.drop skip) := by
  rw [callsFrom_eq_sweep, callsFrom_eq_sweep, Text.sweep_skip]

theorem callsFrom_no_parenthesis {t : Text} (ht : '(' ∉ t) (i : Nat) : callsFrom names 0 i t = [] := by
  induction t generalizing i with
  | nil => rfl
  | cons c t ih =>
    simp only [callsFrom, firstOpening?_no_parenthesis ht]
    exact ih (fun hmem => ht (List.mem_cons_of_mem c hmem)) (i + 1)

/-- Up to a parenthesis the search finds that one or nothing, and then goes on behind it. -/
theorem callsFrom_parenthesis (hnames : ∀ n ∈ names, '(' ∉ n) {s : Text} (hs : '(' ∉ s) (i : Nat)
    (rest : Text) :
    (Ends names s ∧
      callsFrom names 0 i (s ++ '(' :: rest) = (i + s.length) :: callsFrom names 0 (i + s.length + 1) rest) ∨
    (¬ Ends names s ∧ callsFrom names 0 i (s ++ '(' :: rest) = callsFrom names 0 (i + s.length + 1) rest) := by
  induction s generalizing i with
  | nil =>
    by_cases h : Named names []
    · have hfirst := firstOpening?_named hnames h rest
      simp only [List.nil_append, List.length_nil] at hfirst
      exact Or.inl ⟨⟨[], List.suffix_refl _, h⟩, by simp [callsFrom, hfirst]⟩
    · have hfirst := firstOpening?_not_named hnames hs h rest
      rw [List.nil_append] at hfirst
      refine Or.inr ⟨?_, by simp [callsFrom, hfirst]⟩
      intro hends
      obtain ⟨u, hu, hnamed⟩ := hends
      rw [List.suffix_nil.mp hu] at hnamed
      exact h hnamed
  | cons c s ih =>
    by_cases h : Named names (c :: s)
    · have hfirst := firstOpening?_named hnames h rest
      refine Or.inl ⟨ends_cons.mpr (Or.inl h), ?_⟩
      rw [List.cons_append] at hfirst ⊢
      simp only [callsFrom, hfirst]
      rw [callsFrom_skip, List.length_cons, show s.length + 1 + 1 - 1 = (s ++ ['(']).length by simp,
        show s ++ '(' :: rest = s ++ ['('] ++ rest by simp, List.drop_left, List.length_append, List.length_singleton]
      congr 2
      omega
    · have hfirst := firstOpening?_not_named hnames hs h rest
      have hnext := ih (fun hmem => hs (List.mem_cons_of_mem c hmem)) (i + 1)
      rw [List.cons_append] at hfirst ⊢
      simp only [callsFrom, hfirst, ends_cons, h, false_or, List.length_cons]
      rwa [show i + 1 + s.length = i + (s.length + 1) by omega] at hnext

theorem mem_callsFrom_parenthesis (hnames : ∀ n ∈ names, '(' ∉ n) {s : Text} (hs : '(' ∉ s) (i : Nat)
    (rest : Text) (q : Nat) :
    q ∈ callsFrom names 0 i (s ++ '(' :: rest) ↔
      (q = i + s.length ∧ Ends names s) ∨ q ∈ callsFrom names 0 (i + s.length + 1) rest := by
  rcases callsFrom_parenthesis hnames hs i rest with ⟨hends, hfound⟩ | ⟨hends, hfound⟩
  · simp [hfound, hends]
  · simp [hfound, hends]

/-! ## The parentheses that are looked into -/

theorem opened_iff {t : Text} {q : Nat} :
    Opened names t q ↔ ∃ s rest, t = s ++ '(' :: rest ∧ q = s.length ∧ Ends names s := by
  constructor
  · intro ⟨hopen, hends⟩
    obtain ⟨hlt, hget⟩ := List.getElem?_eq_some_iff.mp hopen
    refine ⟨t.take q, t.drop (q + 1), ?_, by rw [List.length_take]; omega, hends⟩
    rw [← hget, ← List.drop_eq_getElem_cons hlt, List.take_append_drop]
  · intro ⟨s, rest, ht, hq, hends⟩
    subst ht hq
    exact ⟨by simp, by simpa using hends⟩

/-- A parenthesis of a text is the first one, or one of those behind it. -/
theorem opened_append (hnames : ∀ n ∈ names, '(' ∉ n) {s : Text} (hs : '(' ∉ s) (rest : Text) (q : Nat) :
    Opened names (s ++ '(' :: rest) q ↔
      (q = s.length ∧ Ends names s) ∨ ∃ p, q = s.length + 1 + p ∧ Opened names rest p := by
  simp only [opened_iff]
  constructor
  · intro ⟨u, v, heq, hq, hends⟩
    rcases Text.occurrence_cases hs heq with ⟨hu, -⟩ | ⟨w, hu, hrest⟩
    · rw [hu] at hq hends
      exact Or.inl ⟨hq, hends⟩
    · rw [hu] at hq hends
      rw [List.length_append, List.length_cons] at hq
      exact Or.inr ⟨w.length, by omega, w, v, hrest, rfl, (ends_behind hnames s w).mp hends⟩
  · intro h
    rcases h with ⟨hq, hends⟩ | ⟨p, hq, w, v, hrest, hp, hends⟩
    · exact ⟨s, rest, rfl, hq, hends⟩
    · refine ⟨s ++ '(' :: w, v, by rw [hrest]; simp, ?_, (ends_behind hnames s w).mpr hends⟩
      rw [List.length_append, List.length_cons]
      omega

/-- The search finds exactly the parentheses behind names and blanks. -/
theorem mem_callsFrom (hnames : ∀ n ∈ names, '(' ∉ n) (t : Text) (i q : Nat) :
    q ∈ callsFrom names 0 i t ↔ ∃ p, q = i + p ∧ Opened names t p := by
  induction t using Text.parted_induction (c := '(') generalizing i with
  | last t ht =>
    rw [callsFrom_no_parenthesis ht]
    constructor
    · intro h
      cases h
    · intro ⟨p, _, hopened⟩
      obtain ⟨s, rest, heq, -⟩ := opened_iff.mp hopened
      exact absurd (by rw [heq]; simp) ht
  | next s rest hs ih =>
    simp only [mem_callsFrom_parenthesis hnames hs, opened_append hnames hs, ih]
    constructor
    · intro h
      rcases h with ⟨hq, hends⟩ | ⟨p, hq, hopened⟩
      · exact ⟨s.length, hq, Or.inl ⟨rfl, hends⟩⟩
      · exact ⟨s.length + 1 + p, by omega, Or.inr ⟨p, rfl, hopened⟩⟩
    · intro ⟨p, hq, h⟩
      rcases h with ⟨hp, hends⟩ | ⟨p', hp, hopened⟩
      · exact Or.inl ⟨by omega, hends⟩
      · exact Or.inr ⟨p', by omega, hopened⟩

theorem callsFrom_ascending (hnames : ∀ n ∈ names, '(' ∉ n) (t : Text) (i : Nat) :
    (callsFrom names 0 i t).Pairwise (· < ·) := by
  induction t using Text.parted_induction (c := '(') generalizing i with
  | last t ht =>
    rw [callsFrom_no_parenthesis ht]
    exact List.Pairwise.nil
  | next s rest hs ih =>
    rcases callsFrom_parenthesis hnames hs i rest with ⟨-, hfound⟩ | ⟨-, hfound⟩
    · rw [hfound, List.pairwise_cons]
      refine ⟨?_, ih _⟩
      intro q hq
      obtain ⟨p, hp, -⟩ := (mem_callsFrom hnames rest _ q).mp hq
      omega
    · rw [hfound]
      exact ih _

/-- Only which names there are matters, not their order and number. -/
theorem callsFrom_congr (hnames : ∀ n ∈ names, '(' ∉ n) {names' : List Text}
    (h : ∀ n, n ∈ names' ↔ n ∈ names) (t : Text) :
    callsFrom names' 0 0 t = callsFrom names 0 0 t := by
  have hnames' : ∀ n ∈ names', '(' ∉ n := by
    intro n hn
    exact hnames n ((h n).mp hn)
  have hopened : ∀ p, Opened names' t p ↔ Opened names t p := by
    intro p
    simp only [Opened, Ends, Named, h]
  apply List.Pairwise.eq_of_mem_iff (callsFrom_ascending hnames' t 0) (callsFrom_ascending hnames t 0)
  intro q
  simp only [mem_callsFrom hnames', mem_callsFrom hnames, hopened]

/-- The parentheses that are looked into are those behind one of the names and blanks, each of them once and in order,
and the spans are those among their arguments. The names can come in any order and be repeated, and one can be the
beginning or the end of another; no name may hold a parenthesis itself. -/
theorem calls_exact (t : Text) (names : List Text) (hnames : ∀ n ∈ names, '(' ∉ n) :
    (∀ q, q ∈ callsFrom names 0 0 t ↔ Opened names t q) ∧
    (callsFrom names 0 0 t).Pairwise (· < ·) ∧
    ofCalls t names = (callsFrom names 0 0 t).flatMap (argumentsAt t) ∧
    ∀ names', (∀ n, n ∈ names' ↔ n ∈ names) →
      callsFrom names' 0 0 t = callsFrom names 0 0 t ∧ ofCalls t names' = ofCalls t names := by
  refine ⟨?_, callsFrom_ascending hnames t 0, rfl, ?_⟩
  · intro q
    rw [mem_callsFrom hnames]
    simp
  · intro names' h
    have hsame := callsFrom_congr hnames h t
    exact ⟨hsame, by rw [ofCalls, ofCalls, hsame]⟩

/-- A call in a call, blanks before a parenthesis, and names that are the end of one another. -/
theorem calls_exact_nested :
    let t := "acn (n('p-4 flex'), cn\t('m-2 m-1'))".toList
    let names := ["cn".toList, "n".toList, "acn".toList, "cn".toList]
    (∀ n ∈ names, '(' ∉ n) ∧ callsFrom names 0 0 t = [4, 6, 23] ∧ Opened names t 4 ∧
      ofCalls t ["acn".toList, "n".toList, "cn".toList] = ofCalls t names := by
  intro t names
  have hnames : ∀ n ∈ names, '(' ∉ n := by decide
  have hfound : callsFrom names 0 0 t = [4, 6, 23] := by decide +kernel
  obtain ⟨hexact, -, -, hsame⟩ := calls_exact t names hnames
  refine ⟨hnames, hfound, (hexact 4).mp (by simp [hfound]), (hsame _ ?_).2⟩
  intro n
  simp only [names, List.mem_cons, List.not_mem_nil, or_false]
  tauto

/-! ## Callees -/

/-- A character of an identifier: a letter, digit or number of any script, `_` or `$`. -/
def isNameChar (c : Char) : Bool := Text.isWord c.toNat || c == '$'

/-- The identifier before the parenthesis at `q`, as far as it goes, with the blanks between them left out. -/
def callee (t : Text) (q : Nat) : Text := (Text.dropTrailing (t.take q)).rtakeWhile isNameChar

/-- The blanks as closed ranges. -/
def blankRanges : List (Nat × Nat) :=
  [(9, 13), (28, 32), (0x85, 0x85), (0xA0, 0xA0), (0x1680, 0x1680), (0x2000, 0x200A),
    (0x2028, 0x2029), (0x202F, 0x202F),
    (0x205F, 0x205F), (0x3000, 0x3000)]

theorem inRanges_blank {c : Char} (h : isBlank c = true) : Text.inRanges blankRanges c.toNat = true := by
  simp only [isBlank, Bool.or_eq_true, Bool.and_eq_true, decide_eq_true_eq, beq_iff_eq] at h
  simp only [Text.inRanges, blankRanges, List.any_cons, List.any_nil, Bool.or_eq_true, Bool.and_eq_true,
    decide_eq_true_eq]
  omega

/-- Ranges that do not meet have no number in common. -/
theorem inRanges_apart {rs bs : List (Nat × Nat)}
    (h : (rs.all fun r => bs.all fun b => decide (r.2 < b.1) || decide (b.2 < r.1)) = true) {n : Nat}
    (hr : Text.inRanges rs n = true) : Text.inRanges bs n = false := by
  rw [Bool.eq_false_iff]
  intro hb
  obtain ⟨r, hrs, hin⟩ := List.any_eq_true.mp hr
  obtain ⟨b, hbs, hinb⟩ := List.any_eq_true.mp hb
  have hmeet := List.all_eq_true.mp (List.all_eq_true.mp h r hrs) b hbs
  simp only [Bool.and_eq_true, Bool.or_eq_true, decide_eq_true_eq] at hin hinb hmeet
  omega

theorem letters_apart_blanks :
    (Text.letterRanges.all fun r => blankRanges.all fun b => decide (r.2 < b.1) || decide (b.2 < r.1)) = true := by
  decide +kernel

theorem not_blank_of_nameChar {c : Char} (h : isNameChar c = true) : isBlank c = false := by
  rw [Bool.eq_false_iff]
  intro hblank
  have hrange := inRanges_blank hblank
  by_cases hascii : c.toNat < 128
  · have hname : c.toNat = 95 ∨ Text.isAsciiLetter c.toNat = true ∨
        (48 ≤ c.toNat ∧ c.toNat ≤ 57) ∨ c = '$' := by
      simpa [isNameChar, Text.isWord, Text.isAlphanumeric, hascii, or_assoc] using h
    simp [Text.inRanges, blankRanges] at hrange
    rcases hname with hname | hname | hname | rfl
    · omega
    · simp [Text.isAsciiLetter] at hname
      omega
    · omega
    · revert hblank
      decide
  · have hletter : Text.inRanges Text.letterRanges c.toNat = true := by
      have hdollar : c ≠ '$' := by
        intro hc
        subst hc
        exact hascii (by decide)
      have hscore : c.toNat ≠ 95 := by omega
      simpa [isNameChar, Text.isWord, Text.isAlphanumeric, hascii, hdollar, hscore] using h
    rw [inRanges_apart letters_apart_blanks hletter] at hrange
    cases hrange

theorem not_mem_of_nameChars {n : Text} (h : ∀ c ∈ n, isNameChar c = true) : '(' ∉ n := by
  intro hmem
  exact absurd (h '(' hmem) (by decide +kernel)

/-- A name that stands before a parenthesis and blanks stands at the end of the callee. -/
theorem ends_iff_callee (hnames : ∀ n ∈ names, ∀ c ∈ n, isNameChar c = true) (s : Text) :
    Ends names s ↔ ∃ n ∈ names, n <:+ (Text.dropTrailing s).rtakeWhile isNameChar := by
  constructor
  · intro ⟨u, ⟨front, hs⟩, name, hname, gap, hu, hgap⟩
    refine ⟨name, hname, ?_⟩
    by_cases hnil : name = []
    · rw [hnil]
      exact List.nil_suffix
    have hlast : ∀ c ∈ (front ++ name).getLast?, isBlank c = false := by
      intro c hc
      rw [List.getLast?_append_of_ne_nil front hnil] at hc
      exact not_blank_of_nameChar (hnames name hname c (List.mem_of_getLast? hc))
    rw [← hs, hu, ← List.append_assoc, ClassList.dropTrailing_blanks hgap, ClassList.dropTrailing_of_plain hlast,
      List.rtakeWhile, List.reverse_append, List.takeWhile_append_of_pos (by simpa using hnames name hname),
      List.reverse_append, List.reverse_reverse]
    exact List.suffix_append _ _
  · intro ⟨name, hname, hsuffix⟩
    -- the name, and then the blanks that were left out
    obtain ⟨front, hfront⟩ := hsuffix.trans (List.rtakeWhile_suffix isNameChar _)
    have hblanks : Text.dropTrailing s ++ s.rtakeWhile isBlank = s := List.rdropWhile_append_rtakeWhile
    refine ⟨name ++ s.rtakeWhile isBlank, ⟨front, ?_⟩, name, hname, _, rfl,
      fun c hc => List.mem_rtakeWhile_imp hc⟩
    rw [← List.append_assoc, hfront, hblanks]

theorem opened_iff_callee (hnames : ∀ n ∈ names, ∀ c ∈ n, isNameChar c = true) (t : Text) (q : Nat) :
    Opened names t q ↔ t[q]? = some '(' ∧ ∃ n ∈ names, n <:+ callee t q := by
  rw [Opened, ends_iff_callee hnames]
  rfl

/-- A span lies among the arguments that the parenthesis at `q` encloses. -/
def Among (t : Text) (q : Nat) (s : Span) : Prop :=
  ∃ content stop, Encloses t q content stop ∧ q < s.start ∧ s.start + s.full.length ≤ stop

theorem among_of_arguments {t : Text} {q : Nat} {s : Span} (h : s ∈ argumentsAt t q) : Among t q s := by
  unfold argumentsAt at h
  split at h
  · cases h
  · rename_i e he
    obtain ⟨l, hl, rfl⟩ := List.mem_map.mp h
    obtain ⟨k, quote, hk, hfull, -, hstands, -⟩ := stands_of_scan (List.mem_of_mem_filter hl)
    have henc : Encloses t q e.content e.stop := by
      apply enclosed?_iff.mp
      rw [enclosed?, if_neg (by omega), Int.toNat_natCast, he]
    obtain ⟨a, rest, -, hq, hstop, -⟩ := encloses_iff.mp henc
    have hle : k + l.full.length ≤ e.content.length := hstands.le_length (by rw [hfull]; simp)
    refine ⟨e.content, e.stop, henc, ?_, ?_⟩
    · simp only
      omega
    · simp only
      omega

/-- Calls are looked into exactly if their callee ends in one of the names, and every span lies among the arguments of
such a call. So each span lies among the arguments of a call to one of the names exactly if this holds of those in
calls whose callee is longer. -/
theorem calls_callee (t : Text) (names : List Text) (hnames : ∀ n ∈ names, ∀ c ∈ n, isNameChar c = true) :
    (∀ q, q ∈ callsFrom names 0 0 t ↔ t[q]? = some '(' ∧ ∃ n ∈ names, n <:+ callee t q) ∧
    (∀ s ∈ ofCalls t names, ∃ q, Among t q s ∧ ∃ n ∈ names, n <:+ callee t q) ∧
    ((∀ s ∈ ofCalls t names, ∃ q, Among t q s ∧ callee t q ∈ names) ↔
      ∀ q, t[q]? = some '(' → callee t q ∉ names → (∃ n ∈ names, n <:+ callee t q) →
        ∀ s ∈ argumentsAt t q, ∃ p, Among t p s ∧ callee t p ∈ names) := by
  have hplain : ∀ n ∈ names, '(' ∉ n := by
    intro n hn
    exact not_mem_of_nameChars (hnames n hn)
  have hfound : ∀ q, q ∈ callsFrom names 0 0 t ↔ t[q]? = some '(' ∧ ∃ n ∈ names, n <:+ callee t q := by
    intro q
    rw [mem_callsFrom hplain, ← opened_iff_callee hnames]
    simp
  refine ⟨hfound, ?_, ?_, ?_⟩
  · intro s hs
    obtain ⟨q, hq, hs⟩ := List.mem_flatMap.mp hs
    exact ⟨q, among_of_arguments hs, ((hfound q).mp hq).2⟩
  · intro h q hopen hlonger hends s hs
    exact h s (List.mem_flatMap.mpr ⟨q, (hfound q).mpr ⟨hopen, hends⟩, hs⟩)
  · intro h s hs
    obtain ⟨q, hq, hs⟩ := List.mem_flatMap.mp hs
    obtain ⟨hopen, hends⟩ := (hfound q).mp hq
    by_cases hcallee : callee t q ∈ names
    · exact ⟨q, among_of_arguments hs, hcallee⟩
    · exact h q hopen hcallee hends s hs

/-- A longer identifier that ends in a name is called, and its argument is taken for one of a call to that name. -/
theorem calls_callee_longer :
    let t := "deepmerge('p-4 flex')".toList
    let names := ["merge".toList]
    let x : Span := ⟨"'p-4 flex'".toList, "p-4 flex".toList, 10, 11, 19, .call⟩
    ofCalls t names = [x] ∧ callee t 9 = "deepmerge".toList ∧ Among t 9 x ∧
      ¬ ∀ s ∈ ofCalls t names, ∃ q, Among t q s ∧ callee t q ∈ names := by
  intro t names x
  have hmerge : "merge".toList.all isNameChar = true := by decide +kernel
  have hnames : ∀ n ∈ names, ∀ c ∈ n, isNameChar c = true := by
    intro n hn
    rw [List.mem_singleton.mp hn]
    exact List.all_eq_true.mp hmerge
  have hspans : ofCalls t names = [x] := by decide +kernel
  have hargs : argumentsAt t 9 = [x] := by decide +kernel
  have hcallee : callee t 9 = "deepmerge".toList := by decide +kernel
  have honly : ∀ q < t.length, t[q]? = some '(' → callee t q ∉ names := by decide +kernel
  obtain ⟨-, -, hiff⟩ := calls_callee t names hnames
  refine ⟨hspans, hcallee, among_of_arguments (by simp [hargs]), ?_⟩
  rw [hiff]
  intro h
  obtain ⟨p, ⟨content, stop, henc, -⟩, hp⟩ :=
    h 9 (by decide) (honly 9 (by decide) (by decide)) ⟨"merge".toList, by simp [names], by rw [hcallee]; decide⟩ x
      (by simp [hargs])
  have hinside := henc.inside
  exact honly p (by omega) henc.opening hp

end Span

end ClassTidy
