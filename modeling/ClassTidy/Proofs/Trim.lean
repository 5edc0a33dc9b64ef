/-
  ClassTidy.Proofs.Trim — what trimming takes off a class string.

  Trimming knows more blanks than the separators of classes. A blank that is no separator
  is wide: it is a character of a class like any other until it stands at an end that is
  trimmed. `wideStart` and `wideStop` say that a wide blank would be taken off. If none is,
  trimming keeps the words of a text (`words_replaceLeading`); if one is, the text has fewer
  characters that are no separators (`solid_replaceLeading`), so its words are others.
-/
import Mathlib.Data.List.TakeWhile
import ClassTidy.Proofs.Split
import ClassTidy.Text.Blank

namespace ClassTidy.ClassList

open Text (isBlank isBlankOnly dropLeading dropTrailing replaceLeading replaceTrailing)

theorem blank_of_separator {c : Char} (h : isSeparator c = true) : isBlank c = true := by
  simp only [isSeparator, Bool.or_eq_true, beq_iff_eq] at h
  rcases h with (((rfl | rfl) | rfl) | rfl) | rfl <;> decide

/-- A blank that separates no classes. -/
def isWide (c : Char) : Bool := isBlank c && !isSeparator c

/-- Among the blanks in front is a wide one. -/
def wideStart (t : Text) : Bool := (t.takeWhile isBlank).any isWide

/-- Among the blanks behind is a wide one. -/
def wideStop (t : Text) : Bool := wideStart t.reverse

/-! ## Ends without blanks -/

theorem replaceLeading_of_plain {r t : Text} (h : ∀ c ∈ t.head?, isBlank c = false) : replaceLeading r t = t := by
  cases t with
  | nil => rfl
  | cons c t => simp [replaceLeading, h c rfl]

theorem replaceLeading_space {r t : Text} (h : ∀ c ∈ t.head?, isBlank c = false) :
    replaceLeading r (' ' :: t) = r ++ t := by
  have hs : isBlank ' ' = true := by decide
  have hd : t.dropWhile isBlank = t := by
    cases t with
    | nil => rfl
    | cons c t => simp [h c rfl]
  simp [replaceLeading, Text.dropLeading, hs, hd]

/-- Both ends are trimmed alike. -/
theorem replaceTrailing_eq (r t : Text) : replaceTrailing r t = (replaceLeading r.reverse t.reverse).reverse := by
  obtain ⟨u, rfl⟩ : ∃ u, t = u.reverse := ⟨t.reverse, t.reverse_reverse.symm⟩
  cases u with
  | nil => rfl
  | cons c u =>
    simp only [replaceTrailing, replaceLeading, Text.dropTrailing, Text.dropLeading, List.reverse_reverse]
    split <;> simp

theorem replaceTrailing_of_plain {r t : Text} (h : ∀ c ∈ t.getLast?, isBlank c = false) :
    replaceTrailing r t = t := by
  rw [replaceTrailing_eq, replaceLeading_of_plain (by simpa using h), List.reverse_reverse]

theorem replaceTrailing_space {r t : Text} (h : ∀ c ∈ t.getLast?, isBlank c = false) :
    replaceTrailing r (t ++ [' ']) = t ++ r := by
  rw [replaceTrailing_eq, List.reverse_append, List.reverse_singleton, List.singleton_append,
    replaceLeading_space (by simpa using h), List.reverse_append, List.reverse_reverse, List.reverse_reverse]

theorem head?_dropLeading (t : Text) : ∀ c ∈ (dropLeading t).head?, isBlank c = false := by
  intro c hc
  have hplain := List.head?_dropWhile_not isBlank t
  rw [dropLeading] at hc
  rw [Option.mem_def.mp hc] at hplain
  simpa using hplain

/-! ## What is taken off -/

/-- How many characters are no separators. -/
def solid (t : Text) : Nat := t.countP fun c => !isSeparator c

theorem solid_append (a b : Text) : solid (a ++ b) = solid a + solid b := List.countP_append

theorem solid_reverse (t : Text) : solid t.reverse = solid t := List.countP_reverse

theorem solid_separators {t : Text} (h : ∀ c ∈ t, isSeparator c = true) : solid t = 0 :=
  List.countP_eq_zero.mpr fun c hc => by simp [h c hc]

theorem solid_words (t : Text) : (words t).flatten.length = solid t := by
  rw [words_flatten, solid, List.countP_eq_length_filter]

theorem wideStart_iff (t : Text) : wideStart t = true ↔ 0 < solid (t.takeWhile isBlank) := by
  simp only [wideStart, solid, List.any_eq_true, List.countP_pos_iff, isWide, Bool.and_eq_true]
  constructor
  · rintro ⟨c, hc, _, h⟩; exact ⟨c, hc, h⟩
  · rintro ⟨c, hc, h⟩; exact ⟨c, hc, List.mem_takeWhile_imp hc, h⟩

theorem wideStart_false {t : Text} (h : wideStart t = false) : ∀ c ∈ t.takeWhile isBlank, isSeparator c = true := by
  intro c hc
  have := List.any_eq_false.mp h c hc
  simpa [isWide, List.mem_takeWhile_imp hc] using this

/-- The blanks in front are replaced, whatever they are. -/
theorem replaceLeading_split (r t : Text) :
    (t.takeWhile isBlank = [] ∧ replaceLeading r t = t) ∨
      (t.takeWhile isBlank ≠ [] ∧ replaceLeading r t = r ++ t.dropWhile isBlank) := by
  cases t with
  | nil => exact Or.inl ⟨rfl, rfl⟩
  | cons c t =>
    by_cases hc : isBlank c = true
    · exact Or.inr ⟨by simp [hc], by simp [replaceLeading, Text.dropLeading, hc]⟩
    · exact Or.inl ⟨by simp [hc], by simp [replaceLeading, hc]⟩

theorem solid_replaceLeading {r : Text} (hr : ∀ c ∈ r, isSeparator c = true) (t : Text) :
    solid (replaceLeading r t) + solid (t.takeWhile isBlank) = solid t := by
  have ht : solid (t.takeWhile isBlank) + solid (t.dropWhile isBlank) = solid t := by
    rw [← solid_append, List.takeWhile_append_dropWhile]
  rcases replaceLeading_split r t with ⟨h1, h2⟩ | ⟨_, h2⟩
  · rw [h1, h2]; rfl
  · rw [h2, solid_append, solid_separators hr]; omega

theorem words_replaceLeading {r t : Text} (hr : ∀ c ∈ r, isSeparator c = true) (h : wideStart t = false) :
    words (replaceLeading r t) = words t := by
  rcases replaceLeading_split r t with ⟨_, h2⟩ | ⟨_, h2⟩
  · rw [h2]
  · conv_rhs => rw [← List.takeWhile_append_dropWhile (p := isBlank) (l := t)]
    rw [h2, words_gap_append hr, words_gap_append (wideStart_false h)]

theorem solid_replaceTrailing {r : Text} (hr : ∀ c ∈ r, isSeparator c = true) (t : Text) :
    solid (replaceTrailing r t) + solid (t.reverse.takeWhile isBlank) = solid t := by
  have := solid_replaceLeading (r := r.reverse) (by simpa using hr) t.reverse
  rwa [solid_reverse, ← solid_reverse (replaceLeading _ _), ← replaceTrailing_eq] at this

theorem words_append_separators {g : Text} (hg : ∀ c ∈ g, isSeparator c = true) (t : Text) :
    words (t ++ g) = words t := by
  cases g with
  | nil => rw [List.append_nil]
  | cons c g =>
    rw [words_append_separator (hg c List.mem_cons_self)]
    have := words_gap_append (fun d hd => hg d (List.mem_cons_of_mem c hd)) []
    rw [List.append_nil] at this
    rw [this, words_nil, List.append_nil]

theorem words_replaceTrailing {r t : Text} (hr : ∀ c ∈ r, isSeparator c = true) (h : wideStop t = false) :
    words (replaceTrailing r t) = words t := by
  rw [replaceTrailing_eq]
  rcases replaceLeading_split r.reverse t.reverse with ⟨_, h2⟩ | ⟨_, h2⟩
  · rw [h2, List.reverse_reverse]
  · have ht : t = (t.reverse.dropWhile isBlank).reverse ++ (t.reverse.takeWhile isBlank).reverse := by
      rw [← List.reverse_append, List.takeWhile_append_dropWhile, List.reverse_reverse]
    conv_rhs => rw [ht]
    rw [h2, List.reverse_append, List.reverse_reverse, words_append_separators hr,
      words_append_separators (by simpa using wideStart_false h)]

theorem takeWhile_stop {p : Char → Bool} {c : Char} (hc : p c = false) (a b : Text) :
    (a ++ c :: b).takeWhile p = a.takeWhile p := by
  induction a with
  | nil => simp [hc]
  | cons x a ih => simp only [List.cons_append, List.takeWhile_cons, ih]

/-- Trimming the start takes nothing off the stop, as long as it leaves a class whole. -/
theorem wideStop_replaceLeading {r t : Text} (hr : ∀ c ∈ r, isSeparator c = true) (h : wideStart t = false) :
    wideStop (replaceLeading r t) = wideStop t := by
  have hall : ∀ x : Text, (∀ c ∈ x, isSeparator c = true) → wideStop x = false := by
    intro x hx
    refine List.any_eq_false.mpr fun c hc => ?_
    have := hx c (List.mem_reverse.mp (List.takeWhile_prefix _ |>.subset hc))
    simp [isWide, this]
  rcases replaceLeading_split r t with ⟨_, h2⟩ | ⟨_, h2⟩
  · rw [h2]
  · have hfront := wideStart_false h
    have ht : t = t.takeWhile isBlank ++ t.dropWhile isBlank := List.takeWhile_append_dropWhile.symm
    rw [h2]
    conv_rhs => rw [ht]
    -- either everything is a separator, or the blanks behind end before the blanks in front begin
    cases hd : t.dropWhile isBlank with
    | nil => simp only [List.append_nil, hall r hr, hall _ hfront]
    | cons c rest =>
      have hc : isBlank c = false := head?_dropLeading t c (by rw [dropLeading, hd]; rfl)
      have hsame : ∀ x : Text, (x ++ c :: rest).reverse.takeWhile isBlank = rest.reverse.takeWhile isBlank := by
        intro x
        rw [List.reverse_append, List.reverse_cons, List.append_assoc, List.singleton_append, takeWhile_stop hc]
      simp only [wideStop, wideStart, hsame]

/-! ## What is left -/

theorem getLast?_dropTrailing (t : Text) : ∀ c ∈ (dropTrailing t).getLast?, isBlank c = false := by
  intro c hc
  rw [dropTrailing, List.getLast?_reverse] at hc
  exact head?_dropLeading t.reverse c hc

theorem dropLeading_of_plain {t : Text} (h : ∀ c ∈ t.head?, isBlank c = false) : dropLeading t = t := by
  cases t with
  | nil => rfl
  | cons c t => simp [dropLeading, h c rfl]

theorem dropTrailing_of_plain {t : Text} (h : ∀ c ∈ t.getLast?, isBlank c = false) : dropTrailing t = t := by
  have hplain : dropLeading t.reverse = t.reverse := dropLeading_of_plain (by simpa using h)
  rw [dropTrailing, ← dropLeading, hplain, List.reverse_reverse]

theorem dropLeading_blanks {g : Text} (hg : ∀ c ∈ g, isBlank c = true) (t : Text) :
    dropLeading (g ++ t) = dropLeading t :=
  List.dropWhile_append_of_pos hg

theorem dropTrailing_blanks {g : Text} (hg : ∀ c ∈ g, isBlank c = true) (t : Text) :
    dropTrailing (t ++ g) = dropTrailing t := by
  rw [dropTrailing, List.reverse_append, List.dropWhile_append_of_pos (by simpa using hg), dropTrailing]

theorem dropLeading_eq_nil (t : Text) : dropLeading t = [] ↔ isBlankOnly t = true := by
  rw [dropLeading, List.dropWhile_eq_nil_iff, isBlankOnly, List.all_eq_true]

theorem dropTrailing_eq_nil (t : Text) : dropTrailing t = [] ↔ isBlankOnly t = true := by
  have hleft := dropLeading_eq_nil t.reverse
  rwa [isBlankOnly, List.all_reverse, ← isBlankOnly, ← List.reverse_eq_nil_iff, dropLeading,
    ← dropTrailing] at hleft

/-- What trimming leaves stands between what it takes off. -/
theorem exists_trim (t : Text) : ∃ a b, t = a ++ dropLeading t ∧ dropLeading t = Text.trim t ++ b := by
  obtain ⟨a, ha⟩ : dropLeading t <:+ t := List.dropWhile_suffix _
  obtain ⟨b, hb⟩ : Text.trim t <+: dropLeading t := by
    rw [Text.trim, dropTrailing, ← List.reverse_suffix, List.reverse_reverse]
    exact List.dropWhile_suffix _
  exact ⟨a, b, ha.symm, hb.symm⟩

theorem head?_trim (t : Text) : ∀ c ∈ (Text.trim t).head?, isBlank c = false := by
  intro c hc
  obtain ⟨a, b, -, hrest⟩ := exists_trim t
  refine head?_dropLeading t c ?_
  rw [hrest, List.head?_append, Option.mem_def.mp hc]
  rfl

theorem trim_eq_nil (t : Text) : Text.trim t = [] ↔ isBlankOnly t = true := by
  rw [Text.trim, dropTrailing_eq_nil]
  constructor
  · intro h
    cases hd : dropLeading t with
    | nil => exact (dropLeading_eq_nil t).mp hd
    | cons c rest =>
      have hplain := head?_dropLeading t c (by rw [hd]; rfl)
      rw [hd] at h
      rw [List.all_eq_true.mp h c List.mem_cons_self] at hplain
      cases hplain
  · intro h
    rw [(dropLeading_eq_nil t).mpr h]
    rfl

/-- The blanks in front, if there are any, become separators. -/
theorem replaceLeading_eq_append {r : Text} (hr : ∀ c ∈ r, isSeparator c = true) (t : Text) :
    ∃ s, (∀ c ∈ s, isSeparator c = true) ∧ replaceLeading r t = s ++ dropLeading t := by
  rcases replaceLeading_split r t with ⟨hnone, h⟩ | ⟨-, h⟩
  · refine ⟨[], fun c hc => absurd hc List.not_mem_nil, ?_⟩
    rw [h, List.nil_append, dropLeading]
    conv_lhs => rw [← List.takeWhile_append_dropWhile (p := isBlank) (l := t), hnone, List.nil_append]
  · exact ⟨r, hr, h⟩

theorem replaceTrailing_eq_append {r : Text} (hr : ∀ c ∈ r, isSeparator c = true) (t : Text) :
    ∃ s, (∀ c ∈ s, isSeparator c = true) ∧ replaceTrailing r t = dropTrailing t ++ s := by
  obtain ⟨s, hs, h⟩ := replaceLeading_eq_append (r := r.reverse) (by simpa using hr) t.reverse
  refine ⟨s.reverse, by simpa using hs, ?_⟩
  rw [replaceTrailing_eq, h, List.reverse_append]
  rfl

theorem words_dropLeading {r : Text} (hr : ∀ c ∈ r, isSeparator c = true) (t : Text) :
    words (replaceLeading r t) = words (dropLeading t) := by
  obtain ⟨s, hs, h⟩ := replaceLeading_eq_append hr t
  rw [h, words_gap_append hs]

theorem words_dropTrailing {r : Text} (hr : ∀ c ∈ r, isSeparator c = true) (t : Text) :
    words (replaceTrailing r t) = words (dropTrailing t) := by
  obtain ⟨s, hs, h⟩ := replaceTrailing_eq_append hr t
  rw [h, words_append_separators hs]

/-- Separators in front make no difference to the words that are left. -/
theorem words_dropTrailing_gap {s : Text} (hs : ∀ c ∈ s, isSeparator c = true) (t : Text) :
    words (dropTrailing (s ++ t)) = words (dropTrailing t) := by
  have hblank : s.reverse.dropWhile isBlank = [] :=
    List.dropWhile_eq_nil_iff.mpr fun c hc => blank_of_separator (hs c (List.mem_reverse.mp hc))
  rw [dropTrailing, List.reverse_append, List.dropWhile_append]
  split
  · rename_i hnone
    rw [hblank, dropTrailing, List.isEmpty_iff.mp hnone]
  · rw [List.reverse_append, List.reverse_reverse, words_gap_append hs, dropTrailing]

end ClassTidy.ClassList
