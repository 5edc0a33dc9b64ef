/-
  ClassTidy.Proofs.SingleSpaces — collapsed gaps, told without gaps.

  Where gaps collapse, a class string can be put into its canonical form by looking at its
  words alone: sort them, write them with single spaces between them, and put one space in
  front and one behind where the text starts and stops with a separator (`spaced`). No list
  of gaps is kept beside the words, no empty token stands for the gap in front, and no gap is
  dropped for a word that is.

  What is left is trimming: blanks in front, if there are any, are replaced, and then those
  behind. `FrontReplaced` and `BackReplaced` say so of any cut of a text into blanks and a
  rest that has none at that end.

  Proved (`normalize_spaced`): the canonical form is what that gives, for every text that is
  no gap and holds no marker.
-/
import ClassTidy.Proofs.OneForm

namespace ClassTidy.ClassList

open Text (isBlank replaceLeading replaceTrailing)

/-- Words with single spaces between them, and a space at each end where the text has a separator. -/
def spaced (t : Text) (words : List Text) : Text :=
  (if t.head?.any isSeparator then [' '] else []) ++ Text.join [' '] words ++
    (if t.getLast?.any isSeparator then [' '] else [])

/-! ## Blanks at the ends -/

/-- All blanks in front of `t`, if there are any, are replaced by `r`. -/
def FrontReplaced (r t u : Text) : Prop :=
  ∃ a b, t = a ++ b ∧ (∀ c ∈ a, isBlank c = true) ∧ (∀ c ∈ b.head?, isBlank c = false) ∧
    u = (if a = [] then [] else r) ++ b

/-- All blanks behind `t`, if there are any, are replaced by `r`. -/
def BackReplaced (r t u : Text) : Prop :=
  ∃ a b, t = a ++ b ∧ (∀ c ∈ a.getLast?, isBlank c = false) ∧ (∀ c ∈ b, isBlank c = true) ∧
    u = a ++ if b = [] then [] else r

theorem frontReplaced (r t : Text) : FrontReplaced r t (replaceLeading r t) := by
  refine ⟨t.takeWhile isBlank, t.dropWhile isBlank, List.takeWhile_append_dropWhile.symm,
    fun c hc => List.mem_takeWhile_imp hc, head?_dropLeading t, ?_⟩
  rcases replaceLeading_split r t with ⟨hnone, h⟩ | ⟨hsome, h⟩
  · rw [h, if_pos hnone]
    conv_lhs => rw [← List.takeWhile_append_dropWhile (p := isBlank) (l := t), hnone]
  · rw [h, if_neg hsome]

/-- Both ends are replaced alike. -/
theorem FrontReplaced.reverse {r t u : Text} (h : FrontReplaced r t u) :
    BackReplaced r.reverse t.reverse u.reverse := by
  obtain ⟨a, b, rfl, ha, hb, rfl⟩ := h
  refine ⟨b.reverse, a.reverse, List.reverse_append, by simpa using hb, by simpa using ha, ?_⟩
  simp only [List.reverse_append, List.reverse_eq_nil_iff]
  split <;> rfl

theorem backReplaced (r t : Text) : BackReplaced r t (replaceTrailing r t) := by
  have h := (frontReplaced r.reverse t.reverse).reverse
  rwa [List.reverse_reverse, List.reverse_reverse, ← replaceTrailing_eq] at h

/-! ## Separators at the ends -/

theorem gap_head {g : Text} (hg : isGap g = true) (t : Text) : (g ++ t).head?.any isSeparator = true := by
  obtain ⟨c, g, rfl⟩ := List.exists_cons_of_ne_nil (gap_ne_nil hg)
  exact gap_separators hg c List.mem_cons_self

theorem gap_getLast {g : Text} (hg : isGap g = true) (t : Text) : (t ++ g).getLast?.any isSeparator = true := by
  obtain ⟨g, c, rfl⟩ := (List.eq_nil_or_concat' g).resolve_left (gap_ne_nil hg)
  rw [← List.append_assoc, List.getLast?_concat]
  exact gap_separators hg c (by simp)

/-- The first token is empty exactly if a separator stands first. -/
theorem Filled.separator_start {l : ClassList} (h : l.Filled) :
    l.join.head?.any isSeparator = true ↔ l.tokens.head? = some [] := by
  rcases h.start with ⟨n, ns, htok, hn⟩ | ⟨n, ns, g, gs, rfl, hn⟩
  · have hfirst : l.join.head?.any isSeparator = false := by
      rw [join, htok, joinParts_head? hn]
      obtain ⟨c, n, rfl⟩ := List.exists_cons_of_ne_nil hn
      exact h.wellFormed.tokens (c :: n) (by simp [htok]) c List.mem_cons_self
    simp [hfirst, htok, hn]
  · have hgap := h.wellFormed.gaps g List.mem_cons_self
    exact ⟨fun _ => rfl, fun _ => gap_head hgap (joinParts (n :: ns) gs)⟩

/-- A gap stands behind the last token exactly if a separator stands last. -/
theorem Filled.separator_stop {l : ClassList} (h : l.Filled) :
    l.join.getLast?.any isSeparator = true ↔ l.gaps.length = l.tokens.length := by
  obtain ⟨ns, n, a, htok, hn, -, ⟨hcount, g, hg, hjoin⟩ | ⟨hcount, hjoin⟩⟩ := h.join_stop
  · rw [hjoin, iff_true_right hcount]
    exact gap_getLast (h.wellFormed.gaps g hg) (a ++ n)
  · obtain ⟨n, c, rfl⟩ := (List.eq_nil_or_concat' n).resolve_left hn
    rw [hjoin, iff_false_right hcount, ← List.append_assoc, List.getLast?_concat]
    simpa using h.wellFormed.tokens (n ++ [c]) (by simp [htok]) c (by simp)

/-! ## The canonical form -/

/-- The sorted words of a text as they stand before the ends are trimmed. -/
theorem join_arranged_split {rank : Text → Rank} (hrank : rank [] = .unknown) (unique : Bool) {t : Text}
    (hne : t ≠ []) (hgap : isGap t = false) :
    (arranged rank unique (split t).collapse).join = spaced t
    (sortRanked unique (Ranked.mark rank (words t))).classes := by
  have hfilled := filled_split hne hgap
  have hspaces : ∀ g ∈ (split t).collapse.gaps, g = [' '] := fun g hg => by
    obtain ⟨-, -, rfl⟩ := List.mem_map.mp hg
    rfl
  have hstart := hfilled.separator_start
  have hstop := hfilled.separator_stop
  rw [join_split] at hstart hstop
  have htokens : (split t).collapse.tokens = (split t).tokens := rfl
  have hgaps : (split t).collapse.gaps.length = (split t).gaps.length := by simp [collapse]
  rw [join_arranged hrank unique hfilled.collapse hspaces, spaced]
  simp only [htokens, hgaps, hstart, hstop]
  rfl

theorem sort_ranker (table : RankTable) (unique : Bool) (ns : List Text) :
    sort table.ranker unique ns = .ok (sortRanked unique (Ranked.mark table.rank ns)) := by
  rw [sort, table.ask_ranker]
  rfl

/-- The canonical form of a text whose gaps collapse and of which nothing is held aside: its words sorted, with single
spaces between them and at the ends that have separators, and then the blanks in front replaced, by nothing or by one
space, and after them the blanks behind. -/
theorem normalize_spaced (table : RankTable) (unique : Bool) (ends : Ends) (t : Text) (hgap : isGap t = false)
    (hmark : hasMarker t = false) :
    ∃ s u v, sort table.ranker unique (words t) = .ok s ∧
      FrontReplaced (if ends.trimStart then [] else [' ']) (spaced t s.classes) u ∧
      BackReplaced (if ends.trimStop then [] else [' ']) u v ∧
      normalize table.ranker ⟨false, false, unique, some ends⟩ t = .ok v := by
  refine ⟨_, _, _, sort_ranker table unique (words t), frontReplaced _ _, backReplaced _ _, ?_⟩
  rw [table.normalize_ranker]
  by_cases hne : t = []
  · subst hne
    cases unique <;> rfl
  · have hfix : fixed? ⟨false, false, unique, some ends⟩ t = none := by simp [fixed?, hne, hgap, hmark]
    rw [normalize_eq table rfl rfl hfix]
    simp only [join_arranged_split table.rank_nil unique hne hgap]

/-- A separator in front, a wide blank behind, and a word that occurs twice: the separator is kept as one space, and
the wide blank goes with the end of its word. -/
theorem normalize_spaced_wide_stop :
    let table : RankTable := ⟨[(['a'], 1), (['b', '\u00a0'], 2)], []⟩
    let t : Text := ['\t', 'b', '\u00a0', ' ', 'a', '\n', ' ', 'a']
    ∃ s u v, sort table.ranker true (words t) = .ok s ∧ s.classes = [['a'], ['b', '\u00a0']] ∧
      FrontReplaced [' '] (spaced t s.classes) u ∧ BackReplaced [] u v ∧
      normalize table.ranker ⟨false, false, true, some ⟨false, true⟩⟩ t = .ok v ∧
        v = [' ', 'a', ' ', 'b'] := by
  intro table t
  obtain ⟨s, u, v, hs, hu, hv, hnormal⟩ := normalize_spaced table true ⟨false, true⟩ t (by decide) (by decide)
  have hsorted : sort table.ranker true (words t) = .ok ⟨[['a'], ['b', '\u00a0']], [1]⟩ := by
    rw [sort_ranker]
    decide
  have htext : normalize table.ranker ⟨false, false, true, some ⟨false, true⟩⟩ t =
      .ok [' ', 'a', ' ', 'b'] := by
    rw [table.normalize_ranker]
    decide
  obtain rfl := Except.ok.inj (hs.symm.trans hsorted)
  exact ⟨_, u, v, hs, rfl, hu, hv, hnormal, Except.ok.inj (hnormal.symm.trans htext)⟩

end ClassTidy.ClassList
