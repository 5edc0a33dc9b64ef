/-
  ClassTidy.Proofs.HeldEnds — a first and a last class that are to stay where they are.

  A class that is held aside is put back in front of all others, or behind them, so it is
  the first or the last class of the new text. Two things come between. Where gaps collapse,
  what is held aside is trimmed on its inner side, and trimming knows more blanks than the
  separators of classes: a class that ends, or starts, with such a blank is cut, and one that
  is made of them is lost (`head?_cut`). And what is held aside in front is the first token,
  which is empty if the text starts with a gap. Then the gap alone is held, and the text
  behind it is put into its canonical form as if nothing were (`normalize_behind_gap`). There
  is no empty token behind a last gap, so the last class is held there all the same.

  Proved (`normalize_ends`): the last class of a text stays the last one exactly if trimming
  does not cut it, whatever gaps there are, and the same holds of the first class of a text
  that does not start with a gap.
-/
import ClassTidy.Proofs.SingleSpaces
import ClassTidy.Proofs.Stitch

namespace ClassTidy.ClassList

open Text (isBlank dropLeading dropTrailing replaceLeading replaceTrailing)

/-! ## Words at the ends -/

theorem not_separator {c : Char} (h : isBlank c = false) : isSeparator c = false := by
  rw [Bool.eq_false_iff]
  intro hs
  rw [blank_of_separator hs] at h
  cases h

/-- A text that starts without a blank has a first word that does. -/
theorem start_of_words {t : Text} (h : ∀ c ∈ t.head?, isBlank c = false) :
    ∀ w ∈ (words t).head?, ∀ c ∈ w.head?, isBlank c = false := by
  intro w hw d hd
  cases t with
  | nil => cases hw
  | cons c t =>
    obtain ⟨v, ws, hwords⟩ := words_cons_token (not_separator (h c rfl)) t
    rw [hwords] at hw
    obtain rfl : c :: v = w := Option.some.inj hw
    obtain rfl : c = d := Option.some.inj hd
    exact h c rfl

theorem stop_of_words {t : Text} (h : ∀ c ∈ t.getLast?, isBlank c = false) :
    ∀ w ∈ (words t).getLast?, ∀ c ∈ w.getLast?, isBlank c = false := by
  intro w hw c hc
  have hstart := start_of_words (t := t.reverse) (by simpa using h)
  rw [words_reverse, List.head?_reverse, List.getLast?_map, Option.mem_def.mp hw] at hstart
  exact hstart w.reverse rfl c (by simpa using hc)

theorem mem_of_dropTrailing {t : Text} {c : Char} (h : c ∈ dropTrailing t) : c ∈ t := by
  rw [dropTrailing, List.mem_reverse] at h
  exact List.mem_reverse.mp ((List.dropWhile_suffix _).subset h)

/-- What is left of a class when the blanks behind it are cut off is that class exactly if there are none. If nothing is
left, the first word is another one, which does not start with a blank. -/
theorem head?_cut {n : Text} (hn : ∀ c ∈ n, isSeparator c = false) (hne : n ≠ []) (ws : List Text)
    (hws : ∀ w ∈ ws.head?, ∀ c ∈ w.head?, isBlank c = false) :
    (words (dropTrailing n) ++ ws).head? = some n ↔ ∀ c ∈ n.getLast?, isBlank c = false := by
  constructor
  · intro h
    by_cases hnil : dropTrailing n = []
    · obtain ⟨c, n, rfl⟩ := List.exists_cons_of_ne_nil hne
      have hblank : isBlank c = true := List.all_eq_true.mp ((dropTrailing_eq_nil _).mp hnil) c List.mem_cons_self
      rw [hnil, words_nil, List.nil_append] at h
      rw [hws _ h c rfl] at hblank
      cases hblank
    · rw [words_of_token (fun c hc => hn c (mem_of_dropTrailing hc)) hnil] at h
      have hwhole : dropTrailing n = n := Option.some.inj h
      rw [← hwhole]
      exact getLast?_dropTrailing n
  · intro h
    rw [dropTrailing_of_plain h, words_of_token hn hne]
    rfl

theorem getLast?_cut {n : Text} (hn : ∀ c ∈ n, isSeparator c = false) (hne : n ≠ []) (ws : List Text)
    (hws : ∀ w ∈ ws.getLast?, ∀ c ∈ w.getLast?, isBlank c = false) :
    (ws ++ words (dropLeading n)).getLast? = some n ↔ ∀ c ∈ n.head?, isBlank c = false := by
  -- the same, read backwards
  have hcut := head?_cut (n := n.reverse) (by simpa using hn) (by simpa using hne) (ws.map List.reverse).reverse
    (by
      intro w hw c hc
      rw [List.head?_reverse, List.getLast?_map, Option.mem_def, Option.map_eq_some_iff] at hw
      obtain ⟨v, hv, rfl⟩ := hw
      exact hws v hv c (by simpa using hc))
  have hback : dropTrailing n.reverse = (dropLeading n).reverse := by
    rw [dropTrailing, List.reverse_reverse]
    rfl
  rw [hback, words_reverse, ← List.reverse_append, ← List.map_append, List.head?_reverse, List.getLast?_map,
    List.getLast?_reverse] at hcut
  rw [← hcut]
  cases (ws ++ words (dropLeading n)).getLast? with
  | none => simp
  | some v => simp

/-! ## What is put back -/

variable {o : Options} {t : Text}

theorem words_trimText (e : Ends) (m : Text) : words (e.trimText m) = words (Text.trim m) := by
  obtain ⟨s, hs, hfront⟩ := replaceLeading_eq_append (separators_ends e.trimStart) m
  rw [Ends.trimText, words_dropTrailing (separators_ends _), hfront, words_dropTrailing_gap hs, Text.trim]

theorem arranged_nil (rank : Text → Rank) (unique : Bool) {l : ClassList} (h : l.tokens = []) :
    (arranged rank unique l).join = [] := by
  rw [arranged_eq, h]
  have hnone : Ranked.mark rank [] = [] := rfl
  rw [hnone, stitched_nil]
  rfl

/-- The canonical form of a text: what was held aside, and the sorted middle in between. -/
theorem normalize_held (table : RankTable) (hfix : fixed? o t = none) :
    table.normalize o t = match o.collapse with
      | none => (hold o t).front ++ (arranged table.rank o.unique (hold o t).middle).join ++ (hold o t).back
      | some e =>
        replaceTrailing [' '] (hold o t).front ++ e.trimText (arranged table.rank o.unique (hold o t).middle).join ++
          replaceLeading [' '] (hold o t).back := by
  rw [RankTable.normalize, hfix]
  rfl

/-- Its words are those of the three, without the blanks that are trimmed off. -/
theorem words_held (table : RankTable) (hfix : fixed? o t = none) :
    words (table.normalize o t) = match o.collapse with
      | none =>
        words (hold o t).front ++ words (arranged table.rank o.unique (hold o t).middle).join ++ words (hold o t).back
      | some _ => words (dropTrailing (hold o t).front) ++
          words (Text.trim (arranged table.rank o.unique (hold o t).middle).join) ++
            words (dropLeading (hold o t).back) := by
  have hparted := (hold_sound o t).parted (m := (arranged table.rank o.unique (hold o t).middle).join)
    (arranged_nil _ _)
  rw [normalize_held table hfix]
  cases o.collapse with
  | none => exact hparted.words_append
  | some e =>
    simp only
    rw [(hparted.trimmed e).words_append, words_dropTrailing separators_space, words_trimText,
      words_dropLeading separators_space]

theorem hold_front (hf : o.holdFirst = true) {n : Text} {ns : List Text} (htok : (split t).tokens = n :: ns) :
    ∃ g, (∀ c ∈ g, isSeparator c = true) ∧ (hold o t).front = n ++ g := by
  refine ⟨(o.front (o.cut t).gaps).flatten, flatten_gaps fun g hg => ?_, ?_⟩
  · exact (o.cut_alternating t).gaps g (Options.mem_of_front hg)
  · rw [hold_parts, htok]
    simp [Options.front, hf]

theorem hold_back {n : Text} (htok : o.back (split t).tokens = [n]) :
    ∃ g, (∀ c ∈ g, isSeparator c = true) ∧ (hold o t).back = g ++ n := by
  refine ⟨(o.back (o.cut t).gaps).flatten, flatten_gaps fun g hg => ?_, ?_⟩
  · exact (o.cut_alternating t).gaps g (Options.mem_of_back hg)
  · rw [hold_parts, htok, List.flatten_singleton]

/-! ## The first class -/

theorem head?_words {n : Text} {ns : List Text} (htok : (split t).tokens = n :: ns) (hn : n ≠ []) :
    (words t).head? = some n := by
  rw [words, htok, List.filter_cons_of_pos (by simpa using hn)]
  rfl

theorem getLast?_words {n : Text} {ns : List Text} (htok : (split t).tokens = ns ++ [n]) (hn : n ≠ []) :
    (words t).getLast? = some n := by
  rw [words, htok, List.filter_append, List.filter_cons_of_pos (by simpa using hn), List.filter_nil,
    List.getLast?_concat]

/-- A text that starts with a class has that class as its first token. -/
theorem exists_first (hfix : fixed? o t = none) (hstart : t.head?.any isSeparator = false) :
    ∃ n ns, (split t).tokens = n :: ns ∧ n ≠ [] := by
  obtain ⟨hne, hgap, -⟩ := of_fixed?_none hfix
  have hfilled := filled_split hne hgap
  rcases hfilled.start with h | ⟨n, ns, g, gs, hsplit, -⟩
  · exact h
  · have hsep := hfilled.separator_start.mpr (by rw [hsplit]; rfl)
    rw [join_split, hstart] at hsep
    cases hsep

/-- A first class that is held aside stays the first one exactly if it is not cut. -/
theorem head?_normalize (table : RankTable) (hfix : fixed? o t = none) (hf : o.holdFirst = true)
    (hstart : t.head?.any isSeparator = false) :
    (words (table.normalize o t)).head? = (words t).head? ↔
      o.collapse = none ∨ ∀ n ∈ (words t).head?, ∀ c ∈ n.getLast?, isBlank c = false := by
  obtain ⟨n, ns, htok, hne⟩ := exists_first hfix hstart
  obtain ⟨g, hg, hfront⟩ := hold_front hf htok
  have hn : ∀ c ∈ n, isSeparator c = false := (split_wellFormed t).tokens n (by simp [htok])
  rw [words_held table hfix, head?_words htok hne, hfront]
  cases o.collapse with
  | none =>
    simp only [true_or, iff_true]
    rw [words_append_separators hg, words_of_token hn hne]
    rfl
  | some e =>
    simp only [reduceCtorEq, false_or, Option.mem_some, forall_eq']
    rw [dropTrailing_blanks fun c hc => blank_of_separator (hg c hc), List.append_assoc]
    refine head?_cut hn hne _ fun w hw => ?_
    -- the next word comes from the middle or, if that has none, from the back
    rw [List.head?_append, Option.mem_def, Option.or_eq_some_iff] at hw
    rcases hw with hw | ⟨-, hw⟩
    · exact start_of_words (head?_trim _) w hw
    · exact start_of_words (head?_dropLeading _) w hw

/-- In front of a text that starts with a class, a gap stands behind an empty token. -/
theorem split_behind_gap {g : Text} (hg : isGap g = true) (hne : t ≠ []) (hstart : t.head?.any isSeparator = false) :
    split (g ++ t) = ⟨[] :: (split t).tokens, g :: (split t).gaps⟩ := by
  have hgap : isGap t = false := by
    rw [Bool.eq_false_iff]
    intro h
    have hfirst := gap_head h []
    rw [List.append_nil, hstart] at hfirst
    cases hfirst
  have hfilled := filled_split hne hgap
  obtain ⟨hgaps, htokens, htail, -, hcount⟩ := hfilled.wellFormed
  have hjoin : (⟨[] :: (split t).tokens, g :: (split t).gaps⟩ : ClassList).join = g ++ t := by
    conv_rhs => rw [← join_split t]
    rfl
  rw [← hjoin]
  refine split_join ⟨List.forall_mem_cons.mpr ⟨hg, hgaps⟩,
    List.forall_mem_cons.mpr ⟨fun c hc => absurd hc List.not_mem_nil, htokens⟩, ?_,
      fun _ => List.cons_ne_nil _ _, by
      simpa using hcount⟩
  -- only the first token could be empty, and the text does not start with a gap
  rcases hfilled.start with ⟨n, ns, htok, hn⟩ | ⟨n, ns, x, xs, hsplit, -⟩
  · rw [List.tail_cons, htok]
    rw [htok, List.tail_cons] at htail
    exact List.forall_mem_cons.mpr ⟨hn, htail⟩
  · have hsep := hfilled.separator_start.mpr (by rw [hsplit]; rfl)
    rw [join_split, hstart] at hsep
    cases hsep

/-- Behind a gap in front nothing is held aside but the gap. -/
theorem normalize_behind_gap (table : RankTable) (hf : o.holdFirst = true) {g : Text} (hg : isGap g = true)
    (hstart : t.head?.any isSeparator = false) (hwhole : fixed? o (g ++ t) = none)
    (hrest : fixed? { o with holdFirst := false } t = none) :
    table.normalize o (g ++ t) =
      (if o.collapse.isSome then [' '] else g) ++ table.normalize { o with holdFirst := false } t := by
  have hsplit := split_behind_gap hg (of_fixed?_none hrest).1 hstart
  have hhold : hold o (g ++ t) =
      ⟨if o.collapse.isSome then [' '] else g, (hold { o with holdFirst := false } t).middle,
      (hold { o with holdFirst := false } t).back⟩ := by
    simp only [hold, hsplit, hf, holdFirst, collapse]
    cases o.collapse <;> simp
  have hfront : (hold { o with holdFirst := false } t).front = [] := rfl
  rw [normalize_held table hwhole, normalize_held table hrest, hhold, hfront]
  cases o.collapse with
  | none => simp
  | some e =>
    have hspace : replaceTrailing [' '] [' '] = [' '] := by decide
    have hnil : replaceTrailing [' '] [] = [] := rfl
    simp [hspace, hnil]

/-! ## The last class -/

/-- All that is left is held aside behind, unless the only token is held aside in front. -/
theorem back_tokens (hl : o.holdLast = true) {n : Text} {ns : List Text} (htok : (split t).tokens = ns ++ [n])
    (hmore : ¬ (o.holdFirst = true ∧ (split t).tokens.length = 1)) : o.back (split t).tokens = [n] := by
  unfold Options.back Options.rest
  rw [if_pos hl, htok]
  split
  · rename_i hf
    cases ns with
    | nil => exact absurd ⟨hf, by rw [htok]; rfl⟩ hmore
    | cons m ns => simp
  · simp

/-- The only token of a text is held aside in front as all there is. -/
theorem hold_only (hf : o.holdFirst = true) {n : Text} (htok : (split t).tokens = [n]) :
    (hold o t).middle.tokens = [] ∧ (hold o t).back = [] := by
  have hgaps : (o.cut t).gaps.drop 1 = [] := by
    have hcount := (o.cut_alternating t).count
    rw [o.cut_tokens, htok, List.length_singleton] at hcount
    exact List.drop_eq_nil_of_le (by omega)
  rw [hold_parts, htok]
  simp [Options.middle, Options.back, Options.rest, hf, hgaps]

/-- The only class of a text stays exactly if it is not cut behind. -/
theorem getLast?_normalize_only (table : RankTable) (hfix : fixed? o t = none) (hf : o.holdFirst = true) {n : Text}
    (htok : (split t).tokens = [n]) (hne : n ≠ []) :
    (words (table.normalize o t)).getLast? = some n ↔
    o.collapse = none ∨ ∀ c ∈ n.getLast?, isBlank c = false := by
  have hn : ∀ c ∈ n, isSeparator c = false := (split_wellFormed t).tokens n (by simp [htok])
  obtain ⟨g, hg, hfront⟩ := hold_front hf htok
  obtain ⟨hmiddle, hback⟩ := hold_only hf htok
  rw [words_held table hfix, hfront, hback, arranged_nil _ _ hmiddle]
  cases o.collapse with
  | none =>
    simp only [true_or, iff_true]
    rw [words_append_separators hg, words_of_token hn hne]
    rfl
  | some e =>
    have hnothing : words (Text.trim []) = [] ∧ words (dropLeading []) = [] := ⟨rfl, rfl⟩
    have hsingle : (words (dropTrailing n)).getLast? = (words (dropTrailing n)).head? := by
      rw [words_token fun c hc => hn c (mem_of_dropTrailing hc)]
      cases dropTrailing n <;> rfl
    have hcut := head?_cut hn hne [] fun w hw => by cases hw
    simp only [reduceCtorEq, false_or]
    rw [hnothing.1, hnothing.2, dropTrailing_blanks fun c hc => blank_of_separator (hg c hc), List.append_nil,
      List.append_nil, hsingle]
    rwa [List.append_nil] at hcut

/-- A last class that is held aside behind stays the last one exactly if it is not cut in front. -/
theorem getLast?_normalize_behind (table : RankTable) (hfix : fixed? o t = none) {n : Text}
    (htok : o.back (split t).tokens = [n]) (hne : n ≠ []) :
    (words (table.normalize o t)).getLast? = some n ↔ o.collapse = none ∨ ∀ c ∈ n.head?, isBlank c = false := by
  have hmem : n ∈ (split t).tokens := Options.mem_of_back (o := o) (by rw [htok]; exact List.mem_cons_self)
  have hn : ∀ c ∈ n, isSeparator c = false := (split_wellFormed t).tokens n hmem
  obtain ⟨g, hg, hback⟩ := hold_back htok
  rw [words_held table hfix, hback]
  cases o.collapse with
  | none =>
    simp only [true_or, iff_true]
    rw [words_gap_append hg, words_of_token hn hne, List.getLast?_concat]
  | some e =>
    simp only [reduceCtorEq, false_or]
    rw [dropLeading_blanks fun c hc => blank_of_separator (hg c hc)]
    refine getLast?_cut hn hne _ fun w hw => ?_
    -- the word before comes from the middle or, if that has none, from the front
    rw [List.getLast?_append, Option.mem_def, Option.or_eq_some_iff] at hw
    rcases hw with hw | ⟨-, hw⟩ <;> exact stop_of_words (getLast?_dropTrailing _) w hw

/-- A last class that is held aside stays the last one exactly if it is not cut. -/
theorem getLast?_normalize (table : RankTable) (hfix : fixed? o t = none) (hl : o.holdLast = true) :
    (words (table.normalize o t)).getLast? = (words t).getLast? ↔
      o.collapse = none ∨ ∀ n ∈ (words t).getLast?,
        if o.holdFirst = true ∧ (split t).tokens.length = 1 then ∀ c ∈ n.getLast?, isBlank c = false
        else ∀ c ∈ n.head?, isBlank c = false := by
  obtain ⟨hne, hgap, -⟩ := of_fixed?_none hfix
  obtain ⟨ns, n, htok, hnne⟩ := (filled_split hne hgap).stop
  rw [getLast?_words htok hnne]
  by_cases honly : o.holdFirst = true ∧ (split t).tokens.length = 1
  · obtain rfl : ns = [] := by
      have hone := honly.2
      rw [htok, List.length_append] at hone
      exact List.eq_nil_of_length_eq_zero (by simpa using hone)
    simp only [if_pos honly, Option.mem_some, forall_eq']
    exact getLast?_normalize_only table hfix honly.1 htok hnne
  · simp only [if_neg honly, Option.mem_some, forall_eq']
    exact getLast?_normalize_behind table hfix (back_tokens hl htok honly) hnne

/-! ## Both ends -/

/-- A text with a class in it and its canonical form. If the text starts with a class and that one is held aside, it
is still the first one exactly if gaps are kept or it does not end with a blank. If a gap stands in front, the gap
alone is held aside, and what stands behind it is put into its canonical form with no first class held. A last class
that is held aside is still the last one exactly if gaps are kept or it does not start with a blank; one that is held
aside as the first class already must not end with one. -/
theorem normalize_ends (table : RankTable) (o : Options) (t : Text) (hmark : hasMarker t = false)
    (hwords : words t ≠ []) :
    ∃ u, normalize table.ranker o t = .ok u ∧
      (o.holdFirst = true → t.head?.any isSeparator = false →
        ((words u).head? = (words t).head? ↔
          o.collapse = none ∨ ∀ n ∈ (words t).head?, ∀ c ∈ n.getLast?, isBlank c = false)) ∧
      (o.holdFirst = true → ∀ g rest, t = g ++ rest → isGap g = true → rest.head?.any isSeparator = false →
        ∃ v, normalize table.ranker { o with holdFirst := false } rest = .ok v ∧
          u = (if o.collapse.isSome then [' '] else g) ++ v) ∧
      (o.holdLast = true →
        ((words u).getLast? = (words t).getLast? ↔
          o.collapse = none ∨ ∀ n ∈ (words t).getLast?,
            if o.holdFirst = true ∧ (split t).tokens.length = 1 then ∀ c ∈ n.getLast?, isBlank c = false
            else ∀ c ∈ n.head?, isBlank c = false)) := by
  have hfix := fixed?_of_words hwords hmark o
  refine ⟨_, table.normalize_ranker o t, head?_normalize table hfix, ?_, getLast?_normalize table hfix⟩
  rintro hf g rest rfl hg hstart
  have hrest : words (g ++ rest) = words rest := words_gap_append (gap_separators hg) rest
  have hmark' : hasMarker rest = false := by
    rw [hasMarker_eq_false, unmarked_words] at hmark ⊢
    rwa [hrest] at hmark
  refine ⟨_, table.normalize_ranker _ rest, normalize_behind_gap table hf hg hstart hfix ?_⟩
  exact fixed?_of_words (hrest ▸ hwords) hmark' _

/-- Two classes behind a gap, the first of them held aside: they change places. -/
theorem normalize_ends_behind_gap :
    let table : RankTable := ⟨[(['a'], 1), (['b'], 2)], []⟩
    let o : Options := { holdFirst := true, collapse := none }
    let t : Text := [' ', 'b', ' ', 'a']
    hasMarker t = false ∧ (words t).head? = some ['b'] ∧
      ∃ u, normalize table.ranker o t = .ok u ∧ (words u).head? = some ['a'] := by
  intro table o t
  have hmark : hasMarker t = false := by decide
  have hwords : words t = [['b'], ['a']] := by decide
  obtain ⟨u, hu, -, hgap, -⟩ := normalize_ends table o t hmark (by rw [hwords]; simp)
  obtain ⟨v, hv, rfl⟩ := hgap rfl [' '] ['b', ' ', 'a'] rfl (by decide) (by decide)
  rw [table.normalize_ranker] at hv
  obtain rfl := Except.ok.inj hv
  refine ⟨hmark, by rw [hwords]; rfl, _, hu, by decide⟩

end ClassTidy.ClassList
