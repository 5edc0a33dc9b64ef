/-
  ClassTidy.Proofs.KeptWords — which classes the canonical form keeps.

  A class string is taken apart into a front, a middle and a back, and the words of the
  three are its words (`hold_sound`). Nothing runs together where they meet (`PartedBy`), so
  putting them together adds up their words again. Sorting changes the order only.

  The one step that can lose something is trimming: it takes wide blanks off, which are
  characters of classes. Proved (`words_normalize`): without `unique` the canonical form has
  the words of the text, each as often, exactly if it is a fixed text, keeps its gaps, or no
  wide blank stands at one of the four ends that are trimmed. A wide blank at the start of
  the first class is one that does (`words_normalize_wide_start`).
-/
import Mathlib.Data.List.Perm.Basic
import ClassTidy.Proofs.Order
import ClassTidy.Proofs.Trim

namespace ClassTidy.ClassList

open Text (isBlank replaceLeading replaceTrailing)

/-! ## Texts that meet -/

/-- No word runs across the place where two texts meet. -/
def Parted (a b : Text) : Prop :=
  a = [] ∨ b = [] ∨ (∃ c ∈ a.getLast?, isSeparator c = true) ∨ ∃ c ∈ b.head?, isSeparator c = true

theorem words_append {a b : Text} (h : Parted a b) : words (a ++ b) = words a ++ words b := by
  rcases h with rfl | rfl | ⟨c, hc, hs⟩ | ⟨c, hc, hs⟩
  · simp
  · simp
  · obtain ⟨a, rfl⟩ := List.getLast?_eq_some_iff.mp hc
    rw [List.append_assoc, List.singleton_append, words_append_separator hs, words_append_separator hs]
    simp
  · obtain ⟨b, rfl⟩ := List.head?_eq_some_iff.mp hc
    rw [words_append_separator hs, ← List.nil_append (c :: b), words_append_separator hs]
    simp

/-- A front, a middle and a back of which no two run together. -/
structure PartedBy (m a b : Text) : Prop where
  front : a = [] ∨ (∃ c ∈ a.getLast?, isSeparator c = true) ∨ (m = [] ∧ b = [])
  back : b = [] ∨ (∃ c ∈ b.head?, isSeparator c = true) ∨ m = []

theorem PartedBy.words_append {m a b : Text} (h : PartedBy m a b) :
    words (a ++ m ++ b) = words a ++ words m ++ words b := by
  have hback : Parted m b := by
    rcases h.back with e | e | e
    · exact Or.inr (Or.inl e)
    · exact Or.inr (Or.inr (Or.inr e))
    · exact Or.inl e
  have hfront : Parted a (m ++ b) := by
    rcases h.front with e | e | ⟨rfl, rfl⟩
    · exact Or.inl e
    · exact Or.inr (Or.inr (Or.inl e))
    · exact Or.inr (Or.inl rfl)
  rw [List.append_assoc, ClassList.words_append hfront, ClassList.words_append hback, List.append_assoc]

theorem words_token {n : Text} (hn : ∀ c ∈ n, isSeparator c = false) :
    words n = [n].filter fun n => !n.isEmpty := by
  cases n with
  | nil => rfl
  | cons c n => rw [words_of_token hn (List.cons_ne_nil c n)]; rfl

theorem words_joinParts {ns gs : List Text} (hg : ∀ g ∈ gs, isGap g = true)
    (hn : ∀ n ∈ ns, ∀ c ∈ n, isSeparator c = false) (h : ns.length ≤ gs.length + 1) :
    words (joinParts ns gs) = ns.filter fun n => !n.isEmpty := by
  induction ns generalizing gs with
  | nil => rfl
  | cons n ns ih =>
    have hwords := words_token (hn n List.mem_cons_self)
    cases gs with
    | nil =>
      obtain rfl : ns = [] := List.eq_nil_of_length_eq_zero (by simpa using h)
      rw [joinParts, joinParts, List.append_nil, hwords]
    | cons g gs =>
      rw [joinParts, words_append_gap (hg g List.mem_cons_self), hwords,
        ih (fun x hx => hg x (List.mem_cons_of_mem g hx)) (fun m hm => hn m (List.mem_cons_of_mem n hm))
          (by simpa using h),
        ← List.filter_append, List.singleton_append]

/-! ## What is held aside -/

/-- Tokens and gaps that take turns. -/
structure Alternating (l : ClassList) : Prop where
  gaps : ∀ g ∈ l.gaps, isGap g = true
  tokens : ∀ n ∈ l.tokens, ∀ c ∈ n, isSeparator c = false
  count : l.gaps.length = l.tokens.length ∨ l.gaps.length + 1 = l.tokens.length

theorem WellFormed.alternating {l : ClassList} (h : l.WellFormed) : l.Alternating := ⟨h.gaps, h.tokens, h.count⟩

theorem Alternating.collapse {l : ClassList} (h : l.Alternating) : l.collapse.Alternating := by
  refine ⟨fun g hg => ?_, h.tokens, by simpa [ClassList.collapse] using h.count⟩
  obtain ⟨-, -, rfl⟩ := List.mem_map.mp hg
  rfl

/-- One token without a gap is held aside as a whole. -/
theorem Alternating.of_gaps_nil {l : ClassList} (h : l.Alternating) (hg : l.gaps = []) :
    l = ⟨[], []⟩ ∨ ∃ n, l = ⟨[n], []⟩ := by
  obtain ⟨tokens, gaps⟩ := l
  cases hg
  rcases tokens with _ | ⟨n, _ | ⟨m, ns⟩⟩
  · exact Or.inl rfl
  · exact Or.inr ⟨n, rfl⟩
  · have := h.count
    simp at this

/-- What is known when the first token and its gap are held aside from `l` and `m` is left. -/
structure FrontHeld (l : ClassList) (front : Text) (m : ClassList) : Prop where
  alternating : m.Alternating
  sameWords : (l.tokens.filter fun n => !n.isEmpty) = words front ++ m.tokens.filter fun n => !n.isEmpty
  parted : front = [] ∨ (∃ c ∈ front.getLast?, isSeparator c = true) ∨ m = ⟨[], []⟩

/-- What is known when the last gap and the last token are held aside from `l` and `m` is left. -/
structure BackHeld (l : ClassList) (back : Text) (m : ClassList) : Prop where
  alternating : m.Alternating
  sameWords : (l.tokens.filter fun n => !n.isEmpty) = m.tokens.filter (fun n => !n.isEmpty) ++ words back
  parted : back = [] ∨ (∃ c ∈ back.head?, isSeparator c = true) ∨ m.tokens = []
  nothing : l = ⟨[], []⟩ → m.tokens = [] ∧ back = []

theorem Alternating.holdFirst {l : ClassList} (h : l.Alternating) : FrontHeld l (holdFirst l).1 (holdFirst l).2 := by
  cases hgaps : l.gaps with
  | nil =>
    rcases h.of_gaps_nil hgaps with rfl | ⟨n, rfl⟩
    · exact ⟨h, rfl, Or.inl rfl⟩
    · have hn := h.tokens n List.mem_cons_self
      refine ⟨⟨fun g hg => absurd hg List.not_mem_nil, fun n hn => absurd hn List.not_mem_nil, Or.inl rfl⟩, ?_,
        Or.inr (Or.inr rfl)⟩
      simp only [ClassList.holdFirst, List.headD_cons, List.headD_nil, List.append_nil, words_token hn, List.tail_cons,
        List.filter_nil]
  | cons g gs =>
    obtain ⟨tokens, gaps⟩ := l
    cases hgaps
    cases tokens with
    | nil =>
      have := h.count
      simp at this
    | cons n ns =>
      have hg := h.gaps g List.mem_cons_self
      refine ⟨⟨fun x hx => h.gaps x (List.mem_cons_of_mem g hx), fun m hm => h.tokens m (List.mem_cons_of_mem n hm),
        by simpa [ClassList.holdFirst] using h.count⟩, ?_, Or.inr (Or.inl ?_)⟩
      · simp only [ClassList.holdFirst, List.headD_cons, List.tail_cons]
        rw [words_append_separators (gap_separators hg), words_token (h.tokens n List.mem_cons_self),
          ← List.filter_append, List.singleton_append]
      · refine ⟨g.getLast (gap_ne_nil hg), ?_, gap_separators hg _ (List.getLast_mem _)⟩
        simp only [ClassList.holdFirst, List.headD_cons]
        rw [List.getLast?_append_of_ne_nil n (gap_ne_nil hg), List.getLast?_eq_getLast_of_ne_nil]
        rfl

theorem Alternating.holdLast {l : ClassList} (h : l.Alternating) : BackHeld l (holdLast l).1 (holdLast l).2 := by
  rcases List.eq_nil_or_concat' l.gaps with hgaps | ⟨gs, g, hgaps⟩
  · rcases h.of_gaps_nil hgaps with rfl | ⟨n, rfl⟩
    · exact ⟨h, rfl, Or.inl rfl, fun _ => ⟨rfl, rfl⟩⟩
    · have hn := h.tokens n List.mem_cons_self
      refine ⟨⟨fun g hg => absurd hg List.not_mem_nil, fun n hn => absurd hn List.not_mem_nil, Or.inl rfl⟩, ?_,
        Or.inr (Or.inr rfl), fun e => by cases e⟩
      exact (words_token hn).symm
  · have htok : l.tokens ≠ [] := fun e => by
      have := h.count
      simp [e, hgaps] at this
    obtain ⟨ns, n, htok⟩ := (List.eq_nil_or_concat' l.tokens).resolve_left htok
    have hg : isGap g = true := h.gaps g (by simp [hgaps])
    have hback : (ClassList.holdLast l) = (g ++ n, ⟨ns, gs⟩) := by
      simp [ClassList.holdLast, htok, hgaps, List.getLastD_eq_getLast?]
    rw [hback]
    refine ⟨⟨fun x hx => h.gaps x (by simp [hgaps, hx]), fun m hm => h.tokens m (by simp [htok, hm]),
      by simpa [htok, hgaps] using h.count⟩, ?_, Or.inr (Or.inl ?_), fun e => ?_⟩
    · simp only
      rw [words_gap_append (gap_separators hg), words_token (h.tokens n (by simp [htok])), htok, List.filter_append]
    · obtain ⟨c, g, rfl⟩ := List.exists_cons_of_ne_nil (gap_ne_nil hg)
      exact ⟨c, rfl, gap_separators hg c List.mem_cons_self⟩
    · simp [e] at htok

/-- A text that was taken apart soundly: what it was cut from, and where the pieces meet. -/
structure Held.Sound (h : Held) (t : Text) : Prop where
  alternating : h.middle.Alternating
  sameWords : words t = words h.front ++ h.middle.tokens.filter (fun n => !n.isEmpty) ++ words h.back
  front : h.front = [] ∨ (∃ c ∈ h.front.getLast?, isSeparator c = true) ∨ (h.middle.tokens = [] ∧ h.back = [])
  back : h.back = [] ∨ (∃ c ∈ h.back.head?, isSeparator c = true) ∨ h.middle.tokens = []

/-- Holding the ends aside loses no word. -/
theorem hold_sound (o : Options) (t : Text) : (hold o t).Sound t := by
  have hsplit : (if o.collapse.isSome then (split t).collapse else split t).Alternating := by
    split
    · exact (split_wellFormed t).alternating.collapse
    · exact (split_wellFormed t).alternating
  have hwords : words t = (if o.collapse.isSome then (split t).collapse else split t).tokens.filter
      fun n => !n.isEmpty := by
    split <;> rfl
  unfold hold
  generalize (if o.collapse.isSome then (split t).collapse else split t) = l at hsplit hwords
  have hfirst : ∃ front m, (if o.holdFirst then holdFirst l else ([], l)) = (front, m) ∧ FrontHeld l front m := by
    split
    · exact ⟨_, _, rfl, hsplit.holdFirst⟩
    · exact ⟨[], l, rfl, hsplit, rfl, Or.inl rfl⟩
  obtain ⟨front, m, hfirst, hf⟩ := hfirst
  have hlast : ∃ back r, (if o.holdLast then holdLast m else ([], m)) = (back, r) ∧ BackHeld m back r := by
    split
    · exact ⟨_, _, rfl, hf.alternating.holdLast⟩
    · exact ⟨[], m, rfl, hf.alternating, by simp, Or.inl rfl, fun e => ⟨by rw [e], rfl⟩⟩
  obtain ⟨back, r, hlast, hb⟩ := hlast
  simp only [hfirst, hlast]
  refine ⟨hb.alternating, ?_, ?_, hb.parted⟩
  · rw [hwords, hf.sameWords, hb.sameWords, List.append_assoc]
  · rcases hf.parted with e | e | e
    · exact Or.inl e
    · exact Or.inr (Or.inl e)
    · exact Or.inr (Or.inr (hb.nothing e))

/-! ## Trimming the pieces -/

/-- A trimmed front ends with a separator if it did before. -/
theorem replaceTrailing_getLast? {t : Text} (h : ∃ c ∈ t.getLast?, isSeparator c = true) :
    ∃ c ∈ (replaceTrailing [' '] t).getLast?, isSeparator c = true := by
  obtain ⟨c, hc, hs⟩ := h
  obtain ⟨a, rfl⟩ := List.getLast?_eq_some_iff.mp hc
  refine ⟨' ', ?_, rfl⟩
  rw [replaceTrailing_eq]
  rcases replaceLeading_split [' '] (a ++ [c]).reverse with ⟨e, -⟩ | ⟨-, e⟩
  · simp [blank_of_separator hs] at e
  · have hr : ([' '] : Text).reverse = [' '] := rfl
    rw [hr, e]
    simp

/-- A trimmed back starts with a separator if it did before. -/
theorem replaceLeading_head? {t : Text} (h : ∃ c ∈ t.head?, isSeparator c = true) :
    ∃ c ∈ (replaceLeading [' '] t).head?, isSeparator c = true := by
  obtain ⟨c, hc, hs⟩ := h
  obtain ⟨a, rfl⟩ := List.head?_eq_some_iff.mp hc
  refine ⟨' ', ?_, rfl⟩
  rcases replaceLeading_split [' '] (c :: a) with ⟨e, -⟩ | ⟨-, e⟩
  · simp [blank_of_separator hs] at e
  · rw [e]; rfl

/-- What the middle becomes. -/
def Ends.trimText (e : Ends) (m : Text) : Text :=
  replaceTrailing (if e.trimStop then [] else [' ']) (replaceLeading (if e.trimStart then [] else [' ']) m)

theorem PartedBy.trimmed {m a b : Text} (h : PartedBy m a b) (e : Ends) :
    PartedBy (e.trimText m) (replaceTrailing [' '] a) (replaceLeading [' '] b) := by
  have hnil : m = [] → e.trimText m = [] := by rintro rfl; rfl
  constructor
  · rcases h.front with rfl | ha | ⟨hm, rfl⟩
    · exact Or.inl rfl
    · exact Or.inr (Or.inl (replaceTrailing_getLast? ha))
    · exact Or.inr (Or.inr ⟨hnil hm, rfl⟩)
  · rcases h.back with rfl | hb | hm
    · exact Or.inl rfl
    · exact Or.inr (Or.inl (replaceLeading_head? hb))
    · exact Or.inr (Or.inr (hnil hm))

theorem separators_space : ∀ c ∈ ([' '] : Text), isSeparator c = true := List.forall_mem_singleton.mpr rfl

theorem separators_ends (trim : Bool) : ∀ c ∈ (if trim then [] else [' '] : Text), isSeparator c = true := by
  cases trim
  · exact separators_space
  · intro c hc; cases hc

/-- No wide blank stands at an end that is trimmed: behind the front, around the middle, or before the back. -/
structure PlainAround (m a b : Text) : Prop where
  front : wideStop a = false
  start : wideStart m = false
  stop : wideStop m = false
  back : wideStart b = false

/-- Without wide blanks at the ends trimming keeps all words. -/
theorem PlainAround.words_trimmed {m a b : Text} (h : PlainAround m a b) (hp : PartedBy m a b) (e : Ends) :
    words (replaceTrailing [' '] a ++ e.trimText m ++ replaceLeading [' '] b) = words a ++ words m ++ words b := by
  have hstop : wideStop (replaceLeading (if e.trimStart then [] else [' ']) m) = false := by
    rw [wideStop_replaceLeading (separators_ends _) h.start, h.stop]
  rw [(hp.trimmed e).words_append, words_replaceTrailing separators_space h.front, Ends.trimText,
    words_replaceTrailing (separators_ends _) hstop, words_replaceLeading (separators_ends _) h.start,
    words_replaceLeading separators_space h.back]

/-- A wide blank at an end is lost, and with it a character of some word. -/
theorem plainAround_of_solid {m a b : Text} {e : Ends}
    (h : solid (replaceTrailing [' '] a ++ e.trimText m ++ replaceLeading [' '] b) = solid a + solid m + solid b) :
    PlainAround m a b := by
  have hplain : ∀ t : Text, solid (t.takeWhile isBlank) = 0 → wideStart t = false := by
    intro t ht
    rw [Bool.eq_false_iff, Ne, wideStart_iff, ht]
    exact Nat.lt_irrefl 0
  have hfront := solid_replaceTrailing separators_space a
  have hstart := solid_replaceLeading (separators_ends e.trimStart) m
  have hstop := solid_replaceTrailing (separators_ends e.trimStop)
    (replaceLeading (if e.trimStart then [] else [' ']) m)
  have hback := solid_replaceLeading separators_space b
  rw [solid_append, solid_append, Ends.trimText] at h
  have start : wideStart m = false := hplain m (by omega)
  have stop : wideStop (replaceLeading (if e.trimStart then [] else [' ']) m) = false := hplain _ (by omega)
  rw [wideStop_replaceLeading (separators_ends _) start] at stop
  exact ⟨hplain _ (by omega), start, stop, hplain b (by omega)⟩

/-! ## The canonical form -/

/-- A gap has no words, and any other fixed text stays. -/
theorem words_fixed {o : Options} {t u : Text} (h : fixed? o t = some u) : words u = words t := by
  unfold fixed? at h
  split at h
  · rw [Option.some.inj h]
  · split at h
    · rename_i hgap
      have hnil := words_gap_append (gap_separators hgap) []
      rw [List.append_nil, words_nil] at hnil
      rw [← Option.some.inj h, hnil]
      split
      · rfl
      · exact hnil
    · cases h

theorem Held.Sound.parted {h : Held} {t : Text} (hs : h.Sound t) {m : Text} (hm : h.middle.tokens = [] → m = []) :
    PartedBy m h.front h.back :=
  ⟨hs.front.imp_right (Or.imp_right fun e => ⟨hm e.1, e.2⟩), hs.back.imp_right (Or.imp_right hm)⟩

/-- The middle of a text with its classes in order, repeats and all. -/
def Held.sorted (rank : Text → Rank) (h : Held) : Text :=
  joinParts (sortRanked false (Ranked.mark rank h.middle.tokens)).classes h.middle.gaps

/-- Sorting the middle keeps its words. -/
theorem Held.words_sorted (rank : Text → Rank) {h : Held} (ha : h.middle.Alternating) :
    (words (h.sorted rank)).Perm (h.middle.tokens.filter fun n => !n.isEmpty) := by
  have hperm : (sortRanked false (Ranked.mark rank h.middle.tokens)).classes.Perm h.middle.tokens := sortRanked_perm _
  have hlen := hperm.length_eq
  have hcount := ha.count
  rw [Held.sorted, words_joinParts ha.gaps (fun n hn => ha.tokens n (hperm.mem_iff.mp hn)) (by omega)]
  exact hperm.filter _

theorem Held.sorted_nil (rank : Text → Rank) {h : Held} (hm : h.middle.tokens = []) : h.sorted rank = [] := by
  rw [Held.sorted, hm]
  rfl

theorem arrange_eq (rank : Text → Rank) {o : Options} (hu : o.unique = false) (t : Text) :
    arrange o t (Ranked.mark rank (hold o t).middle.tokens) = match o.collapse with
      | none => (hold o t).front ++ (hold o t).sorted rank ++ (hold o t).back
      | some e => replaceTrailing [' '] (hold o t).front ++ e.trimText ((hold o t).sorted rank) ++
          replaceLeading [' '] (hold o t).back := by
  have hgaps : ∀ gs, keepGaps (sortRanked false (Ranked.mark rank (hold o t).middle.tokens)).removed 1 gs = gs :=
    fun gs => keepGaps_nil 1 gs
  simp only [arrange, assemble, hu, hgaps]
  rfl

/-- Without `unique` the canonical form has the words of the text, each as often, exactly if the text is fixed, its
gaps are kept, or no wide blank stands at an end that is trimmed. -/
theorem words_normalize (table : RankTable) (o : Options) (hu : o.unique = false) (t : Text) :
    ∃ u, normalize table.ranker o t = .ok u ∧
      ((words u).Perm (words t) ↔ (fixed? o t).isSome = true ∨ o.collapse = none ∨
        PlainAround ((hold o t).sorted table.rank) (hold o t).front (hold o t).back) := by
  refine ⟨_, table.normalize_ranker o t, ?_⟩
  rw [RankTable.normalize]
  cases hfix : fixed? o t with
  | some u => simp [words_fixed hfix]
  | none =>
    have hs := hold_sound o t
    have hparted := hs.parted (Held.sorted_nil table.rank)
    -- the words of the text, put together from those of its pieces
    have hwords : (words (hold o t).front ++ words ((hold o t).sorted table.rank) ++ words (hold o t).back).Perm
        (words t) := by
      rw [hs.sameWords]
      exact ((Held.words_sorted table.rank hs.alternating).append_left _).append_right _
    simp only [arrange_eq table.rank hu, Option.isSome_none, Bool.false_eq_true, false_or]
    cases hc : o.collapse with
    | none =>
      simp only [hparted.words_append, true_or, iff_true]
      exact hwords
    | some e =>
      simp only [reduceCtorEq, false_or]
      constructor
      · intro h
        have hsolid := (h.trans hwords.symm).flatten.length_eq
        simp only [List.flatten_append, List.length_append, solid_words] at hsolid
        exact plainAround_of_solid hsolid
      · intro h
        rw [h.words_trimmed hparted]
        exact hwords

/-- A wide blank in front of the first class is trimmed off, and leaves another class. -/
theorem words_normalize_wide_start :
    ∃ u, normalize (RankTable.ranker ⟨[(['a'], 1)], []⟩) { unique := false } ['\u00a0', 'x', ' ', 'a'] = .ok u ∧
      ¬ (words u).Perm (words ['\u00a0', 'x', ' ', 'a']) := by
  obtain ⟨u, hu, hiff⟩ := words_normalize ⟨[(['a'], 1)], []⟩ { unique := false } rfl ['\u00a0', 'x', ' ', 'a']
  refine ⟨u, hu, fun h => ?_⟩
  rcases hiff.mp h with hfix | hgaps | hplain
  · exact absurd hfix (by decide)
  · cases hgaps
  · exact absurd hplain.start (by decide)

end ClassTidy.ClassList
