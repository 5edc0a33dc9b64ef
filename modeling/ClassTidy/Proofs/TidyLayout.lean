/-
  ClassTidy.Proofs.TidyLayout — single spaces between classes, and nothing around them.

  Where gaps collapse and both ends are trimmed, a canonical form is meant to be tidy: its
  gaps are single spaces, and none stands at an end (`Tidy`). What is left between the classes
  held aside is (`tidy_arranged`). What is held aside need not be. It is trimmed on its inner
  side only, so a gap in front stays there, and a gap behind the last class comes back in
  front of it, beside the one that was there already or with nothing to set apart. A blank
  that is no separator is trimmed to a space at the same places, or leaves nothing of its
  class. `HeldApart` says that none of this happens.

  Proved (`normalize_tidy`): the canonical form is tidy exactly if what is held aside stands
  apart, so it is if nothing is held aside. In a text whose blanks are all separators that is
  a matter of counting (`Filled.heldApart_iff`): no gap stands in front of a first class that
  is held aside, and if a gap stands at an end there are more classes than are held aside.
-/
import Mathlib.Data.List.Chain
import ClassTidy.Proofs.HeldEnds

namespace ClassTidy.ClassList

open Text (isBlank isBlankOnly dropLeading dropTrailing replaceLeading replaceTrailing)

/-- Classes with single spaces between them and nothing around them. -/
structure Tidy (t : Text) : Prop where
  start : ∀ c ∈ t.head?, isSeparator c = false
  stop : ∀ c ∈ t.getLast?, isSeparator c = false
  between : ∀ g ∈ (split t).gaps, g = [' ']

/-! ## Tidy texts, told by their characters -/

/-- No two separators stand side by side. -/
def Lone (t : Text) : Prop := t.IsChain fun a b => ¬ (isSeparator a = true ∧ isSeparator b = true)

/-- A text starts with a separator exactly if its first token is empty and a gap stands behind it. -/
theorem separator_first (t : Text) :
    (∃ c ∈ t.head?, isSeparator c = true) ↔ (parts t).head = [] ∧ (parts t).tail ≠ [] := by
  cases t with
  | nil => simp [parts]
  | cons c t =>
    by_cases hc : isSeparator c = true
    · simp only [List.head?_cons, Option.mem_some, exists_eq_left', hc, true_iff]
      refine ⟨(cons_separator hc (parts t)).1, ?_⟩
      simp only [parts, Parts.cons, hc, if_true]
      split <;> exact List.cons_ne_nil _ _
    · simp [parts, Parts.cons, hc]

/-- Gaps are single spaces exactly if every separator is a space and none stands beside another. -/
theorem single_gaps (t : Text) :
    (∀ g ∈ (split t).gaps, g = [' ']) ↔ (∀ c ∈ t, isSeparator c = true → c = ' ') ∧ Lone t := by
  show (∀ g ∈ (parts t).tail.map (·.1), g = [' ']) ↔ _
  induction t with
  | nil => simp [parts, Lone]
  | cons c t ih =>
    rw [Lone, List.isChain_cons, ← Lone, List.forall_mem_cons]
    by_cases hc : isSeparator c = true
    · by_cases hnext : ∃ d ∈ t.head?, isSeparator d = true
      · -- the gap of `t` grows by a character, and it had one already
        obtain ⟨hhead, htail⟩ := (separator_first t).mp hnext
        obtain ⟨⟨g, n⟩, rest, htail⟩ := List.exists_cons_of_ne_nil htail
        obtain ⟨d, hd, hdsep⟩ := hnext
        have hg : g ≠ [] := by
          have hproper := (parts_proper t).tail
          rw [htail] at hproper
          exact gap_ne_nil hproper.1
        refine iff_of_false (fun h => ?_) fun h => h.2.1 d hd ⟨hc, hdsep⟩
        have hlong : c :: g = [' '] := h (c :: g) (by simp [parts, Parts.cons, hc, hhead, htail])
        exact hg (List.cons.inj hlong).2
      · -- the character is a gap of its own
        have htail : (parts (c :: t)).tail = ([c], (parts t).head) :: (parts t).tail := by
          simp only [parts, Parts.cons, hc, if_true]
          split
          · rename_i hhead htail
            exact absurd ((separator_first t).mpr ⟨hhead, by rw [htail]; exact List.cons_ne_nil _ _⟩) hnext
          · rfl
        rw [htail, List.map_cons, List.forall_mem_cons, ih]
        have hplain : ∀ d ∈ t.head?, ¬ (isSeparator c = true ∧ isSeparator d = true) :=
          fun d hd h => hnext ⟨d, hd, h.2⟩
        constructor
        · rintro ⟨hone, hspace, hlone⟩
          exact ⟨⟨fun _ => (List.cons.inj hone).1, hspace⟩, hplain, hlone⟩
        · rintro ⟨⟨hone, hspace⟩, -, hlone⟩
          exact ⟨congrArg (· :: []) (hone hc), hspace, hlone⟩
    · have htail : (parts (c :: t)).tail = (parts t).tail := by simp [parts, Parts.cons, hc]
      rw [htail, ih]
      simp [hc]

theorem tidy_iff (t : Text) :
    Tidy t ↔ ((∀ c ∈ t.head?, isSeparator c = false) ∧ ∀ c ∈ t.getLast?, isSeparator c = false) ∧
      (∀ c ∈ t, isSeparator c = true → c = ' ') ∧ Lone t := by
  rw [← single_gaps]
  exact ⟨fun h => ⟨⟨h.start, h.stop⟩, h.between⟩, fun h => ⟨h.1.1, h.1.2, h.2⟩⟩

theorem lone_token {n : Text} (hn : ∀ c ∈ n, isSeparator c = false) : Lone n := by
  induction n with
  | nil => exact .nil
  | cons c n ih =>
    have hc := hn c List.mem_cons_self
    exact List.isChain_cons.mpr ⟨fun d _ h => by simp [hc] at h, ih fun d hd => hn d (List.mem_cons_of_mem c hd)⟩

theorem tidy_token {n : Text} (hn : ∀ c ∈ n, isSeparator c = false) : Tidy n := by
  rw [tidy_iff]
  refine ⟨⟨fun c hc => hn c (List.mem_of_head? hc), fun c hc => hn c (List.mem_of_getLast? hc)⟩,
    fun c hc hs => ?_,
    lone_token hn⟩
  rw [hn c hc] at hs
  cases hs

theorem tidy_reverse (t : Text) : Tidy t.reverse ↔ Tidy t := by
  simp only [tidy_iff, Lone, List.isChain_reverse, List.head?_reverse, List.getLast?_reverse, List.mem_reverse]
  constructor <;> rintro ⟨⟨hstart, hstop⟩, hspace, hlone⟩ <;>
    exact ⟨⟨hstop, hstart⟩, hspace, hlone.imp fun _ _ h h' => h ⟨h'.2, h'.1⟩⟩

theorem separator_space : isSeparator ' ' = true := rfl

theorem tidy_append_space (a b : Text) : Tidy (a ++ ' ' :: b) ↔ (a ≠ [] ∧ Tidy a) ∧ b ≠ [] ∧ Tidy b := by
  simp only [tidy_iff, Lone, List.isChain_append, List.isChain_cons, List.forall_mem_append, List.forall_mem_cons,
    implies_true, true_and]
  constructor
  · rintro ⟨⟨hstart, hstop⟩, ⟨hspacea, hspaceb⟩, hlonea, ⟨hfirst, hloneb⟩, hlast⟩
    have ha : a ≠ [] := by
      rintro rfl
      cases hstart ' ' rfl
    have hb : b ≠ [] := by
      rintro rfl
      cases hstop ' ' (by simp)
    refine ⟨⟨ha, ⟨?_, ?_⟩, hspacea, hlonea⟩, hb, ⟨?_, ?_⟩, hspaceb, hloneb⟩
    · intro c hc
      exact hstart c (by rw [List.head?_append, Option.mem_def.mp hc]; rfl)
    · intro c hc
      simpa [separator_space] using hlast c hc ' ' rfl
    · intro c hc
      simpa [separator_space] using hfirst c hc
    · intro c hc
      refine hstop c ?_
      rw [List.getLast?_append, List.getLast?_cons, Option.mem_def.mp hc]
      rfl
  · rintro ⟨⟨ha, ⟨hstarta, hstopa⟩, hspacea, hlonea⟩, hb, ⟨hstartb, hstopb⟩, hspaceb, hloneb⟩
    obtain ⟨x, a, rfl⟩ := List.exists_cons_of_ne_nil ha
    refine ⟨⟨hstarta, ?_⟩, ⟨hspacea, hspaceb⟩, hlonea, ⟨?_, hloneb⟩, ?_⟩
    · obtain ⟨b, y, rfl⟩ := (List.eq_nil_or_concat' b).resolve_left hb
      intro c hc
      refine hstopb c ?_
      rw [← List.cons_append, ← List.append_assoc, List.getLast?_concat] at hc
      rwa [List.getLast?_concat]
    · intro c hc h
      rw [hstartb c hc] at h
      cases h.2
    · intro c hc d _ h
      rw [hstopa c hc] at h
      cases h.1

/-! ## The middle -/

theorem lone_joinParts {ns gs : List Text} (hg : ∀ g ∈ gs, g = [' '])
    (hn : ∀ n ∈ ns, ∀ c ∈ n, isSeparator c = false) (hfilled : ∀ n ∈ ns.tail, n ≠ []) :
    Lone (joinParts ns gs) := by
  induction ns generalizing gs with
  | nil => exact .nil
  | cons n ns ih =>
    have htoken := hn n List.mem_cons_self
    have hrest : ∀ hs : List Text, (∀ g ∈ hs, g = [' ']) → Lone (joinParts ns hs) := fun hs h =>
      ih h (fun m hm => hn m (List.mem_cons_of_mem n hm)) fun m hm => hfilled m (List.mem_of_mem_tail hm)
    have hjoint : ∀ c ∈ n.getLast?, ∀ d : Char, ¬ (isSeparator c = true ∧ isSeparator d = true) := by
      intro c hc d h
      rw [htoken c (List.mem_of_getLast? hc)] at h
      cases h.1
    cases gs with
    | nil => exact (lone_token htoken).append (hrest [] (by simp)) fun c hc d _ => hjoint c hc d
    | cons g gs =>
      obtain rfl : g = [' '] := hg g List.mem_cons_self
      rw [joinParts, List.append_assoc, List.singleton_append]
      refine (lone_token htoken).append
        (List.isChain_cons.mpr ⟨?_, hrest gs fun x hx => hg x (List.mem_cons_of_mem _ hx)⟩)
        fun c hc d _ => hjoint c hc d
      -- the class behind the space is not empty
      intro d hd h
      cases ns with
      | nil => cases hd
      | cons m ns =>
        rw [joinParts_head? (hfilled m List.mem_cons_self)] at hd
        rw [hn m (by simp) d (List.mem_of_head? hd)] at h
        cases h.2

theorem tidy_trim {m : Text} (hspace : ∀ c ∈ m, isSeparator c = true → c = ' ') (hlone : Lone m) :
    Tidy (Text.trim m) := by
  obtain ⟨a, b, hfront, hback⟩ := exists_trim m
  have hm : m = a ++ (Text.trim m ++ b) := by rw [← hback, ← hfront]
  rw [tidy_iff]
  refine ⟨⟨fun c hc => not_separator (head?_trim m c hc),
    fun c hc => not_separator (getLast?_dropTrailing _ c hc)⟩,
    fun c hc => hspace c ?_, ?_⟩
  · rw [hm]
    simp [hc]
  · rw [hm, Lone] at hlone
    exact hlone.right_of_append.left_of_append

variable {rank : Text → Rank}

/-- A middle whose gaps are single spaces is tidy once it is sorted and trimmed. -/
theorem tidy_arranged (hrank : rank [] = .unknown) (unique : Bool) {l : ClassList} (hg : ∀ g ∈ l.gaps, g = [' '])
    (hn : ∀ n ∈ l.tokens, ∀ c ∈ n, isSeparator c = false) (hfilled : ∀ n ∈ l.tokens.tail, n ≠ []) :
    Tidy (Text.trim (arranged rank unique l).join) := by
  have hgaps : ∀ g ∈ (arranged rank unique l).gaps, g = [' '] := fun g h => hg g ((keepGaps_sublist _ _ _).subset h)
  have htokens : ∀ n ∈ (arranged rank unique l).tokens, ∀ c ∈ n, isSeparator c = false := fun n h =>
    hn n (mem_sortRanked.mp h)
  refine tidy_trim (fun c hc hs => ?_) (lone_joinParts hgaps htokens ?_)
  · rcases mem_of_joinParts hc with ⟨n, hin, hcn⟩ | ⟨g, hin, hcg⟩
    · rw [htokens n hin c hcn] at hs
      cases hs
    · rw [hgaps g hin] at hcg
      exact List.mem_singleton.mp hcg
  · refine sortRanked_tail unique (by rwa [Ranked.mark_names]) fun x hx hname => ?_
    rw [Ranked.markFrom_faithful rank 0 l.tokens x hx, hname, hrank]

theorem trim_arranged_ne_nil (rank : Text → Rank) (unique : Bool) {l : ClassList} (hg : ∀ g ∈ l.gaps, g = [' ']) :
    Text.trim (arranged rank unique l).join ≠ [] ↔ ∃ n ∈ l.tokens, isBlankOnly n = false := by
  have hblank : isBlankOnly (arranged rank unique l).join = true ↔ ∀ n ∈ l.tokens, isBlankOnly n = true := by
    constructor
    · intro h n hn
      exact List.all_eq_true.mpr fun c hc => List.all_eq_true.mp h c (mem_joinParts (mem_sortRanked.mpr hn) hc)
    · intro h
      refine List.all_eq_true.mpr fun c hc => ?_
      rcases mem_of_joinParts hc with ⟨n, hn, hcn⟩ | ⟨g, hin, hcg⟩
      · exact List.all_eq_true.mp (h n (mem_sortRanked.mp hn)) c hcn
      · rw [hg g ((keepGaps_sublist _ _ _).subset hin), List.mem_singleton] at hcg
        rw [hcg]
        rfl
  rw [Ne, trim_eq_nil, hblank]
  simp

/-! ## What is held aside -/

theorem blank_space : ∀ c ∈ ([' '] : Text), isBlank c = true := List.forall_mem_singleton.mpr rfl

/-- What is held aside in front is tidy with the rest behind it exactly if a class is left of it and the rest is not
empty. Without a gap there is no rest, and no blank may end it. -/
theorem tidy_front {ns gs : List Text} (hns : ns.length ≤ 1) (hgs : gs.length ≤ 1)
    (hspace : ∀ g ∈ gs, g = [' ']) (hn : ∀ n ∈ ns, ∀ c ∈ n, isSeparator c = false)
    (hgap : ns = [] → gs = []) {r : Text} (hbare : gs = [] → ns ≠ [] → r = []) :
    Tidy (replaceTrailing [' '] (ns.flatten ++ gs.flatten) ++ r) ↔
      (gs ≠ [] → (∀ n ∈ ns, isBlankOnly n = false) ∧ r ≠ []) ∧
      (gs = [] → ∀ n ∈ ns, ∀ c ∈ n.getLast?, isBlank c = false) ∧ Tidy r := by
  rcases ns with _ | ⟨n, _ | ⟨m, ns⟩⟩
  · have hnone : replaceTrailing [' '] [] = [] := rfl
    simp [hgap rfl, hnone]
  · have htoken := hn n List.mem_cons_self
    rcases gs with _ | ⟨g, _ | ⟨h, gs⟩⟩
    · obtain rfl := hbare rfl (List.cons_ne_nil n [])
      have hempty : Tidy [] := tidy_token fun c hc => absurd hc List.not_mem_nil
      simp only [List.flatten_singleton, List.flatten_nil, List.append_nil, ne_eq, not_true_eq_false, false_implies,
        forall_const, true_and, List.mem_singleton, forall_eq, iff_true_intro hempty, and_true]
      constructor
      · intro htidy c hc
        by_contra hblank
        obtain ⟨n, rfl⟩ := List.getLast?_eq_some_iff.mp hc
        have htrim : replaceTrailing [' '] (n ++ [c]) = dropTrailing (n ++ [c]) ++ [' '] := by
          simp [replaceTrailing, hblank]
        rw [htrim, tidy_append_space] at htidy
        exact htidy.2.1 rfl
      · intro hplain
        rw [replaceTrailing_of_plain hplain]
        exact tidy_token htoken
    · obtain rfl : g = [' '] := hspace g List.mem_cons_self
      have htrim : replaceTrailing [' '] (n ++ [' ']) = dropTrailing n ++ [' '] := by
        rw [← dropTrailing_blanks blank_space]
        simp [replaceTrailing, blank_space]
      have hleft : Tidy (dropTrailing n) := tidy_token fun c hc => htoken c (mem_of_dropTrailing hc)
      rw [List.flatten_singleton, List.flatten_singleton, htrim, List.append_assoc, List.singleton_append,
        tidy_append_space,
        Ne, dropTrailing_eq_nil]
      simp [hleft, and_assoc]
    · simp at hgs
  · simp at hns

theorem flatten_reverse {ns : List Text} (h : ns.length ≤ 1) :
    (ns.map List.reverse).flatten = ns.flatten.reverse := by
  rcases ns with _ | ⟨n, _ | ⟨m, ns⟩⟩
  · rfl
  · simp
  · simp at h

/-- The same of what is held aside behind. -/
theorem tidy_back {ns gs : List Text} (hns : ns.length ≤ 1) (hgs : gs.length ≤ 1) (hspace : ∀ g ∈ gs, g = [' '])
    (hn : ∀ n ∈ ns, ∀ c ∈ n, isSeparator c = false) (hgap : ns = [] → gs = []) {r : Text}
    (hbare : gs = [] → ns ≠ [] → r = []) :
    Tidy (r ++ replaceLeading [' '] (gs.flatten ++ ns.flatten)) ↔
      (gs ≠ [] → (∀ n ∈ ns, isBlankOnly n = false) ∧ r ≠ []) ∧
      (gs = [] → ∀ n ∈ ns, ∀ c ∈ n.head?, isBlank c = false) ∧ Tidy r := by
  -- the same, read backwards
  have hback : (r ++ replaceLeading [' '] (gs.flatten ++ ns.flatten)).reverse =
      replaceTrailing [' '] ((ns.map List.reverse).flatten ++ (gs.map List.reverse).flatten) ++ r.reverse := by
    rw [flatten_reverse hns, flatten_reverse hgs, ← List.reverse_append, replaceTrailing_eq, List.reverse_reverse,
      List.reverse_singleton, List.reverse_append]
  have hfront := tidy_front (r := r.reverse) (by simpa using hns : (ns.map List.reverse).length ≤ 1)
    (by simpa using hgs : (gs.map List.reverse).length ≤ 1)
    (by
      rw [List.forall_mem_map]
      intro g hg
      rw [hspace g hg]
      rfl)
    (by simpa only [List.forall_mem_map, List.mem_reverse] using hn) (by simpa using hgap) (by simpa using hbare)
  rw [← tidy_reverse, hback, hfront, tidy_reverse]
  simp only [ne_eq, List.map_eq_nil_iff, List.reverse_eq_nil_iff, List.forall_mem_map, isBlankOnly, List.all_reverse,
    List.getLast?_reverse]

/-! ## The canonical form -/

/-- What is held aside of a list stands apart from the rest by a single space. -/
structure HeldApart (o : Options) (l : ClassList) : Prop where
  /-- Something stands before the gap in front, and something behind it. -/
  front : o.front l.gaps ≠ [] → (∀ n ∈ o.front l.tokens, isBlankOnly n = false) ∧
    ((∃ n ∈ o.middle l.tokens, isBlankOnly n = false) ∨ (o.back l.gaps = [] ∧ o.back l.tokens ≠ []))
  /-- Something stands before the gap behind, and something behind it. -/
  back : o.back l.gaps ≠ [] → (∀ n ∈ o.back l.tokens, isBlankOnly n = false) ∧
    ∃ n ∈ o.middle l.tokens, isBlankOnly n = false
  /-- Without a gap, nothing is trimmed off in its place. -/
  bareFront : o.front l.gaps = [] → ∀ n ∈ o.front l.tokens, ∀ c ∈ n.getLast?, isBlank c = false
  bareBack : o.back l.gaps = [] → ∀ n ∈ o.back l.tokens, ∀ c ∈ n.head?, isBlank c = false

variable {o : Options} {t : Text}

theorem trimText_both (m : Text) : Ends.trimText ⟨true, true⟩ m = Text.trim m := by
  simp only [Ends.trimText, if_true, replaceLeading_nil, replaceTrailing_nil, Text.trim]

theorem cut_collapsed {e : Ends} (hc : o.collapse = some e) : (o.cut t).gaps = (split t).gaps.map fun _ => [' '] := by
  simp [Options.cut, hc, collapse]

theorem cut_spaces {e : Ends} (hc : o.collapse = some e) : ∀ g ∈ (o.cut t).gaps, g = [' '] := by
  rw [cut_collapsed hc, List.forall_mem_map]
  exact fun _ _ => rfl

theorem front_cut {e : Ends} (hc : o.collapse = some e) :
    o.front (o.cut t).gaps = [] ↔ o.front (split t).gaps = [] := by
  rw [cut_collapsed hc, o.front_map, List.map_eq_nil_iff]

theorem back_cut {e : Ends} (hc : o.collapse = some e) : o.back (o.cut t).gaps = [] ↔ o.back (split t).gaps = [] := by
  rw [cut_collapsed hc, o.back_map, List.map_eq_nil_iff]

/-- What is put between the classes held aside. -/
def sortedMiddle (table : RankTable) (o : Options) (t : Text) : Text :=
  Text.trim (arranged table.rank o.unique (hold o t).middle).join

theorem tidy_sortedMiddle (table : RankTable) {e : Ends} (hc : o.collapse = some e) :
    Tidy (sortedMiddle table o t) := by
  have hwell := split_wellFormed t
  rw [sortedMiddle, hold_parts]
  exact tidy_arranged table.rank_nil o.unique (fun g hg => cut_spaces hc g (Options.mem_of_middle hg))
    (fun n hn => hwell.tokens n (Options.mem_of_middle hn)) fun n hn => hwell.filled n (Options.mem_tail_of_middle hn)

theorem sortedMiddle_ne_nil (table : RankTable) {e : Ends} (hc : o.collapse = some e) :
    sortedMiddle table o t ≠ [] ↔ ∃ n ∈ o.middle (split t).tokens, isBlankOnly n = false := by
  rw [sortedMiddle, hold_parts]
  exact trim_arranged_ne_nil table.rank o.unique fun g hg => cut_spaces hc g (Options.mem_of_middle hg)

theorem sortedMiddle_nil (table : RankTable) {e : Ends} (hc : o.collapse = some e)
    (hnone : o.middle (split t).tokens = []) :
    sortedMiddle table o t = [] := by
  by_contra h
  obtain ⟨n, hn, -⟩ := (sortedMiddle_ne_nil table hc).mp h
  rw [hnone] at hn
  cases hn

theorem tidy_middle_back (table : RankTable) {e : Ends} (hc : o.collapse = some e) :
    Tidy (sortedMiddle table o t ++ replaceLeading [' '] (hold o t).back) ↔
      (o.back (split t).gaps ≠ [] → (∀ n ∈ o.back (split t).tokens, isBlankOnly n = false) ∧
        sortedMiddle table o t ≠ []) ∧
      (o.back (split t).gaps = [] → ∀ n ∈ o.back (split t).tokens, ∀ c ∈ n.head?, isBlank c = false) := by
  have hcut := o.cut_alternating t
  have hback : (hold o t).back = (o.back (o.cut t).gaps).flatten ++ (o.back (o.cut t).tokens).flatten := by
    rw [hold_parts, o.cut_tokens]
  rw [hback, tidy_back (o.back_length _) (o.back_length _) (fun g hg => cut_spaces hc g (Options.mem_of_back hg))
    (fun n hn => hcut.tokens n (Options.mem_of_back hn)) hcut.back_gap
    fun hgap htoken => sortedMiddle_nil table hc (by rw [← o.cut_tokens t]; exact hcut.back_bare hgap htoken),
      o.cut_tokens]
  simp only [Ne, back_cut hc, tidy_sortedMiddle table hc, and_true]

theorem tidy_normalize_front (table : RankTable) (hc : o.collapse = some ⟨true, true⟩) (hfix : fixed? o t = none) :
    Tidy (table.normalize o t) ↔
      (o.front (split t).gaps ≠ [] → (∀ n ∈ o.front (split t).tokens, isBlankOnly n = false) ∧
        sortedMiddle table o t ++ replaceLeading [' '] (hold o t).back ≠ []) ∧
      (o.front (split t).gaps = [] → ∀ n ∈ o.front (split t).tokens, ∀ c ∈ n.getLast?, isBlank c = false) ∧
      Tidy (sortedMiddle table o t ++ replaceLeading [' '] (hold o t).back) := by
  have hcut := o.cut_alternating t
  have hnormal : table.normalize o t =
      replaceTrailing [' '] ((o.front (o.cut t).tokens).flatten ++ (o.front (o.cut t).gaps).flatten) ++
        (sortedMiddle table o t ++ replaceLeading [' '] (hold o t).back) := by
    have hfront : (hold o t).front = (o.front (o.cut t).tokens).flatten ++ (o.front (o.cut t).gaps).flatten := by
      rw [hold_parts, o.cut_tokens]
    rw [normalize_held table hfix, hc, ← hfront, sortedMiddle]
    simp only [trimText_both, List.append_assoc]
  have hbare : o.front (o.cut t).gaps = [] → o.front (o.cut t).tokens ≠ [] →
      sortedMiddle table o t ++ replaceLeading [' '] (hold o t).back = [] := by
    intro hgap htoken
    obtain ⟨hmiddle, hgapless, htokenless⟩ := hcut.front_bare hgap htoken
    rw [o.cut_tokens] at hmiddle htokenless
    have hback : (hold o t).back = [] := by
      rw [hold_parts, hgapless, htokenless]
      rfl
    rw [sortedMiddle_nil table hc hmiddle, hback]
    rfl
  rw [hnormal, tidy_front (o.front_length _) (o.front_length _) (fun g hg => cut_spaces hc g (Options.mem_of_front hg))
    (fun n hn => hcut.tokens n (Options.mem_of_front hn)) hcut.front_gap hbare, o.cut_tokens]
  simp only [Ne, front_cut hc]

/-- The canonical form is tidy exactly if what is held aside stands apart. -/
theorem tidy_normalize (table : RankTable) (hc : o.collapse = some ⟨true, true⟩) (hfix : fixed? o t = none) :
    Tidy (table.normalize o t) ↔ HeldApart o (split t) := by
  have hsolid := sortedMiddle_ne_nil (t := t) table hc
  rw [tidy_normalize_front table hc hfix, tidy_middle_back table hc]
  constructor
  · rintro ⟨hfront, hbareFront, hback, hbareBack⟩
    refine ⟨fun hgap => ⟨(hfront hgap).1, ?_⟩, fun hgap => ⟨(hback hgap).1, hsolid.mp (hback hgap).2⟩,
      hbareFront, hbareBack⟩
    by_cases hgapless : o.back (split t).gaps = []
    · by_cases htokenless : o.back (split t).tokens = []
      · left
        have hnone : (hold o t).back = [] := by
          rw [hold_parts, (back_cut hc).mpr hgapless, htokenless]
          rfl
        have hrest := (hfront hgap).2
        rw [hnone] at hrest
        exact hsolid.mp (by simpa [replaceLeading] using hrest)
      · exact Or.inr ⟨hgapless, htokenless⟩
    · exact Or.inl (hsolid.mp (hback hgapless).2)
  · rintro ⟨hfront, hback, hbareFront, hbareBack⟩
    refine ⟨fun hgap => ⟨(hfront hgap).1, ?_⟩, hbareFront,
      fun hgap => ⟨(hback hgap).1, hsolid.mpr (hback hgap).2⟩, hbareBack⟩
    rcases (hfront hgap).2 with hmiddle | ⟨hgapless, htoken⟩
    · exact List.append_ne_nil_of_left_ne_nil (hsolid.mpr hmiddle) _
    · -- the last class is not the first one, so it is not empty, and it is not trimmed
      obtain ⟨n, ns, hn⟩ := List.exists_cons_of_ne_nil htoken
      obtain rfl : ns = [] := by
        have hlen := o.back_length (split t).tokens
        rw [hn] at hlen
        exact List.eq_nil_of_length_eq_zero (by simpa using hlen)
      have hmem : n ∈ o.back (split t).tokens := by rw [hn]; exact List.mem_cons_self
      have hne : n ≠ [] :=
        (split_wellFormed t).filled n (Options.mem_tail_of_back (Options.held_of_front hgap) hmem)
      have hwhole : replaceLeading [' '] (hold o t).back = n := by
        rw [hold_parts, (back_cut hc).mpr hgapless, hn, List.flatten_nil, List.nil_append, List.flatten_singleton]
        exact replaceLeading_of_plain (hbareBack hgapless n hmem)
      rw [hwhole]
      exact List.append_ne_nil_of_right_ne_nil _ hne

/-- How many ends are held aside. -/
def Options.held (o : Options) : Nat := o.holdFirst.toNat + o.holdLast.toNat

theorem heldApart_of_none (l : ClassList) (h : o.held = 0) : HeldApart o l := by
  obtain ⟨hf, hl⟩ : o.holdFirst = false ∧ o.holdLast = false := by simpa [Options.held] using h
  have hfront : ∀ l : List Text, o.front l = [] := fun l => by simp [Options.front, hf]
  have hback : ∀ l : List Text, o.back l = [] := fun l => by simp [Options.back, hl]
  constructor <;> simp [hfront, hback]

/-- If there is something in every token held aside, the others decide. -/
theorem heldApart_of_solid {l : ClassList} (hplain : ∀ n ∈ l.tokens, ∀ c ∈ n, isBlank c = false)
    (hfront : ∀ n ∈ o.front l.tokens, isBlankOnly n = false)
    (hback : ∀ n ∈ o.back l.tokens, isBlankOnly n = false) :
    HeldApart o l ↔
      (o.front l.gaps ≠ [] → (∃ n ∈ o.middle l.tokens, isBlankOnly n = false) ∨
        (o.back l.gaps = [] ∧ o.back l.tokens ≠ [])) ∧
      (o.back l.gaps ≠ [] → ∃ n ∈ o.middle l.tokens, isBlankOnly n = false) := by
  constructor
  · intro h
    exact ⟨fun hgap => (h.front hgap).2, fun hgap => (h.back hgap).2⟩
  · rintro ⟨hf, hb⟩
    exact ⟨fun hgap => ⟨hfront, hf hgap⟩, fun hgap => ⟨hback, hb hgap⟩,
      fun _ n hn c hc => hplain n (Options.mem_of_front hn) c (List.mem_of_getLast? hc),
      fun _ n hn c hc => hplain n (Options.mem_of_back hn) c (List.mem_of_head? hc)⟩

theorem isBlankOnly_plain {n : Text} (h : ∀ c ∈ n, isBlank c = false) : isBlankOnly n = n.isEmpty := by
  cases n with
  | nil => rfl
  | cons c n => simp [isBlankOnly, h c List.mem_cons_self]

theorem exists_solid_iff {ns : List Text} (hplain : ∀ n ∈ ns, ∀ c ∈ n, isBlank c = false) :
    (∃ n ∈ ns, isBlankOnly n = false) ↔ 0 < (ns.filter fun n => !n.isEmpty).length := by
  rw [List.length_pos_iff_exists_mem]
  refine exists_congr fun n => ?_
  rw [List.mem_filter, Bool.not_eq_true']
  exact and_congr_right fun hn => by rw [isBlankOnly_plain (hplain n hn)]

theorem front_ne_nil {l : ClassList} (hlead : ¬ (o.holdFirst = true ∧ l.tokens.head? = some [])) :
    ∀ n ∈ o.front l.tokens, n ≠ [] := by
  rintro n hn rfl
  exact hlead ⟨Options.held_of_front (List.ne_nil_of_mem hn), Options.head?_of_front hn⟩

theorem Filled.back_ne_nil {l : ClassList} (h : l.Filled) : ∀ n ∈ o.back l.tokens, n ≠ [] := by
  intro n hn
  obtain ⟨ns, m, htok, hm⟩ := h.stop
  have hlast := Options.getLast?_of_back hn
  rw [htok, List.getLast?_concat] at hlast
  exact Option.some.inj hlast ▸ hm

/-- The classes in the middle are all but those held aside. -/
theorem classes_count {ns : List Text} (hfront : ∀ n ∈ o.front ns, n ≠ [])
    (hback : ∀ n ∈ o.back ns, n ≠ []) :
    (ns.filter fun n => !n.isEmpty).length =
      (o.front ns).length + ((o.middle ns).filter fun n => !n.isEmpty).length + (o.back ns).length := by
  have hall : ∀ ms : List Text, (∀ n ∈ ms, n ≠ []) → ms.filter (fun n => !n.isEmpty) = ms := fun ms hms =>
    List.filter_eq_self.mpr fun n hn => by simpa using hms n hn
  conv_lhs =>
    rw [← o.parts ns, List.filter_append, List.filter_append, hall _ hfront, hall _ hback, List.length_append,
    List.length_append]

/-- Without blanks in classes it comes down to counting: no gap may stand in front of a first class that is held
aside, and if a gap stands at either end there must be a class that is not held aside. -/
theorem Filled.heldApart_iff {l : ClassList} (h : l.Filled)
    (hplain : ∀ n ∈ l.tokens, ∀ c ∈ n, isBlank c = false) :
    HeldApart o l ↔ (o.holdFirst = true → l.tokens.head? ≠ some []) ∧
      (l.tokens.head? = some [] ∨ l.gaps.length = l.tokens.length →
        o.held < (l.tokens.filter fun n => !n.isEmpty).length) := by
  by_cases hlead : o.holdFirst = true ∧ l.tokens.head? = some []
  · -- the empty token in front of a gap is held aside
    obtain ⟨hf, hempty⟩ := hlead
    refine iff_of_false (fun hapart => ?_) fun hcount => hcount.1 hf hempty
    have hgap : o.front l.gaps ≠ [] := by simpa [Options.front, hf] using h.wellFormed.front hempty
    have hmem : [] ∈ o.front l.tokens := by
      obtain ⟨ns, hns⟩ := List.head?_eq_some_iff.mp hempty
      simp [Options.front, hf, hns]
    cases (hapart.front hgap).1 [] hmem
  · have hfront := front_ne_nil hlead
    have hback := h.back_ne_nil (o := o)
    have hsolid : ∀ n ∈ l.tokens, n ≠ [] → isBlankOnly n = false := by
      intro n hn hne
      rw [isBlankOnly_plain (hplain n hn), List.isEmpty_eq_false_iff]
      exact hne
    rw [heldApart_of_solid hplain (fun n hn => hsolid n (Options.mem_of_front hn) (hfront n hn))
      (fun n hn => hsolid n (Options.mem_of_back hn) (hback n hn)),
      exists_solid_iff fun n hn => hplain n (Options.mem_of_middle hn)]
    -- what is left are numbers
    have hclasses := classes_count hfront hback
    have hword : 0 < (l.tokens.filter fun n => !n.isEmpty).length := by
      obtain ⟨n, hn, hne⟩ := h.word
      exact List.length_pos_iff_exists_mem.mpr ⟨n, List.mem_filter.mpr ⟨hn, by simpa using hne⟩⟩
    have hcount := h.wellFormed.count
    have hf := o.holdFirst.toNat_le
    have hl := o.holdLast.toNat_le
    simp only [Ne, ← List.length_eq_zero_iff, o.front_count, o.back_count, Options.held] at hclasses ⊢
    rcases h.tokens_cases with ⟨hstart, hall⟩ | ⟨hstart, hall⟩
    · rw [hall] at hclasses hword ⊢
      simp only [hstart, not_false_eq_true, implies_true, true_and, false_or]
      omega
    · have hnone : o.holdFirst = false := by simpa [hstart] using hlead
      have hlength : l.tokens.length = (l.tokens.filter fun n => !n.isEmpty).length + 1 := congrArg List.length hall
      rw [hnone, Bool.toNat_false] at hclasses
      simp only [hnone, hstart, Bool.false_eq_true, false_implies, true_and, true_or, forall_const, Bool.toNat_false]
      omega

/-- A text that is no template and its canonical form, with gaps collapsed and both ends trimmed. It has single spaces
between its classes and nothing around them exactly if what was held aside stands apart, which it does if nothing was.
In a text whose blanks all separate classes this means: no gap stands in front if the first class is held aside, and
if a gap stands in front or behind, there is a class that is not held aside. -/
theorem normalize_tidy (table : RankTable) (o : Options) (t : Text) (hc : o.collapse = some ⟨true, true⟩)
    (hgap : isGap t = false) (hmark : hasMarker t = false) :
    ∃ u, normalize table.ranker o t = .ok u ∧ (Tidy u ↔ HeldApart o (split t)) ∧ (o.held = 0 → Tidy u) ∧
      ((∀ c ∈ t, isBlank c = true → isSeparator c = true) →
        (Tidy u ↔ (o.holdFirst = true → t.head?.any isSeparator = false) ∧
          (t.head?.any isSeparator = true ∨ t.getLast?.any isSeparator = true → o.held < (words t).length))) := by
  refine ⟨_, table.normalize_ranker o t, ?_⟩
  by_cases hne : t = []
  · subst hne
    have hnone : ∀ l : List Text, (∀ n ∈ l, n ∈ ([] : List Text)) → l = [] :=
      fun l => List.eq_nil_of_subset_nil
    have hfront : o.front (split []).gaps = [] ∧ o.front (split []).tokens = [] :=
      ⟨hnone _ fun _ => Options.mem_of_front, hnone _ fun _ => Options.mem_of_front⟩
    have hback : o.back (split []).gaps = [] ∧ o.back (split []).tokens = [] :=
      ⟨hnone _ fun _ => Options.mem_of_back, hnone _ fun _ => Options.mem_of_back⟩
    have hempty : Tidy (table.normalize o []) := tidy_token fun c hc => absurd hc List.not_mem_nil
    refine ⟨iff_of_true hempty ?_, fun _ => hempty, fun _ => iff_of_true hempty ⟨fun _ => rfl, by simp⟩⟩
    constructor <;> simp [hfront, hback]
  · have hfix : fixed? o t = none := by simp [fixed?, hne, hgap, hmark]
    have htidy := tidy_normalize table hc hfix
    refine ⟨htidy, fun hnone => htidy.mpr (heldApart_of_none _ hnone), fun hblank => ?_⟩
    have hfilled := filled_split hne hgap
    have hstart := hfilled.separator_start
    have hstop := hfilled.separator_stop
    rw [join_split] at hstart hstop
    have hplain : ∀ n ∈ (split t).tokens, ∀ c ∈ n, isBlank c = false := by
      intro n hn c hcn
      have hin : c ∈ t := by
        rw [← join_split t]
        exact mem_joinParts hn hcn
      rw [Bool.eq_false_iff]
      intro h
      have hsep := hblank c hin h
      rw [hfilled.wellFormed.tokens n hn c hcn] at hsep
      cases hsep
    rw [htidy, hfilled.heldApart_iff hplain, words]
    simp only [Ne, ← hstart, ← hstop, Bool.not_eq_true]

/-- Two classes and a gap behind them, both held aside: the gap behind the last class comes back in front of it, as a
second space between the two. -/
theorem normalize_tidy_gap_behind :
    let table : RankTable := ⟨[(['a'], 1), (['b'], 2)], []⟩
    let o : Options := { holdFirst := true, holdLast := true }
    let t : Text := ['a', ' ', 'b', '\n']
    isGap t = false ∧ hasMarker t = false ∧ ∃ u, normalize table.ranker o t = .ok u ∧
      u = ['a', ' ', ' ', 'b'] ∧ ¬ Tidy u := by
  intro table o t
  have hgap : isGap t = false := by decide
  have hmark : hasMarker t = false := by decide
  obtain ⟨u, hu, -, -, hcount⟩ := normalize_tidy table o t rfl hgap hmark
  have htext : normalize table.ranker o t = .ok ['a', ' ', ' ', 'b'] := by
    rw [table.normalize_ranker]
    decide
  refine ⟨hgap, hmark, u, hu, Except.ok.inj (hu.symm.trans htext), fun htidy => ?_⟩
  have hblank : ∀ c ∈ t, isBlank c = true → isSeparator c = true := by
    intro c hc
    simp only [t, List.mem_cons, List.not_mem_nil, or_false] at hc
    rcases hc with rfl | rfl | rfl | rfl <;> decide
  have hmore := ((hcount hblank).mp htidy).2 (Or.inr (by decide))
  have hwords : words t = [['a'], ['b']] := by decide
  rw [hwords] at hmore
  exact absurd hmore (by decide)

end ClassTidy.ClassList
