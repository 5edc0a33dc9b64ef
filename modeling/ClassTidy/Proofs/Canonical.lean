/-
  ClassTidy.Proofs.Canonical — the canonical form stays as it is.

  A list is canonical if it is well formed, has a class, its names are in order, and, where
  gaps collapse, every gap is one space and the ends are as trimming leaves them. The text
  of a canonical list is its own canonical form (`normalize_canonical`), and every canonical
  form is the text of a canonical list (`exists_canonical`), unless trimming takes a wide
  blank off a class: what is left is another class, with another rank.

  Proved: canonical forms are stable (`normalize_stable`): always if gaps are kept, and if
  they collapse for every text whose first sorted class does not start and whose last does
  not end with a wide blank. The blanks in front of a class string count as a class that is
  empty, so that the first class is the first one that is not
  (`normalize_unstable_behind_gap`).
-/
import Mathlib.Data.List.Chain
import ClassTidy.Proofs.Order
import ClassTidy.Proofs.Trim

namespace ClassTidy.ClassList

open Text (isBlank replaceLeading replaceTrailing)

/-! ## The template marker -/

/-- No two opening braces stand next to each other. -/
def Unmarked (t : Text) : Prop := t.IsChain fun a b => ¬ (a = '\x7b' ∧ b = '\x7b')

theorem hasMarker_eq_false (t : Text) : hasMarker t = false ↔ Unmarked t := by
  induction t with
  | nil => simp [hasMarker, Text.find?, marker, Unmarked]
  | cons c t ih =>
    cases t with
    | nil => simp [hasMarker, Text.find?, marker, Unmarked]
    | cons d t =>
      have hp : marker.isPrefixOf (c :: d :: t) = true ↔ c = '\x7b' ∧ d = '\x7b' := by
        simp only [marker, List.isPrefixOf_cons_cons, List.isPrefixOf_nil_left, Bool.and_true,
          Bool.and_eq_true, beq_iff_eq]
        exact and_congr eq_comm eq_comm
      have hstep : hasMarker (c :: d :: t) = (marker.isPrefixOf (c :: d :: t) || hasMarker (d :: t)) := by
        rw [hasMarker, Text.find?]
        split
        · rename_i h
          rw [h]; rfl
        · rename_i h
          rw [Bool.not_eq_true] at h
          rw [h, Bool.false_or, Option.isSome_map, hasMarker]
      rw [Unmarked, List.isChain_cons_cons, hstep, Bool.or_eq_false_iff, ih, ← Bool.not_eq_true, hp, Unmarked]

theorem unmarked_append_gap {g : Text} (hg : isGap g = true) (a b : Text) :
    Unmarked (a ++ g ++ b) ↔ Unmarked a ∧ Unmarked b := by
  have hbrace : ∀ c ∈ g, c ≠ '\x7b' := by
    intro c hc e
    have := gap_separators hg c hc
    rw [e] at this
    exact absurd this (by decide)
  have hgap : Unmarked g :=
    (List.pairwise_of_forall_mem_list fun x hx y _ (h : x = '\x7b' ∧ y = '\x7b') => hbrace x hx h.1).isChain
  have hne := gap_ne_nil hg
  simp only [Unmarked, List.isChain_append]
  constructor
  · rintro ⟨⟨ha, -, -⟩, hb, -⟩
    exact ⟨ha, hb⟩
  · rintro ⟨ha, hb⟩
    refine ⟨⟨ha, hgap, fun x _ y hy h => hbrace y (List.mem_of_head? hy) h.2⟩, hb, fun x hx y _ h => ?_⟩
    rw [List.getLast?_append_of_ne_nil _ hne] at hx
    exact hbrace x (List.mem_of_getLast? hx) h.1

/-- No marker comes about between classes. -/
theorem unmarked_joinParts {ns gs : List Text} (hg : ∀ g ∈ gs, isGap g = true) (h : ns.length ≤ gs.length + 1) :
    Unmarked (joinParts ns gs) ↔ ∀ n ∈ ns, Unmarked n := by
  induction ns generalizing gs with
  | nil => simp [joinParts, Unmarked]
  | cons n ns ih =>
    cases gs with
    | nil =>
      obtain rfl : ns = [] := List.eq_nil_of_length_eq_zero (by simpa using h)
      simp [joinParts]
    | cons g gs =>
      rw [joinParts, unmarked_append_gap (hg g List.mem_cons_self),
        ih (fun x hx => hg x (List.mem_cons_of_mem g hx)) (by simpa using h)]
      simp

/-- A text holds a marker only if one of its tokens does. -/
theorem unmarked_split (t : Text) : Unmarked t ↔ ∀ n ∈ (split t).tokens, Unmarked n := by
  have hwell := split_wellFormed t
  have hcount : (split t).tokens.length ≤ (split t).gaps.length + 1 := by
    have := hwell.count
    omega
  conv_lhs => rw [← join_split t, join, unmarked_joinParts hwell.gaps hcount]

theorem unmarked_words (t : Text) : Unmarked t ↔ ∀ n ∈ words t, Unmarked n := by
  rw [unmarked_split]
  constructor
  · exact fun h n hn => h n (List.mem_of_mem_filter hn)
  · intro h n hn
    by_cases hne : n = []
    · rw [hne]; exact List.isChain_nil
    · exact h n (List.mem_filter.mpr ⟨hn, by simpa using hne⟩)

/-! ## Lists that hold a class -/

/-- A well-formed list with a class in it. -/
structure Filled (l : ClassList) : Prop where
  wellFormed : l.WellFormed
  word : ∃ n ∈ l.tokens, n ≠ []

/-- Either a class stands first, or the empty token, a gap and then a class. -/
theorem Filled.start {l : ClassList} (h : l.Filled) :
    (∃ n ns, l.tokens = n :: ns ∧ n ≠ []) ∨ ∃ n ns g gs, l = ⟨[] :: n :: ns, g :: gs⟩ ∧ n ≠ [] := by
  obtain ⟨⟨-, -, hfilled, hfront, -⟩, m, hm, hmne⟩ := h
  obtain ⟨tokens, gaps⟩ := l
  cases tokens with
  | nil => cases hm
  | cons n ns =>
    by_cases hn : n = []
    · subst hn
      obtain ⟨g, gs, rfl⟩ := List.exists_cons_of_ne_nil (hfront rfl)
      rcases List.mem_cons.mp hm with rfl | hm
      · exact absurd rfl hmne
      · obtain ⟨n, ns, rfl⟩ := List.exists_cons_of_ne_nil (List.ne_nil_of_mem hm)
        exact Or.inr ⟨n, ns, g, gs, rfl, hfilled n List.mem_cons_self⟩
    · exact Or.inl ⟨n, ns, rfl, hn⟩

theorem Filled.stop {l : ClassList} (h : l.Filled) : ∃ ns n, l.tokens = ns ++ [n] ∧ n ≠ [] := by
  rcases List.eq_nil_or_concat l.tokens with e | ⟨ns, n, e⟩
  · obtain ⟨n, hn, -⟩ := h.word
    rw [e] at hn; cases hn
  · refine ⟨ns, n, by simpa using e, ?_⟩
    cases ns with
    | nil =>
      obtain ⟨m, hm, hne⟩ := h.word
      rw [e] at hm
      simp only [List.concat_eq_append, List.nil_append, List.mem_singleton] at hm
      exact hm ▸ hne
    | cons m ns => exact h.wellFormed.filled n (by simp [e])

/-- A text that is neither empty nor a gap. -/
theorem filled_split {t : Text} (hne : t ≠ []) (hgap : isGap t = false) : (split t).Filled := by
  refine ⟨split_wellFormed t, ?_⟩
  by_contra hno
  have hwords : words t = [] := by
    refine List.filter_eq_nil_iff.mpr fun n hn => ?_
    have : n = [] := by
      by_contra h
      exact hno ⟨n, hn, h⟩
    simp [this]
  have hsolid := words_flatten t
  rw [hwords, List.flatten_nil, eq_comm, List.filter_eq_nil_iff] at hsolid
  have : isGap t = true := by
    simp only [isGap, Bool.and_eq_true, Bool.not_eq_true', List.isEmpty_eq_false_iff, List.all_eq_true]
    exact ⟨hne, fun c hc => by simpa using hsolid c hc⟩
  rw [this] at hgap; cases hgap

theorem Filled.collapse {l : ClassList} (h : l.Filled) : l.collapse.Filled := by
  refine ⟨⟨fun g hg => ?_, h.wellFormed.tokens, h.wellFormed.filled, fun e => ?_, ?_⟩, h.word⟩
  · obtain ⟨-, -, rfl⟩ := List.mem_map.mp hg
    rfl
  · simpa [ClassList.collapse] using h.wellFormed.front e
  · simpa [ClassList.collapse] using h.wellFormed.count

/-- A text with a class in it needs ranks, unless it holds a marker. -/
theorem fixed?_of_words {t : Text} (hwords : words t ≠ []) (hmark : hasMarker t = false) (o : Options) :
    fixed? o t = none := by
  have hne : t ≠ [] := by
    rintro rfl
    exact hwords words_nil
  have hgap : isGap t = false := by
    rw [Bool.eq_false_iff]
    intro hg
    have := words_gap_append (gap_separators hg) []
    rw [List.append_nil, words_nil] at this
    exact hwords this
  simp [fixed?, hne, hgap, hmark]

theorem Filled.fixed?_join {l : ClassList} (h : l.Filled) (hu : ∀ n ∈ l.tokens, Unmarked n) (o : Options) :
    fixed? o l.join = none := by
  obtain ⟨n, hn, hne⟩ := h.word
  have hword : n ∈ words l.join := by
    rw [words_join h.wellFormed, List.mem_filter]
    exact ⟨hn, by simpa using hne⟩
  refine fixed?_of_words (List.ne_nil_of_mem hword) ?_ o
  refine (hasMarker_eq_false _).mpr ((unmarked_joinParts h.wellFormed.gaps ?_).mpr hu)
  rcases h.wellFormed.count with e | e <;> omega

/-! ## Lists in order -/

/-- Ranked classes in order, with the gaps that stay. -/
def stitched (unique : Bool) (tokens : List Ranked) (gaps : List Text) : ClassList :=
  let s := sortRanked unique tokens
  ⟨s.classes, keepGaps s.removed 1 gaps⟩

/-- A list keeps as many gaps more or less than tokens as it had. -/
theorem stitched_excess (unique : Bool) (tokens : List Ranked) (gaps : List Text)
    (h : gaps.length = tokens.length ∨ gaps.length + 1 = tokens.length) :
    (stitched unique tokens gaps).gaps.length + tokens.length =
      gaps.length + (stitched unique tokens gaps).tokens.length := by
  by_cases hne : tokens = []
  · subst hne
    obtain rfl : gaps = [] := by simpa using h
    cases unique <;> rfl
  · have hlen : gaps.length + 1 = tokens.length + (gaps.length + 1 - tokens.length) := by omega
    have hcount := (sortRanked_count unique hne hlen).1
    simp only [stitched]
    omega

/-- Sorting keeps a list well formed, as long as the empty token has no rank. -/
theorem Filled.stitched (unique : Bool) {l : ClassList} (h : l.Filled) {tokens : List Ranked}
    (hnames : tokens.map (·.name) = l.tokens) (hempty : ∀ x ∈ tokens, x.name = [] → x.rank = .unknown) :
    (stitched unique tokens l.gaps).Filled := by
  have hlen : tokens.length = l.tokens.length := by rw [← hnames, List.length_map]
  have hmem : ∀ n, n ∈ (ClassList.stitched unique tokens l.gaps).tokens ↔ n ∈ l.tokens := fun n => by
    rw [← hnames]
    exact mem_sorted
  have htail : ∀ n ∈ (ClassList.stitched unique tokens l.gaps).tokens.tail, n ≠ [] :=
    sortRanked_tail unique (by rw [hnames]; exact h.wellFormed.filled) hempty
  have hcount := stitched_excess unique tokens l.gaps (by rw [hlen]; exact h.wellFormed.count)
  have hcount' := h.wellFormed.count
  obtain ⟨w, hw, hwne⟩ := h.word
  have hword := (hmem w).mpr hw
  refine ⟨⟨fun g hg => h.wellFormed.gaps g ((keepGaps_sublist _ _ _).subset hg),
    fun n hn => h.wellFormed.tokens n ((hmem n).mp hn), htail, fun e hgaps => ?_, by omega⟩, w, hword, hwne⟩
  -- a class stands behind the empty token, so a gap does
  obtain ⟨ns, hns⟩ := List.head?_eq_some_iff.mp e
  rw [hns] at hword hcount
  rw [hgaps] at hcount
  rcases List.mem_cons.mp hword with rfl | hin
  · exact hwne rfl
  · have := List.length_pos_of_mem hin
    simp only [List.length_nil, List.length_cons] at hcount
    omega

/-- The classes of a list in order, with the gaps that stay. -/
def arranged (rank : Text → Rank) (unique : Bool) (l : ClassList) : ClassList :=
  let s := sortRanked unique (Ranked.mark rank l.tokens)
  ⟨s.classes, keepGaps s.removed 1 l.gaps⟩

theorem arranged_eq (rank : Text → Rank) (unique : Bool) (l : ClassList) :
    arranged rank unique l = stitched unique (Ranked.mark rank l.tokens) l.gaps := rfl

variable {rank : Text → Rank}

theorem arranged_excess (rank : Text → Rank) (unique : Bool) {l : ClassList} (h : l.Filled) :
    (arranged rank unique l).gaps.length + l.tokens.length =
      l.gaps.length + (arranged rank unique l).tokens.length := by
  have hlen : (Ranked.mark rank l.tokens).length = l.tokens.length := by
    conv_rhs => rw [← Ranked.mark_names rank l.tokens, List.length_map]
  have hexcess := stitched_excess unique (Ranked.mark rank l.tokens) l.gaps
    (by rw [hlen]; exact h.wellFormed.count)
  rwa [hlen] at hexcess

/-- Sorting keeps a list well formed. -/
theorem Filled.arranged (hrank : rank [] = .unknown) (unique : Bool) {l : ClassList} (h : l.Filled) :
    (arranged rank unique l).Filled := by
  rw [arranged_eq]
  refine h.stitched unique (Ranked.mark_names rank l.tokens) fun x hx hname => ?_
  rw [Ranked.markFrom_faithful rank 0 l.tokens x hx, hname, hrank]

/-- A list whose names are in order is its own arrangement. -/
theorem arranged_of_inOrder {unique : Bool} {l : ClassList} (h : InOrder rank unique l.tokens) :
    arranged rank unique l = l := by
  simp only [arranged, sortRanked_of_inOrder h, keepGaps_nil]

/-! ## Ends -/

/-- The first name that is not empty does not start with a wide blank, and the last name does not end with one. -/
structure PlainEnds (ns : List Text) : Prop where
  start : ∀ n ∈ ns.find? (fun n => !n.isEmpty), ∀ c ∈ n.head?, isWide c = false
  stop : ∀ n ∈ ns.getLast?, ∀ c ∈ n.getLast?, isWide c = false

instance (ns : List Text) : Decidable (PlainEnds ns) :=
  decidable_of_iff ((ns.find? fun n => !n.isEmpty).all (fun n => n.head?.all fun c => !isWide c) = true ∧
      ns.getLast?.all (fun n => n.getLast?.all fun c => !isWide c) = true) <| by
    simp only [Option.all_eq_true, Bool.not_eq_true']
    exact ⟨fun h => ⟨h.1, h.2⟩, fun h => ⟨h.start, h.stop⟩⟩

/-- A list with nothing but single spaces between its classes, and no blank at the ends of the first and the last. -/
structure Spaced (l : ClassList) : Prop extends l.Filled where
  spaces : ∀ g ∈ l.gaps, g = [' ']
  ends : PlainEnds l.tokens

/-- The list without the gap in front. -/
def trimFront (l : ClassList) : ClassList := if l.tokens.head? = some [] then ⟨l.tokens.tail, l.gaps.tail⟩ else l

/-- The list without the gap behind. -/
def trimBack (l : ClassList) : ClassList :=
  if l.gaps.length = l.tokens.length then ⟨l.tokens, l.gaps.dropLast⟩ else l

theorem not_blank {n : Text} (hn : ∀ c ∈ n, isSeparator c = false) {c : Char} (hc : c ∈ n)
    (hw : isWide c = false) :
    isBlank c = false := by
  have hs := hn c hc
  simpa [isWide, hs] using hw

theorem joinParts_head? {n : Text} (hn : n ≠ []) (ns gs : List Text) : (joinParts (n :: ns) gs).head? = n.head? := by
  obtain ⟨c, n, rfl⟩ := List.exists_cons_of_ne_nil hn
  cases gs <;> rfl

theorem joinParts_append {ms gs : List Text} (h : gs.length = ms.length) (ns hs : List Text) :
    joinParts (ms ++ ns) (gs ++ hs) = joinParts ms gs ++ joinParts ns hs := by
  induction ms generalizing gs with
  | nil =>
    obtain rfl := List.eq_nil_of_length_eq_zero h
    rfl
  | cons m ms ih =>
    cases gs with
    | nil => cases h
    | cons g gs =>
      simp only [List.cons_append, joinParts, ih (by simpa using h), List.append_assoc]

/-- The text of a list ends with its last token, or with a gap behind that, which is trimmed off. -/
theorem Filled.join_stop {l : ClassList} (h : l.Filled) :
    ∃ ns n a, l.tokens = ns ++ [n] ∧ n ≠ [] ∧ l.trimBack.join = a ++ n ∧
      ((l.gaps.length = l.tokens.length ∧ ∃ g ∈ l.gaps, l.join = a ++ n ++ g) ∨
        (l.gaps.length ≠ l.tokens.length ∧ l.join = a ++ n)) := by
  obtain ⟨ns, n, htok, hn⟩ := h.stop
  have hlen : l.tokens.length = ns.length + 1 := by simp [htok]
  rcases h.wellFormed.count with e | e
  · obtain ⟨gs, g, hgaps⟩ : ∃ gs g, l.gaps = gs ++ [g] :=
      (List.eq_nil_or_concat' l.gaps).resolve_left fun hnil => by simp [hnil] at e; omega
    have hgs : gs.length = ns.length := by simp [hgaps] at e; omega
    refine ⟨ns, n, joinParts ns gs, htok, hn, ?_, Or.inl ⟨e, g, by simp [hgaps], ?_⟩⟩
    · rw [trimBack, if_pos e, join, htok, hgaps, List.dropLast_concat]
      simpa [joinParts] using joinParts_append hgs [n] []
    · rw [join, htok, hgaps, joinParts_append hgs]
      simp [joinParts]
  · have hjoin : l.join = joinParts ns l.gaps ++ n := by
      rw [join, htok]
      simpa [joinParts] using joinParts_append (by omega : l.gaps.length = ns.length) [n] []
    refine ⟨ns, n, joinParts ns l.gaps, htok, hn, ?_, Or.inr ⟨by omega, hjoin⟩⟩
    rw [trimBack, if_neg (by omega), hjoin]

namespace Spaced

variable {l : ClassList}

theorem start_plain (h : l.Spaced) {n : Text} {ns : List Text} (hn : n ≠ [])
    (htok : l.tokens = n :: ns ∨ l.tokens = [] :: n :: ns) (gs : List Text) :
    ∀ c ∈ (joinParts (n :: ns) gs).head?, isBlank c = false := by
  intro c hc
  rw [joinParts_head? hn] at hc
  have hfind : l.tokens.find? (fun n => !n.isEmpty) = some n := by
    rcases htok with e | e <;> simp [e, hn]
  have hmem : n ∈ l.tokens := by rcases htok with e | e <;> simp [e]
  exact not_blank (h.wellFormed.tokens n hmem) (List.mem_of_head? hc) (h.ends.start n hfind c hc)

/-- Trimming the start of the text drops the gap in front, or keeps it. -/
theorem replaceLeading_join (h : l.Spaced) (trim : Bool) :
    replaceLeading (if trim then [] else [' ']) l.join = (if trim then l.trimFront else l).join := by
  rcases h.start with ⟨n, ns, htok, hn⟩ | ⟨n, ns, g, gs, rfl, hn⟩
  · have hfront : l.trimFront = l := by simp [trimFront, htok, hn]
    rw [hfront, ite_self, join, htok]
    exact replaceLeading_of_plain (h.start_plain hn (Or.inl htok) l.gaps)
  · have hg : g = [' '] := h.spaces g List.mem_cons_self
    have := replaceLeading_space (r := if trim then [] else [' ']) (h.start_plain hn (Or.inr rfl) gs)
    rw [hg]
    cases trim <;> exact this

theorem stop_plain (h : l.Spaced) {ns : List Text} {n : Text} (htok : l.tokens = ns ++ [n]) (hn : n ≠ []) (a : Text) :
    ∀ c ∈ (a ++ n).getLast?, isBlank c = false := by
  intro c hc
  rw [List.getLast?_append_of_ne_nil a hn] at hc
  exact not_blank (h.wellFormed.tokens n (by simp [htok])) (List.mem_of_getLast? hc)
    (h.ends.stop n (by simp [htok]) c hc)

/-- Trimming the stop of the text drops the gap behind, or keeps it. -/
theorem replaceTrailing_join (h : l.Spaced) (trim : Bool) :
    replaceTrailing (if trim then [] else [' ']) l.join = (if trim then l.trimBack else l).join := by
  obtain ⟨ns, n, a, htok, hn, hback, ⟨-, g, hg, hjoin⟩ | ⟨hcount, hjoin⟩⟩ := h.join_stop
  · rw [h.spaces g hg] at hjoin
    rw [hjoin, replaceTrailing_space (h.stop_plain htok hn _)]
    cases trim
    · simp [hjoin]
    · simp [hback]
  · have hsame : l.trimBack = l := if_neg hcount
    rw [hsame, ite_self, hjoin]
    exact replaceTrailing_of_plain (h.stop_plain htok hn _)

end Spaced

/-! ## Trimmed lists -/

/-- The list without the gaps that are trimmed off. -/
def Ends.trim (e : Ends) (l : ClassList) : ClassList :=
  let l := if e.trimStart then l.trimFront else l
  if e.trimStop then l.trimBack else l

/-- No gap is left to trim off. -/
structure Trimmed (e : Ends) (l : ClassList) : Prop where
  start : e.trimStart = true → l.tokens.head? ≠ some []
  stop : e.trimStop = true → l.gaps.length ≠ l.tokens.length

theorem Trimmed.trim {e : Ends} {l : ClassList} (h : Trimmed e l) : e.trim l = l := by
  have hfront : (if e.trimStart then l.trimFront else l) = l := by
    split
    · rename_i hs; exact if_neg (h.start hs)
    · rfl
  simp only [Ends.trim, hfront]
  split
  · rename_i hs; exact if_neg (h.stop hs)
  · rfl

theorem trimFront_sublist (l : ClassList) :
    l.trimFront.tokens.Sublist l.tokens ∧ l.trimFront.gaps.Sublist l.gaps := by
  unfold trimFront
  split
  · exact ⟨List.tail_sublist _, List.tail_sublist _⟩
  · exact ⟨.refl _, .refl _⟩

theorem trimBack_tokens (l : ClassList) : l.trimBack.tokens = l.tokens := by unfold trimBack; split <;> rfl

theorem trimBack_gaps (l : ClassList) : l.trimBack.gaps.Sublist l.gaps := by
  unfold trimBack
  split
  · exact List.dropLast_sublist _
  · exact .refl _

theorem Ends.trim_tokens (e : Ends) (l : ClassList) :
    (e.trim l).tokens = (if e.trimStart then l.trimFront else l).tokens := by
  simp only [Ends.trim]
  split
  · exact trimBack_tokens _
  · rfl

namespace Filled

variable {l : ClassList}

theorem trimFront_head (h : l.Filled) : l.trimFront.tokens.head? ≠ some [] := by
  rcases h.start with ⟨n, ns, htok, hn⟩ | ⟨n, ns, g, gs, rfl, hn⟩
  · simp [ClassList.trimFront, htok, hn]
  · simp [ClassList.trimFront, hn]

theorem trimFront (h : l.Filled) : l.trimFront.Filled := by
  rcases h.start with ⟨n, ns, htok, hn⟩ | ⟨n, ns, g, gs, rfl, hn⟩
  · rwa [show l.trimFront = l by simp [ClassList.trimFront, htok, hn]]
  · obtain ⟨hgaps, htokens, hfilled, -, hcount⟩ := h.wellFormed
    rw [show ClassList.trimFront ⟨[] :: n :: ns, g :: gs⟩ = ⟨n :: ns, gs⟩ from rfl]
    exact ⟨⟨fun g hg => hgaps g (List.mem_cons_of_mem _ hg), fun n hn => htokens n (List.mem_cons_of_mem _ hn),
      fun n hn => hfilled n (List.mem_cons_of_mem _ hn), fun e => absurd (Option.some.inj e) hn,
        by simpa using hcount⟩,
      n, List.mem_cons_self, hn⟩

theorem trimBack_count (h : l.Filled) : l.trimBack.gaps.length + 1 = l.trimBack.tokens.length := by
  obtain ⟨n, hn, -⟩ := h.word
  have := List.length_pos_of_mem hn
  rcases h.wellFormed.count with e | e
  · rw [trimBack_tokens, ClassList.trimBack, if_pos e, List.length_dropLast]
    omega
  · rwa [ClassList.trimBack, if_neg (by omega)]

theorem trimBack (h : l.Filled) : l.trimBack.Filled := by
  have hcount := h.trimBack_count
  obtain ⟨hgaps, htokens, hfilled, -, -⟩ := h.wellFormed
  refine ⟨⟨fun g hg => hgaps g (l.trimBack_gaps.subset hg), ?_, ?_, fun e hnil => ?_, Or.inr hcount⟩, ?_⟩
  · rwa [trimBack_tokens]
  · rwa [trimBack_tokens]
  · -- with the empty token in front there are two tokens, and so a gap between them
    rw [trimBack_tokens] at e hcount
    rw [hnil] at hcount
    rcases h.start with ⟨n, ns, htok, hn⟩ | ⟨n, ns, g, gs, rfl, hn⟩
    · rw [htok] at e
      exact hn (Option.some.inj e)
    · simp at hcount
  · rw [trimBack_tokens]; exact h.word

theorem trimmed (h : l.Filled) (e : Ends) : Trimmed e (e.trim l) := by
  have hfront : (if e.trimStart then l.trimFront else l).Filled := by
    split
    · exact h.trimFront
    · exact h
  constructor
  · intro hs
    rw [e.trim_tokens, if_pos hs]
    exact h.trimFront_head
  · intro hs
    simp only [Ends.trim, hs, if_true]
    have := hfront.trimBack_count
    omega

end Filled

theorem PlainEnds.trimFront {l : ClassList} (hl : l.Filled) (h : PlainEnds l.tokens) :
    PlainEnds l.trimFront.tokens := by
  rcases hl.start with ⟨n, ns, htok, hn⟩ | ⟨n, ns, g, gs, rfl, hn⟩
  · rwa [show l.trimFront = l by simp [ClassList.trimFront, htok, hn]]
  · exact ⟨h.start, fun m hm => h.stop m (by simpa [ClassList.trimFront] using hm)⟩

theorem Spaced.trimFront {l : ClassList} (h : l.Spaced) : l.trimFront.Spaced :=
  ⟨h.toFilled.trimFront, fun g hg => h.spaces g (l.trimFront_sublist.2.subset hg), h.ends.trimFront h.toFilled⟩

theorem Spaced.trimBack {l : ClassList} (h : l.Spaced) : l.trimBack.Spaced :=
  ⟨h.toFilled.trimBack, fun g hg => h.spaces g (l.trimBack_gaps.subset hg), by rw [trimBack_tokens]; exact h.ends⟩

theorem Spaced.trim {l : ClassList} (h : l.Spaced) (e : Ends) : (e.trim l).Spaced := by
  have hfront : (if e.trimStart then l.trimFront else l).Spaced := by
    split
    · exact h.trimFront
    · exact h
  simp only [Ends.trim]
  split
  · exact hfront.trimBack
  · exact hfront

/-- Trimming the text is trimming the list. -/
theorem Spaced.trim_join {l : ClassList} (h : l.Spaced) (e : Ends) :
    replaceTrailing (if e.trimStop then [] else [' ']) (replaceLeading (if e.trimStart then [] else [' ']) l.join) =
      (e.trim l).join := by
  have hfront : (if e.trimStart then l.trimFront else l).Spaced := by
    split
    · exact h.trimFront
    · exact h
  rw [h.replaceLeading_join, hfront.replaceTrailing_join]
  rfl

/-! ## Canonical lists -/

/-- A list as the canonical form of some text has it. -/
structure Canonical (rank : Text → Rank) (o : Options) (l : ClassList) : Prop extends l.Filled where
  unmarked : ∀ n ∈ l.tokens, Unmarked n
  inOrder : InOrder rank o.unique l.tokens
  collapsed : ∀ e ∈ o.collapse, l.Spaced ∧ Trimmed e l

/-- The canonical form where nothing is held aside. -/
theorem normalize_eq (table : RankTable) {o : Options} (hf : o.holdFirst = false) (hl : o.holdLast = false) {t : Text}
    (hfix : fixed? o t = none) :
    table.normalize o t = match o.collapse with
      | none => (arranged table.rank o.unique (split t)).join
      | some e => replaceTrailing (if e.trimStop then [] else [' ']) (replaceLeading (if e.trimStart then [] else [' '])
          (arranged table.rank o.unique (split t).collapse).join) := by
  simp only [RankTable.normalize, hfix, arrange, hold, hf, hl, assemble]
  cases o.collapse with
  | none => simp [arranged, join]
  | some e => simp [arranged, join, Text.replaceTrailing, Text.replaceLeading]

theorem normalize_canonical (table : RankTable) {o : Options} (hf : o.holdFirst = false) (hl : o.holdLast = false)
    {l : ClassList} (h : Canonical table.rank o l) : table.normalize o l.join = l.join := by
  rw [normalize_eq table hf hl (h.fixed?_join h.unmarked o), split_join h.wellFormed]
  cases hc : o.collapse with
  | none => simp only [arranged_of_inOrder h.inOrder]
  | some e =>
    obtain ⟨hs, ht⟩ := h.collapsed e hc
    have hcollapse : l.collapse = l := by
      have : l.gaps.map (fun _ => [' ']) = l.gaps.map id := List.map_congr_left fun g hg => (hs.spaces g hg).symm
      rw [ClassList.collapse, this, List.map_id]
    simp only [hcollapse, arranged_of_inOrder h.inOrder, hs.trim_join, ht.trim]

/-- What needs ranks is neither empty nor a gap, and holds no marker. -/
theorem of_fixed?_none {o : Options} {t : Text} (h : fixed? o t = none) :
    t ≠ [] ∧ isGap t = false ∧ Unmarked t := by
  unfold fixed? at h
  split at h
  · cases h
  · rename_i hne
    split at h
    · cases h
    · rename_i hgap
      simp only [Bool.or_eq_true, List.isEmpty_iff, not_or, Bool.not_eq_true] at hne
      exact ⟨hne.1, by simpa using hgap, (hasMarker_eq_false t).mp hne.2⟩

theorem fixed?_fixed {o : Options} {t u : Text} (h : fixed? o t = some u) : fixed? o u = some u := by
  unfold fixed? at h
  split at h
  · rename_i hstay
    obtain rfl := Option.some.inj h
    exact if_pos hstay
  · rename_i hstay
    split at h
    · rename_i hgap
      obtain rfl := Option.some.inj h
      by_cases hc : o.collapse.isSome = true
      · rw [if_pos hc, fixed?, if_neg (by decide), if_pos (by decide), if_pos hc]
      · rw [if_neg hc, fixed?, if_neg hstay, if_pos hgap, if_neg hc]
    · cases h

/-- A fixed text that is no gap stays as it is. -/
theorem fixed?_of_not_gap {o : Options} {t u : Text} (hgap : isGap t = false) (h : fixed? o t = some u) : u = t := by
  unfold fixed? at h
  split at h
  · exact (Option.some.inj h).symm
  · rw [hgap, if_neg Bool.false_ne_true] at h
    cases h

/-- A class string that is not blank is no gap. -/
theorem not_gap {t : Text} (ht : Text.isBlankOnly t = false) : isGap t = false := by
  rw [Bool.eq_false_iff]
  intro hg
  have hblank : Text.isBlankOnly t = true :=
    List.all_eq_true.mpr fun c hc => blank_of_separator (gap_separators hg c hc)
  exact absurd (hblank.symm.trans ht) (by decide)

/-- Every canonical form that took ranks is the text of a canonical list, unless a wide blank was trimmed off. -/
theorem exists_canonical (table : RankTable) {o : Options} (hf : o.holdFirst = false) (hl : o.holdLast = false)
    {t : Text} (hfix : fixed? o t = none)
    (hends : o.collapse = none ∨ PlainEnds (sortRanked o.unique (Ranked.mark table.rank (split t).tokens)).classes) :
    ∃ l, Canonical table.rank o l ∧ table.normalize o t = l.join ∧
      ∀ n ∈ l.tokens, n ∈ (split t).tokens := by
  obtain ⟨hne, hgap, hmark⟩ := of_fixed?_none hfix
  have hfilled := filled_split hne hgap
  have hunmarked := (unmarked_split t).mp hmark
  have hsorted : ∀ n ∈ (sortRanked o.unique (Ranked.mark table.rank (split t).tokens)).classes, Unmarked n :=
    fun n hn => hunmarked n (mem_sortRanked.mp hn)
  have horder : InOrder table.rank o.unique (sortRanked o.unique (Ranked.mark table.rank (split t).tokens)).classes :=
    sortRanked_inOrder o.unique (split t).tokens
  rw [normalize_eq table hf hl hfix]
  cases hc : o.collapse with
  | none =>
    refine ⟨_, ⟨hfilled.arranged table.rank_nil o.unique, hsorted, horder, fun e he => ?_⟩, rfl,
      fun n => mem_sortRanked.mp⟩
    rw [hc] at he; cases he
  | some e =>
    have hs : (arranged table.rank o.unique (split t).collapse).Spaced :=
      ⟨hfilled.collapse.arranged table.rank_nil o.unique, fun g hg => by
        obtain ⟨-, -, rfl⟩ := List.mem_map.mp ((keepGaps_sublist _ _ _).subset hg)
        rfl, hends.resolve_left (by rw [hc]; exact Option.some_ne_none e)⟩
    have hsub : (e.trim (arranged table.rank o.unique (split t).collapse)).tokens.Sublist
        (sortRanked o.unique (Ranked.mark table.rank (split t).tokens)).classes := by
      rw [e.trim_tokens]
      split
      · exact (trimFront_sublist _).1
      · exact .refl _
    refine ⟨_, ⟨(hs.trim e).toFilled, fun n hn => hsorted n (hsub.subset hn), horder.sublist hsub,
      fun e' he => ?_⟩,
      hs.trim_join e, fun n hn => mem_sortRanked.mp (hsub.subset hn)⟩
    obtain rfl : e = e' := Option.some.inj (hc.symm.trans he)
    exact ⟨hs.trim e, hs.toFilled.trimmed e⟩

/-! ## Stability -/

theorem mem_joinParts {ns gs : List Text} {n : Text} {c : Char} (hn : n ∈ ns) (hc : c ∈ n) :
    c ∈ joinParts ns gs := by
  induction ns generalizing gs with
  | nil => cases hn
  | cons m ns ih => cases gs <;> rcases List.mem_cons.mp hn with rfl | hn <;> simp [joinParts, *]

theorem mem_joinParts_gap {ns gs : List Text} (h : gs.length ≤ ns.length) {g : Text} {c : Char} (hg : g ∈ gs)
    (hc : c ∈ g) :
    c ∈ joinParts ns gs := by
  induction gs generalizing ns with
  | nil => cases hg
  | cons x gs ih =>
    cases ns with
    | nil => simp at h
    | cons n ns =>
      rcases List.mem_cons.mp hg with rfl | hg
      · simp [joinParts, hc]
      · simp [joinParts, ih (by simpa using h) hg]

/-- Putting together invents no character. -/
theorem mem_of_joinParts {ns gs : List Text} {c : Char} (h : c ∈ joinParts ns gs) :
    (∃ n ∈ ns, c ∈ n) ∨ ∃ g ∈ gs, c ∈ g := by
  induction ns generalizing gs with
  | nil => cases h
  | cons n ns ih =>
    cases gs with
    | nil =>
      rcases List.mem_append.mp h with h | h
      · exact Or.inl ⟨n, List.mem_cons_self, h⟩
      · rcases ih h with ⟨m, hm, hc⟩ | ⟨g, hg, -⟩
        · exact Or.inl ⟨m, List.mem_cons_of_mem n hm, hc⟩
        · cases hg
    | cons g gs =>
      rcases List.mem_append.mp h with h | h
      · rcases List.mem_append.mp h with h | h
        · exact Or.inl ⟨n, List.mem_cons_self, h⟩
        · exact Or.inr ⟨g, List.mem_cons_self, h⟩
      · rcases ih h with ⟨m, hm, hc⟩ | ⟨g', hg, hc⟩
        · exact Or.inl ⟨m, List.mem_cons_of_mem n hm, hc⟩
        · exact Or.inr ⟨g', List.mem_cons_of_mem g hg, hc⟩

theorem mem_of_replaceLeading {r t : Text} {c : Char} (h : c ∈ replaceLeading r t) : c ∈ r ∨ c ∈ t := by
  rcases replaceLeading_split r t with ⟨-, e⟩ | ⟨-, e⟩
  · exact Or.inr (e ▸ h)
  · rw [e] at h
    exact (List.mem_append.mp h).imp_right fun h => (List.dropWhile_suffix _).subset h

theorem mem_of_replaceTrailing {r t : Text} {c : Char} (h : c ∈ replaceTrailing r t) : c ∈ r ∨ c ∈ t := by
  rw [replaceTrailing_eq, List.mem_reverse] at h
  simpa using mem_of_replaceLeading h

/-- A canonical form has the characters of the text, and spaces. -/
theorem mem_of_normalize (table : RankTable) {o : Options} (hf : o.holdFirst = false) (hl : o.holdLast = false)
    {t : Text} {c : Char} (h : c ∈ table.normalize o t) : c ∈ t ∨ c = ' ' := by
  have hspace : ∀ b : Bool, c ∈ (if b then [] else [' '] : Text) → c = ' ' := by
    intro b hb
    cases b
    · exact List.mem_singleton.mp hb
    · cases hb
  have htokens : ∀ n ∈ (split t).tokens, c ∈ n → c ∈ t := fun n hn hc => by
    rw [← join_split t]
    exact mem_joinParts hn hc
  cases hfix : fixed? o t with
  | some u =>
    rw [RankTable.normalize, hfix] at h
    unfold fixed? at hfix
    split at hfix
    · exact Or.inl (Option.some.inj hfix ▸ h)
    · split at hfix
      · obtain rfl := Option.some.inj hfix
        simp only at h
        split at h
        · exact Or.inr (List.mem_singleton.mp h)
        · exact Or.inl h
      · cases hfix
  | none =>
    rw [normalize_eq table hf hl hfix] at h
    cases hc : o.collapse with
    | none =>
      rw [hc] at h
      rcases mem_of_joinParts h with ⟨n, hn, hcn⟩ | ⟨g, hg, hcg⟩
      · exact Or.inl (htokens n (mem_sortRanked.mp hn) hcn)
      · left
        rw [← join_split t]
        have hcount := (split_wellFormed t).count
        exact mem_joinParts_gap (by omega) ((keepGaps_sublist _ _ _).subset hg) hcg
    | some e =>
      rw [hc] at h
      rcases mem_of_replaceTrailing h with h | h
      · exact Or.inr (hspace _ h)
      · rcases mem_of_replaceLeading h with h | h
        · exact Or.inr (hspace _ h)
        · rcases mem_of_joinParts h with ⟨n, hn, hcn⟩ | ⟨g, hg, hcg⟩
          · exact Or.inl (htokens n (mem_sortRanked.mp hn) hcn)
          · obtain ⟨-, -, rfl⟩ := List.mem_map.mp ((keepGaps_sublist _ _ _).subset hg)
            exact Or.inr (List.mem_singleton.mp hcg)

/-- Without wide blanks in the text there are none at the ends of its classes. -/
theorem plainEnds_of_separators {t : Text} (h : ∀ c ∈ t, isBlank c = true → isSeparator c = true) {ns : List Text}
    (hns : ∀ n ∈ ns, n ∈ (split t).tokens) : PlainEnds ns := by
  have hplain : ∀ n ∈ ns, ∀ c ∈ n, isWide c = false := by
    intro n hn c hc
    have hin : c ∈ t := by
      rw [← join_split t]
      exact mem_joinParts (hns n hn) hc
    have hsep := (split_wellFormed t).tokens n (hns n hn) c hc
    have hb : isBlank c = false := by
      rw [Bool.eq_false_iff]
      intro hb
      rw [h c hin hb] at hsep; cases hsep
    simp [isWide, hb]
  exact ⟨fun n hn c hc => hplain n (List.mem_of_find?_eq_some hn) c (List.mem_of_head? hc),
    fun n hn c hc => hplain n (List.mem_of_getLast? hn) c (List.mem_of_getLast? hc)⟩

/-- Trimming takes nothing off the classes of a text: its gaps are kept, it has no wide blank, or its sorted classes
neither start nor end with one. -/
def Settles (table : RankTable) (o : Options) (t : Text) : Prop :=
  o.collapse = none ∨ (∀ c ∈ t, isBlank c = true → isSeparator c = true) ∨
    (fixed? o t = none → PlainEnds (sortRanked o.unique (Ranked.mark table.rank (split t).tokens)).classes)

/-- The text of a canonical list, or a fixed text. -/
theorem Settles.cases {table : RankTable} {o : Options} (hf : o.holdFirst = false) (hl : o.holdLast = false) {t : Text}
    (h : Settles table o t) :
    fixed? o t = some (table.normalize o t) ∨
      fixed? o t = none ∧ ∃ l, Canonical table.rank o l ∧ table.normalize o t = l.join ∧
        ∀ n ∈ l.tokens, n ∈ (split t).tokens := by
  cases hfix : fixed? o t with
  | some u => exact Or.inl (by rw [RankTable.normalize, hfix])
  | none =>
    refine Or.inr ⟨rfl, exists_canonical table hf hl hfix ?_⟩
    rcases h with h | h | h
    · exact Or.inl h
    · exact Or.inr (plainEnds_of_separators h fun n hn => mem_sortRanked.mp hn)
    · exact Or.inr (h hfix)

theorem Settles.normalize {table : RankTable} {o : Options} (hf : o.holdFirst = false) (hl : o.holdLast = false)
    {t : Text} (h : Settles table o t) : table.normalize o (table.normalize o t) = table.normalize o t := by
  rcases h.cases hf hl with hu | ⟨-, l, hcanonical, hu, -⟩
  · have hu' := fixed?_fixed hu
    conv_lhs => rw [RankTable.normalize, hu']
  · rw [hu, normalize_canonical table hf hl hcanonical]

/-- A class on its own is in its canonical form. -/
theorem Settles.normalize_token {table : RankTable} {o : Options} (hf : o.holdFirst = false)
    (hl : o.holdLast = false) {n : Text} (h : Settles table o n) (hn : ∀ c ∈ n, isSeparator c = false)
    (hne : n ≠ []) : table.normalize o n = n := by
  have hgap : isGap n = false := by
    rw [Bool.eq_false_iff]
    intro hg
    obtain ⟨c, hc⟩ := List.exists_mem_of_ne_nil n hne
    have := gap_separators hg c hc
    rw [hn c hc] at this; cases this
  cases hfix : fixed? o n with
  | some u => rw [RankTable.normalize, hfix, fixed?_of_not_gap hgap hfix]
  | none =>
    let l : ClassList := ⟨[n], []⟩
    have hfilled : l.Filled :=
      ⟨⟨fun g hg => (by cases hg), fun m hm => (by rwa [List.mem_singleton.mp hm]), fun m hm => (by cases hm),
        fun e => absurd (Option.some.inj e) hne, Or.inr rfl⟩, n, List.mem_cons_self, hne⟩
    have hjoin : l.join = n := by simp [l, join, joinParts]
    have hsplit : split n = l := by
      conv_lhs => rw [← hjoin]
      exact split_join hfilled.wellFormed
    have horder : InOrder table.rank o.unique l.tokens :=
      ⟨List.pairwise_singleton _ _, fun _ => List.pairwise_singleton _ _⟩
    have hends : o.collapse = none ∨ PlainEnds l.tokens := by
      rcases h with h | h | h
      · exact Or.inl h
      · exact Or.inr (plainEnds_of_separators h fun m hm => (by rwa [hsplit]))
      · have := h hfix
        rw [hsplit, sortRanked_of_inOrder horder] at this
        exact Or.inr this
    have hcanonical : Canonical table.rank o l := by
      refine ⟨hfilled, fun m hm => (by rw [List.mem_singleton.mp hm]; exact (of_fixed?_none hfix).2.2),
        horder, fun e he => ?_⟩
      have hplain : PlainEnds l.tokens := hends.resolve_left fun hnone => (by rw [hnone] at he; cases he)
      exact ⟨⟨hfilled, fun g hg => (by cases hg), hplain⟩, fun _ e => hne (Option.some.inj e),
        fun _ e => (by cases e)⟩
    have := normalize_canonical table hf hl hcanonical
    rwa [hjoin] at this

/-- The canonical form of a canonical form is itself: always if gaps are kept, and if they collapse for every text
that has no wide blank or whose sorted classes neither start nor end with one. -/
theorem normalize_stable (table : RankTable) (o : Options) (hf : o.holdFirst = false) (hl : o.holdLast = false)
    (t : Text)
    (hends : o.collapse = none ∨ (∀ c ∈ t, isBlank c = true → isSeparator c = true) ∨
      (fixed? o t = none → PlainEnds (sortRanked o.unique (Ranked.mark table.rank (split t).tokens)).classes)) :
    ∃ u, normalize table.ranker o t = .ok u ∧ normalize table.ranker o u = .ok u := by
  have hsettles : Settles table o t := hends
  exact ⟨_, table.normalize_ranker o t, by rw [table.normalize_ranker, hsettles.normalize hf hl]⟩

/-- A wide blank inside a class is no obstacle, nor are blanks around it and a class that occurs twice. -/
theorem normalize_stable_wide_inside :
    let table : RankTable := ⟨[(['a'], 1), (['b'], 2)], []⟩
    let t : Text := [' ', 'b', '\t', 'x', '\u00a0', 'y', '\n', 'a', ' ', 'b', ' ']
    PlainEnds (sortRanked true (Ranked.mark table.rank (split t).tokens)).classes ∧
      ∃ u, normalize table.ranker {} t = .ok u ∧ normalize table.ranker {} u = .ok u := by
  intro table t
  have hends : PlainEnds (sortRanked true (Ranked.mark table.rank (split t).tokens)).classes := by decide
  exact ⟨hends, normalize_stable table {} rfl rfl t (Or.inr (Or.inr fun _ => hends))⟩

/-- Behind blanks in front the first token is empty. What follows it is trimmed all the same, and what is left of it
has another rank. -/
theorem normalize_unstable_behind_gap :
    let table : RankTable := ⟨[(['a'], 1), (['x'], 2)], []⟩
    let t : Text := [' ', '\u00a0', 'x', ' ', 'a']
    let ns := (sortRanked true (Ranked.mark table.rank (split t).tokens)).classes
    ns.head? = some [] ∧ ns.getLast? = some ['a'] ∧ normalize table.ranker {} t = .ok ['x', ' ', 'a'] ∧
      normalize table.ranker {} ['x', ' ', 'a'] = .ok ['a', ' ', 'x'] :=
  ⟨rfl, rfl, rfl, rfl⟩

end ClassTidy.ClassList
