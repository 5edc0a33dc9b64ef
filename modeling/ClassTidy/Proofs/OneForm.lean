/-
  ClassTidy.Proofs.OneForm — texts with the same classes have one canonical form.

  Where gaps collapse, the sorted classes of a text stand with single spaces between them,
  and one in front and one behind where the text has a gap there (`join_arranged`). If both
  ends are trimmed the gaps at the ends are gone as well, whatever blanks they stand next
  to, so that the canonical form depends on the words of a text alone (`normalize_words`).

  Sorting is stable: words without a rank keep their order (`sortRanked_unknown`). Ranked
  words follow them, each of them once. If no two have the same rank, it does not matter how
  often and in which order they stood in the text (`inOrder_eq`).

  Proved (`normalize_same_words`): texts with the same sequence of words without a rank and
  the same set of ranked words have the same canonical form.
-/
import Mathlib.Data.List.Perm.Lattice
import ClassTidy.Proofs.Canonical

namespace ClassTidy.ClassList

variable {rank : Text → Rank}

/-! ## Words without a rank -/

/-- A name without a rank. -/
def isUnknown (rank : Text → Rank) (n : Text) : Bool := rank n = .unknown

theorem isUnknown_iff {n : Text} : isUnknown rank n = true ↔ rank n = .unknown := decide_eq_true_iff

theorem place_unknown {r : Ranked} (hr : r.rank = .unknown) (he : isEllipsis r.name = false) : place r = (0, 0) := by
  simp [place, he, hr]

theorem place_known {r : Ranked} {n : Int} (hr : r.rank = .known n) (he : isEllipsis r.name = false) :
    place r = (1, n) := by
  simp [place, he, hr]

theorem order_unknown {l : List Ranked} (hl : Ranked.Faithful rank l) (he : ∀ r ∈ l, isEllipsis r.name = false) :
    ((order l).map (·.name)).filter (isUnknown rank) = (l.map (·.name)).filter (isUnknown rank) := by
  rw [List.filter_map, List.filter_map, order, Sorting.filter_sortBy before]
  intro a ha b hb hpa hpb
  have hra : a.rank = .unknown := (hl a ha).trans (isUnknown_iff.mp hpa)
  have hrb : b.rank = .unknown := (hl b hb).trans (isUnknown_iff.mp hpb)
  simp only [before, place_unknown hra (he a ha), place_unknown hrb (he b hb)]
  rfl

/-- Nothing without a rank is dropped. -/
theorem dropRepeats_unknown {l : List Ranked} (hl : Ranked.Faithful rank l) {seen : List Text}
    (hseen : ∀ n ∈ seen, isUnknown rank n = false) (i : Nat) :
    (dropRepeats seen i l).classes.filter (isUnknown rank) = (l.map (·.name)).filter (isUnknown rank) := by
  induction l generalizing seen i with
  | nil => rfl
  | cons r l ih =>
    have hr : r.rank = rank r.name := hl r List.mem_cons_self
    have hl' : Ranked.Faithful rank l := fun x hx => hl x (List.mem_cons_of_mem r hx)
    simp only [dropRepeats, List.map_cons]
    split
    · rename_i hin
      rw [ih hl' hseen, List.filter_cons_of_neg]
      rw [hseen r.name (List.contains_iff_mem.mp hin)]
      exact Bool.false_ne_true
    · rename_i hnew
      -- what is seen from here on has a rank
      have hnext : ∀ n ∈ (if r.isKnown then r.name :: seen else seen), isUnknown rank n = false := by
        intro n hn
        split at hn
        · rename_i hk
          rcases List.mem_cons.mp hn with rfl | hn
          · rw [Bool.eq_false_iff]
            intro hunknown
            exact (isKnown_iff r).mp hk (hr.trans (isUnknown_iff.mp hunknown))
          · exact hseen n hn
        · exact hseen n hn
      rw [List.filter_cons, List.filter_cons, ih hl' hnext]

/-- Words without a rank keep their order, and all of them stay. -/
theorem sortRanked_unknown (unique : Bool) {ns : List Text} (he : ∀ n ∈ ns, isEllipsis n = false) :
    (sortRanked unique (Ranked.mark rank ns)).classes.filter (isUnknown rank) = ns.filter (isUnknown rank) := by
  have hf := Ranked.markFrom_faithful rank 0 ns
  have hnames : (Ranked.markFrom rank 0 ns).map (·.name) = ns := Ranked.markFrom_names rank 0 ns
  have horder := order_unknown hf fun r hr => he r.name (hnames ▸ List.mem_map.mpr ⟨r, hr, rfl⟩)
  rw [hnames] at horder
  cases unique with
  | false => exact horder
  | true => exact (dropRepeats_unknown (order_faithful hf) (fun n hn => absurd hn List.not_mem_nil) 0).trans horder

/-! ## Words in order -/

/-- A name that stands before one without a rank has none. -/
theorem unknown_of_precedes {a b : Text} (h : Precedes rank a b) (ha : isEllipsis a = false) (hb : isEllipsis b = false)
    (hunknown : rank b = .unknown) : rank a = .unknown := by
  cases hr : rank a with
  | unknown => rfl
  | known n =>
    simp only [Precedes, before, place_known (r := ⟨a, 0, rank a⟩) hr ha,
      place_unknown (r := ⟨b, 0, rank b⟩) hunknown hb] at h
    simp at h

/-- Two ranked names of which each may stand before the other have one rank. -/
theorem rank_eq_of_precedes {a b : Text} (hab : Precedes rank a b) (hba : Precedes rank b a) (ha : isEllipsis a = false)
    (hb : isEllipsis b = false) (hra : rank a ≠ .unknown) (hrb : rank b ≠ .unknown) : rank a = rank b := by
  cases hm : rank a with
  | unknown => exact absurd hm hra
  | known m =>
    cases hn : rank b with
    | unknown => exact absurd hn hrb
    | known n =>
      have hpa : place ⟨a, 0, rank a⟩ = (1, m) := place_known hm ha
      have hpb : place ⟨b, 0, rank b⟩ = (1, n) := place_known hn hb
      simp only [Precedes, before, hpa, hpb, Nat.lt_irrefl, decide_false, Bool.false_or, BEq.rfl, Bool.true_and,
        decide_eq_true_eq] at hab hba
      rw [Int.le_antisymm hab hba]

/-- In sorted names those without a rank stand first. -/
theorem unknown_append_known {ns : List Text} (hs : ns.Pairwise (Precedes rank))
    (he : ∀ n ∈ ns, isEllipsis n = false) :
    ns = ns.filter (isUnknown rank) ++ ns.filter fun n => !isUnknown rank n := by
  induction ns with
  | nil => rfl
  | cons a ns ih =>
    obtain ⟨ha, hs⟩ := List.pairwise_cons.mp hs
    have he' : ∀ n ∈ ns, isEllipsis n = false := fun n hn => he n (List.mem_cons_of_mem a hn)
    by_cases hunknown : isUnknown rank a = true
    · rw [List.filter_cons_of_pos hunknown, List.filter_cons_of_neg (by simp [hunknown]),
        List.cons_append, ← ih hs he']
    · -- behind a ranked name all names are ranked
      have hall : ∀ b ∈ a :: ns, isUnknown rank b = false := by
        intro b hb
        rcases List.mem_cons.mp hb with rfl | hb
        · simpa using hunknown
        · rw [Bool.eq_false_iff]
          intro hub
          exact hunknown (isUnknown_iff.mpr (unknown_of_precedes (ha b hb) (he a List.mem_cons_self) (he' b hb)
            (isUnknown_iff.mp hub)))
      rw [List.filter_eq_nil_iff.mpr fun b hb => by simp [hall b hb], List.nil_append,
        List.filter_eq_self.mpr fun b hb => by simp [hall b hb]]

/-- Names that are the same but for the order and the number of those with a rank. -/
structure SameNames (rank : Text → Rank) (ms ns : List Text) : Prop where
  unknown : ms.filter (isUnknown rank) = ns.filter (isUnknown rank)
  known : ∀ n, rank n ≠ .unknown → (n ∈ ms ↔ n ∈ ns)

theorem SameNames.mem_iff {ms ns : List Text} (h : SameNames rank ms ns) (n : Text) : n ∈ ms ↔ n ∈ ns := by
  by_cases hn : rank n = .unknown
  · have hfilter : ∀ ls : List Text, n ∈ ls ↔ n ∈ ls.filter (isUnknown rank) := fun ls => by
      rw [List.mem_filter, isUnknown_iff, and_iff_left hn]
    rw [hfilter ms, hfilter ns, h.unknown]
  · exact h.known n hn

theorem SameNames.trans {ls ms ns : List Text} (h : SameNames rank ls ms) (h' : SameNames rank ms ns) :
    SameNames rank ls ns :=
  ⟨h.unknown.trans h'.unknown, fun n hn => (h.known n hn).trans (h'.known n hn)⟩

theorem SameNames.symm {ms ns : List Text} (h : SameNames rank ms ns) : SameNames rank ns ms :=
  ⟨h.unknown.symm, fun n hn => (h.known n hn).symm⟩

/-- Sorting changes the order and the number of names with a rank only. -/
theorem sameNames_sortRanked (unique : Bool) {ns : List Text} (he : ∀ n ∈ ns, isEllipsis n = false) :
    SameNames rank (sortRanked unique (Ranked.mark rank ns)).classes ns :=
  ⟨sortRanked_unknown unique he, fun _ _ => mem_sortRanked⟩

theorem nodup_known {ns : List Text} (h : NoRepeats rank ns) : (ns.filter fun n => !isUnknown rank n).Nodup := by
  refine (h.filter _).imp_of_mem fun {a b} ha _ hab e => ?_
  have hknown := (List.mem_filter.mp ha).2
  rw [isUnknown_iff.mpr (hab e)] at hknown
  exact absurd hknown (by decide)

/-- Names in order are determined by which they are, if no two of them have the same rank. -/
theorem inOrder_eq {ms ns : List Text} (hms : InOrder rank true ms) (hns : InOrder rank true ns)
    (hsame : SameNames rank ms ns) (he : ∀ n ∈ ns, isEllipsis n = false)
    (hranks : ∀ m ∈ ns, ∀ n ∈ ns, rank m ≠ .unknown → rank m = rank n → m = n) : ms = ns := by
  have he' : ∀ n ∈ ms, isEllipsis n = false := fun n hn => he n ((hsame.mem_iff n).mp hn)
  have hmem : ∀ n, n ∈ ms.filter (fun n => !isUnknown rank n) ↔ n ∈ ns.filter fun n => !isUnknown rank n :=
    fun n => by
    rw [List.mem_filter, List.mem_filter, hsame.mem_iff]
  have hperm : (ms.filter fun n => !isUnknown rank n).Perm (ns.filter fun n => !isUnknown rank n) :=
    (List.perm_ext_iff_of_nodup (nodup_known (hms.single rfl)) (nodup_known (hns.single rfl))).mpr hmem
  have hknown : ∀ {n}, n ∈ ns.filter (fun n => !isUnknown rank n) → n ∈ ns ∧ rank n ≠ .unknown := by
    intro n hn
    obtain ⟨hn, hk⟩ := List.mem_filter.mp hn
    refine ⟨hn, fun hu => ?_⟩
    rw [isUnknown_iff.mpr hu] at hk
    cases hk
  have heq : ms.filter (fun n => !isUnknown rank n) = ns.filter fun n => !isUnknown rank n := by
    refine hperm.eq_of_pairwise (fun a b ha hb hab hba => ?_) (hms.sorted.filter _) (hns.sorted.filter _)
    obtain ⟨ha, hra⟩ := hknown ((hmem a).mp ha)
    obtain ⟨hb, hrb⟩ := hknown hb
    exact hranks a ha b hb hra (rank_eq_of_precedes hab hba (he a ha) (he b hb) hra hrb)
  rw [unknown_append_known hms.sorted he', unknown_append_known hns.sorted he, hsame.unknown, heq]

/-! ## The empty name in front -/

/-- The classes that are left depend on names and ranks alone. -/
theorem dropRepeats_names {l l' : List Ranked} (hl : Ranked.Faithful rank l) (hl' : Ranked.Faithful rank l')
    (h : l.map (·.name) = l'.map (·.name)) (seen : List Text) (i j : Nat) :
    (dropRepeats seen i l).classes = (dropRepeats seen j l').classes := by
  induction l generalizing l' seen i j with
  | nil =>
    obtain rfl : l' = [] := by simpa using h.symm
    rfl
  | cons r l ih =>
    cases l' with
    | nil => cases h
    | cons r' l' =>
      have hname : r.name = r'.name := (List.cons.inj h).1
      have hrest := (List.cons.inj h).2
      have hfl : Ranked.Faithful rank l := fun x hx => hl x (List.mem_cons_of_mem r hx)
      have hfl' : Ranked.Faithful rank l' := fun x hx => hl' x (List.mem_cons_of_mem r' hx)
      have hknown : r.isKnown = r'.isKnown := by
        rw [Ranked.isKnown, Ranked.isKnown, hl r List.mem_cons_self, hl' r' List.mem_cons_self, hname]
      simp only [dropRepeats, hname, hknown]
      split
      · exact ih hfl hfl' hrest _ _ _
      · exact congrArg (List.cons r'.name) (ih hfl hfl' hrest _ _ _)

/-- The order of names does not depend on where they are counted from. -/
theorem order_names (i : Nat) (ns : List Text) :
    (order (Ranked.markFrom rank i ns)).map (·.name) = (order (Ranked.mark rank ns)).map (·.name) := by
  have hsort : ∀ j, (order (Ranked.markFrom rank j ns)).map (·.name) =
      Sorting.sortBy (fun a b => before ⟨a, 0, rank a⟩ ⟨b, 0, rank b⟩) ns := by
    intro j
    have hf := Ranked.markFrom_faithful rank j ns
    have hmap := Sorting.map_sortBy before (fun a b => before ⟨a, 0, rank a⟩ ⟨b, 0, rank b⟩)
      (f := Ranked.name) (l := Ranked.markFrom rank j ns) fun a ha b hb => by
        simp only [before, place, hf a ha, hf b hb]
    rw [Ranked.markFrom_names] at hmap
    exact hmap
  rw [hsort i, Ranked.mark, hsort 0]

/-- The empty name stays in front, and what follows it is sorted by itself. -/
theorem sortRanked_cons_empty (hrank : rank [] = .unknown) (unique : Bool) (ns : List Text) :
    (sortRanked unique (Ranked.mark rank ([] :: ns))).classes =
    [] :: (sortRanked unique (Ranked.mark rank ns)).classes := by
  have hcons : order (Ranked.mark rank ([] :: ns)) = ⟨[], 0, rank []⟩ :: order (Ranked.markFrom rank 1 ns) :=
    order_empty rfl hrank (Ranked.markFrom rank 1 ns)
  cases unique with
  | false =>
    simp only [sortRanked, Bool.false_eq_true, if_false, hcons, List.map_cons, order_names]
  | true =>
    have hunknown : (⟨[], 0, rank []⟩ : Ranked).isKnown = false := by simp [Ranked.isKnown, hrank]
    have hrest := dropRepeats_names (order_faithful (Ranked.markFrom_faithful rank 1 ns))
      (order_faithful (Ranked.markFrom_faithful rank 0 ns)) (order_names 1 ns) [] 1 0
    simp only [sortRanked, if_true, hcons, dropRepeats, List.contains_nil, Bool.false_eq_true, if_false, hunknown]
    exact congrArg (List.cons []) hrest

/-! ## Single spaces -/

theorem joinParts_spaces {ns gs : List Text} (hg : ∀ g ∈ gs, g = [' ']) (hne : ns ≠ [])
    (hcount : gs.length = ns.length ∨ gs.length + 1 = ns.length) :
    joinParts ns gs = Text.join [' '] ns ++ if gs.length = ns.length then [' '] else [] := by
  induction ns generalizing gs with
  | nil => exact absurd rfl hne
  | cons n ns ih =>
    cases gs with
    | nil =>
      obtain rfl : ns = [] := List.eq_nil_of_length_eq_zero (by simpa using hcount)
      simp [joinParts, Text.join]
    | cons g gs =>
      have hspace : g = [' '] := hg g List.mem_cons_self
      cases ns with
      | nil =>
        obtain rfl : gs = [] := List.eq_nil_of_length_eq_zero (by simpa using hcount)
        simp [joinParts, Text.join, hspace]
      | cons m ns =>
        have hrest := ih (fun x hx => hg x (List.mem_cons_of_mem g hx)) (List.cons_ne_nil m ns) (by simpa using hcount)
        rw [joinParts, hrest, Text.join, hspace]
        simp

/-- A list is its words, or the empty token and its words. -/
theorem Filled.tokens_cases {l : ClassList} (h : l.Filled) :
    (l.tokens.head? ≠ some [] ∧ l.tokens.filter (fun n => !n.isEmpty) = l.tokens) ∨
      (l.tokens.head? = some [] ∧ l.tokens = [] :: l.tokens.filter fun n => !n.isEmpty) := by
  have hwords : ∀ ns : List Text, (∀ n ∈ ns, n ≠ []) → ns.filter (fun n => !n.isEmpty) = ns := fun ns hns =>
    List.filter_eq_self.mpr fun n hn => by simpa using hns n hn
  have htail := h.wellFormed.filled
  rcases h.start with ⟨n, ns, htok, hn⟩ | ⟨n, ns, g, gs, rfl, hn⟩
  · rw [htok] at htail ⊢
    exact Or.inl ⟨fun e => hn (Option.some.inj e), hwords _ (List.forall_mem_cons.mpr ⟨hn, htail⟩)⟩
  · have hrest : (n :: ns).filter (fun n => !n.isEmpty) = n :: ns := hwords _ htail
    refine Or.inr ⟨rfl, ?_⟩
    rw [List.filter_cons_of_neg (by simp), hrest]

/-- Sorted words with single spaces between them, and spaces in front and behind where the list has gaps there. -/
theorem join_arranged (hrank : rank [] = .unknown) (unique : Bool) {l : ClassList} (h : l.Filled)
    (hspaces : ∀ g ∈ l.gaps, g = [' ']) :
    (arranged rank unique l).join = (if l.tokens.head? = some [] then [' '] else []) ++
      Text.join [' '] (sortRanked unique (Ranked.mark rank (l.tokens.filter fun n => !n.isEmpty))).classes ++
        (if l.gaps.length = l.tokens.length then [' '] else []) := by
  have hfilled := h.arranged hrank unique
  have hcount := hfilled.wellFormed.count
  have hgaps : ∀ g ∈ (arranged rank unique l).gaps, g = [' '] :=
    fun g hg => hspaces g ((keepGaps_sublist _ _ _).subset hg)
  have hback : (arranged rank unique l).gaps.length = (arranged rank unique l).tokens.length ↔
      l.gaps.length = l.tokens.length := by
    have := arranged_excess rank unique h
    omega
  have htokens : (arranged rank unique l).tokens = (sortRanked unique (Ranked.mark rank l.tokens)).classes := rfl
  rw [join]
  rcases h.tokens_cases with ⟨hhead, hwords⟩ | ⟨hhead, hwords⟩
  · obtain ⟨n, hn, -⟩ := hfilled.word
    rw [joinParts_spaces hgaps (List.ne_nil_of_mem hn) hcount, if_neg hhead, hwords, htokens]
    simp only [← htokens, hback, List.nil_append]
  · -- the space in front stands between the empty token and the first word
    have hsorted := sortRanked_cons_empty hrank unique (l.tokens.filter fun n => !n.isEmpty)
    rw [← hwords, ← htokens] at hsorted
    generalize hms : (sortRanked unique (Ranked.mark rank (l.tokens.filter fun n => !n.isEmpty))).classes =
      ms at hsorted ⊢
    obtain ⟨g, gs, hgs⟩ := List.exists_cons_of_ne_nil (hfilled.wellFormed.front (by rw [hsorted]; rfl))
    have hne : ms ≠ [] := by
      obtain ⟨n, hn, hnne⟩ := hfilled.word
      rw [hsorted] at hn
      exact List.ne_nil_of_mem ((List.mem_cons.mp hn).resolve_left hnne)
    rw [hsorted, hgs] at hcount hback
    rw [hgs] at hgaps
    simp only [List.length_cons, Nat.add_right_cancel_iff] at hcount hback
    rw [hsorted, hgs, joinParts, joinParts_spaces (fun x hx => hgaps x (List.mem_cons_of_mem g hx)) hne hcount,
      if_pos hhead,
      hgaps g List.mem_cons_self]
    simp only [hback, List.nil_append, List.append_assoc]

/-! ## Trimmed ends -/

theorem replaceLeading_nil (t : Text) : Text.replaceLeading [] t = Text.dropLeading t := by
  rcases replaceLeading_split [] t with ⟨hnone, h⟩ | ⟨-, h⟩
  · rw [h, Text.dropLeading]
    conv_lhs => rw [← List.takeWhile_append_dropWhile (p := Text.isBlank) (l := t), hnone, List.nil_append]
  · rw [h, List.nil_append, Text.dropLeading]

theorem replaceTrailing_nil (t : Text) : Text.replaceTrailing [] t = Text.dropTrailing t := by
  rw [replaceTrailing_eq, List.reverse_nil, replaceLeading_nil]
  rfl

/-- Blanks around a text are trimmed off with its own. -/
theorem trim_around {a b : Text} (ha : ∀ c ∈ a, Text.isBlank c = true) (hb : ∀ c ∈ b, Text.isBlank c = true)
    (t : Text) :
    Text.trim (a ++ t ++ b) = Text.trim t := by
  have hblank : Text.dropLeading b = [] := List.dropWhile_eq_nil_iff.mpr hb
  rw [List.append_assoc, Text.trim, Text.dropLeading, List.dropWhile_append_of_pos ha, List.dropWhile_append]
  split
  · rename_i hnone
    rw [← Text.dropLeading, hblank, Text.trim, Text.dropLeading, List.isEmpty_iff.mp hnone]
  · rw [dropTrailing_blanks hb]
    rfl

/-- With both ends trimmed, the canonical form is the sorted words with single spaces between them, trimmed. -/
theorem normalize_words (table : RankTable) {o : Options} (hf : o.holdFirst = false) (hl : o.holdLast = false)
    (hc : o.collapse = some ⟨true, true⟩) {t : Text} (hfix : fixed? o t = none) :
    table.normalize o t = Text.trim
      (Text.join [' '] (sortRanked o.unique (Ranked.mark table.rank (words t))).classes) := by
  obtain ⟨hne, hgap, -⟩ := of_fixed?_none hfix
  have hfilled := (filled_split hne hgap).collapse
  have hspaces : ∀ g ∈ (split t).collapse.gaps, g = [' '] := fun g hg => by
    obtain ⟨-, -, rfl⟩ := List.mem_map.mp hg
    rfl
  have hblank : ∀ (p : Prop) [Decidable p], ∀ c ∈ (if p then [' '] else [] : Text), Text.isBlank c = true := by
    intro p _ c hin
    split at hin
    · rw [List.mem_singleton.mp hin]; decide
    · cases hin
  rw [normalize_eq table hf hl hfix, hc]
  simp only [if_true, replaceLeading_nil, replaceTrailing_nil]
  rw [← Text.trim, join_arranged table.rank_nil o.unique hfilled hspaces, trim_around (hblank _) (hblank _)]
  rfl

/-! ## One form -/

/-- Two texts that have the same words but for the order and the number of those with a rank, no ellipsis among them and
no two of one rank, are put into one form: their words in order, with single spaces between them, trimmed. -/
theorem normalize_same_words (table : RankTable) (t u : Text) (hmark : hasMarker t = false)
    (hwords : words t ≠ []) (hellipsis : ∀ n ∈ words t, isEllipsis n = false)
    (hunknown : (words u).filter (isUnknown table.rank) = (words t).filter (isUnknown table.rank))
    (hknown : ∀ n, table.rank n ≠ .unknown → (n ∈ words u ↔ n ∈ words t))
    (hranks : ∀ m ∈ words t, ∀ n ∈ words t, table.rank m ≠ .unknown →
      table.rank m = table.rank n → m = n) :
    ∃ ns, InOrder table.rank true ns ∧ (∀ n, n ∈ ns ↔ n ∈ words t) ∧
      ns.filter (isUnknown table.rank) = (words t).filter (isUnknown table.rank) ∧
      normalize table.ranker {} t = .ok (Text.trim (Text.join [' '] ns)) ∧
      normalize table.ranker {} u = .ok (Text.trim (Text.join [' '] ns)) := by
  have hsame : SameNames table.rank (words u) (words t) := ⟨hunknown, hknown⟩
  have hmarku : hasMarker u = false := by
    rw [hasMarker_eq_false, unmarked_words] at hmark ⊢
    exact fun n hn => hmark n ((hsame.mem_iff n).mp hn)
  have hwordsu : words u ≠ [] := by
    obtain ⟨n, hn⟩ := List.exists_mem_of_ne_nil _ hwords
    exact List.ne_nil_of_mem ((hsame.mem_iff n).mpr hn)
  have hellipsisu : ∀ n ∈ words u, isEllipsis n = false := fun n hn => hellipsis n ((hsame.mem_iff n).mp hn)
  have hsort : ∀ ns, (∀ n ∈ ns, isEllipsis n = false) →
      SameNames table.rank (sortRanked true (Ranked.mark table.rank ns)).classes ns :=
        fun _ => sameNames_sortRanked true
  -- the sorted words of both texts are in order and the same words
  have hone : (sortRanked true (Ranked.mark table.rank (words u))).classes =
      (sortRanked true (Ranked.mark table.rank (words t))).classes := by
    refine inOrder_eq (sortRanked_inOrder true _) (sortRanked_inOrder true _)
      (((hsort _ hellipsisu).trans hsame).trans (hsort _ hellipsis).symm)
      (fun n hn => hellipsis n (mem_sortRanked.mp hn)) fun m hm n hn => ?_
    exact hranks m (mem_sortRanked.mp hm) n (mem_sortRanked.mp hn)
  refine ⟨_, sortRanked_inOrder true (words t), fun n => mem_sortRanked, (hsort _ hellipsis).unknown, ?_, ?_⟩
  · rw [table.normalize_ranker, normalize_words table rfl rfl rfl (fixed?_of_words hwords hmark {})]
  · rw [table.normalize_ranker, normalize_words table rfl rfl rfl (fixed?_of_words hwordsu hmarku {}), ← hone]

/-- Ranked words before, between and behind those without a rank, one of them twice, and gaps of every kind. -/
theorem normalize_same_words_mixed :
    let table : RankTable := ⟨[(['a'], 1), (['b'], 2)], []⟩
    let t : Text := [' ', 'b', ' ', 'x', ' ', ' ', 'a', '\t', 'b', ' ', 'y']
    let u : Text := ['x', '\n', 'a', ' ', 'y', ' ', 'b', ' ', 'a', '\n', ' ']
    normalize table.ranker {} t = .ok ['x', ' ', 'y', ' ', 'a', ' ', 'b'] ∧
      normalize table.ranker {} u = normalize table.ranker {} t := by
  intro table t u
  have ht : words t = [['b'], ['x'], ['a'], ['b'], ['y']] := by decide
  have hu : words u = [['x'], ['a'], ['y'], ['b'], ['a']] := by decide
  have hknown : ∀ n, table.rank n ≠ .unknown → (n ∈ words u ↔ n ∈ words t) := by
    intro n _
    simp only [ht, hu, List.mem_cons, List.not_mem_nil, or_false]
    tauto
  obtain ⟨ns, -, -, -, hfirst, hsecond⟩ := normalize_same_words table t u (by decide) (by rw [ht]; simp)
    (by rw [ht]; decide) (by rw [ht, hu]; decide) hknown (by rw [ht]; decide)
  exact ⟨by rw [table.normalize_ranker]; decide, hsecond.trans hfirst.symm⟩

end ClassTidy.ClassList
