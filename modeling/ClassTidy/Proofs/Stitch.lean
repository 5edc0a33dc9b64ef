/-
  ClassTidy.Proofs.Stitch — a text whose gaps are kept.

  Gaps stay where they are while classes move, and the first and the last class may be held
  aside. What is held aside and what is sorted are told of the lists that splitting gives
  (`Options.front`, `Options.middle`, `Options.back`): together they are the list
  (`Options.parts`), and the held text is made of them (`hold_eq`). The new text is what was
  held aside with the stitched middle in between (`normalize_stitched`).

  Proved (`normalize_stitch`): whatever a ranker answers, no two classes run together and
  none is cut, so the classes of the new text are those held aside and the sorted ones in
  between. If the last class is not held aside and the empty one has no rank, the new text
  splits into these very classes, and its gaps are the old ones in order without those in
  front of a dropped class.
-/
import ClassTidy.Proofs.KeptWords
import ClassTidy.Proofs.SortedClasses

namespace ClassTidy.ClassList

/-! ## What is held aside -/

namespace Options

variable {α : Type} (o : Options) (l : List α)

/-- The first item, if it is held aside. -/
def front : List α := if o.holdFirst then l.take 1 else []

/-- What is left behind the first item. -/
def rest : List α := if o.holdFirst then l.drop 1 else l

/-- The items that are not held aside. -/
def middle : List α := if o.holdLast then (o.rest l).dropLast else o.rest l

/-- The last item that is left, if it is held aside. -/
def back : List α := if o.holdLast then (o.rest l).getLast?.toList else []

theorem parts : o.front l ++ o.middle l ++ o.back l = l := by
  have hrest : o.middle l ++ o.back l = o.rest l := by
    unfold middle back
    cases o.holdLast with
    | false => simp
    | true =>
      rcases List.eq_nil_or_concat' (o.rest l) with e | ⟨r, a, e⟩ <;> simp [e]
  rw [List.append_assoc, hrest]
  unfold front rest
  cases o.holdFirst with
  | false => rfl
  | true => exact List.take_append_drop 1 l

theorem front_length : (o.front l).length ≤ 1 := by
  unfold front
  split <;> simp

theorem back_length : (o.back l).length ≤ 1 := by
  unfold back
  cases o.holdLast <;> cases (o.rest l).getLast? <;> simp

theorem front_count : (o.front l).length = min o.holdFirst.toNat l.length := by
  unfold front
  cases o.holdFirst <;> simp

theorem back_count : (o.back l).length = min o.holdLast.toNat (l.length - o.holdFirst.toNat) := by
  have hrest : (o.rest l).length = l.length - o.holdFirst.toNat := by
    unfold rest
    cases o.holdFirst <;> simp
  rw [← hrest]
  unfold back
  cases o.holdLast with
  | false => simp
  | true => rcases List.eq_nil_or_concat' (o.rest l) with e | ⟨r, a, e⟩ <;> simp [e]

theorem parts_count : (o.front l).length + (o.middle l).length + (o.back l).length = l.length := by
  rw [← List.length_append, ← List.length_append, o.parts]

theorem front_map {β : Type} (f : α → β) : o.front (l.map f) = (o.front l).map f := by
  unfold front
  split <;> simp

theorem back_map {β : Type} (f : α → β) : o.back (l.map f) = (o.back l).map f := by
  have hrest : o.rest (l.map f) = (o.rest l).map f := by
    unfold rest
    split <;> simp
  unfold back
  rw [hrest, List.getLast?_map]
  cases o.holdLast <;> cases (o.rest l).getLast? <;> rfl

variable {o l} {a : α}

theorem mem_of_front (h : a ∈ o.front l) : a ∈ l := by
  rw [← o.parts l]
  simp [h]

theorem mem_of_middle (h : a ∈ o.middle l) : a ∈ l := by
  rw [← o.parts l]
  simp [h]

theorem mem_of_back (h : a ∈ o.back l) : a ∈ l := by
  rw [← o.parts l]
  simp [h]

theorem mem_tail_of_middle (h : a ∈ (o.middle l).tail) : a ∈ l.tail := by
  have hrest : a ∈ (o.rest l).tail := by
    unfold middle at h
    split at h
    · rw [List.tail_dropLast] at h
      exact List.dropLast_subset _ h
    · exact h
  unfold rest at hrest
  split at hrest
  · rw [List.drop_one] at hrest
    exact List.mem_of_mem_tail hrest
  · exact hrest

theorem mem_tail_of_back (hf : o.holdFirst = true) (h : a ∈ o.back l) : a ∈ l.tail := by
  unfold back rest at h
  rw [if_pos hf, List.drop_one] at h
  split at h
  · exact List.mem_of_getLast? (Option.mem_toList.mp h)
  · cases h

theorem head?_of_front (h : a ∈ o.front l) : l.head? = some a := by
  unfold front at h
  split at h
  · cases l with
    | nil => cases h
    | cons b l => exact congrArg some (List.mem_singleton.mp h).symm
  · cases h

theorem getLast?_of_back (h : a ∈ o.back l) : l.getLast? = some a := by
  unfold back at h
  split at h
  · have hlast := Option.mem_def.mp (Option.mem_toList.mp h)
    unfold rest at hlast
    split at hlast
    · rw [List.getLast?_drop] at hlast
      split at hlast
      · cases hlast
      · exact hlast
    · exact hlast
  · cases h

theorem held_of_front (h : o.front l ≠ []) : o.holdFirst = true := by
  by_contra hf
  exact h (by simp [front, hf])

end Options

variable {o : Options} {t : Text}

/-- The tokens and gaps that a text is taken apart to. -/
def Options.cut (o : Options) (t : Text) : ClassList := if o.collapse.isSome then (split t).collapse else split t

@[simp] theorem Options.cut_tokens (o : Options) (t : Text) : (o.cut t).tokens = (split t).tokens := by
  unfold Options.cut
  split <;> rfl

theorem Options.cut_alternating (o : Options) (t : Text) : (o.cut t).Alternating := by
  unfold Options.cut
  split
  · exact (split_wellFormed t).alternating.collapse
  · exact (split_wellFormed t).alternating

/-- A gap is held aside with a token only. -/
theorem Alternating.front_gap {l : ClassList} (h : l.Alternating) (hnone : o.front l.tokens = []) :
    o.front l.gaps = [] := by
  have hcount := h.count
  have hf := o.holdFirst.toNat_le
  rw [← List.length_eq_zero_iff, o.front_count] at hnone ⊢
  omega

theorem Alternating.back_gap {l : ClassList} (h : l.Alternating) (hnone : o.back l.tokens = []) :
    o.back l.gaps = [] := by
  have hcount := h.count
  have hl := o.holdLast.toNat_le
  rw [← List.length_eq_zero_iff, o.back_count] at hnone ⊢
  omega

/-- A first token without a gap is all there is. -/
theorem Alternating.front_bare {l : ClassList} (h : l.Alternating) (hgap : o.front l.gaps = [])
    (htoken : o.front l.tokens ≠ []) :
    o.middle l.tokens = [] ∧ o.back l.gaps = [] ∧ o.back l.tokens = [] := by
  have hcount := h.count
  have hf := o.holdFirst.toNat_le
  have hparts := o.parts_count l.tokens
  rw [Ne, ← List.length_eq_zero_iff, o.front_count] at htoken
  rw [← List.length_eq_zero_iff, o.front_count] at hgap
  simp only [o.front_count, o.back_count] at hparts
  simp only [← List.length_eq_zero_iff, o.back_count]
  omega

/-- A last token without a gap has nothing in front but what is held aside. -/
theorem Alternating.back_bare {l : ClassList} (h : l.Alternating) (hgap : o.back l.gaps = [])
    (htoken : o.back l.tokens ≠ []) :
    o.middle l.tokens = [] := by
  have hcount := h.count
  have hf := o.holdFirst.toNat_le
  have hl := o.holdLast.toNat_le
  have hparts := o.parts_count l.tokens
  rw [Ne, ← List.length_eq_zero_iff, o.back_count] at htoken
  rw [← List.length_eq_zero_iff, o.back_count] at hgap
  simp only [o.front_count, o.back_count] at hparts
  rw [← List.length_eq_zero_iff]
  omega

/-- What is held aside are the first token with its gap and the last gap with its token. -/
theorem hold_parts (o : Options) (t : Text) :
    hold o t = ⟨(o.front (split t).tokens).flatten ++ (o.front (o.cut t).gaps).flatten,
      ⟨o.middle (split t).tokens, o.middle (o.cut t).gaps⟩,
      (o.back (o.cut t).gaps).flatten ++ (o.back (split t).tokens).flatten⟩ := by
  have hfirst : ∀ l : List Text, (l.take 1).flatten = l.headD [] := fun l => by cases l <;> simp
  have hlast : ∀ l : List Text, l.getLast?.toList.flatten = l.getLastD [] := fun l => by
    rw [List.getLastD_eq_getLast?]
    cases l.getLast? <;> simp
  rw [← o.cut_tokens t]
  unfold hold Options.front Options.middle Options.back Options.rest
  rw [← Options.cut]
  generalize o.cut t = l
  cases o.holdFirst <;> cases o.holdLast <;> simp [holdFirst, holdLast, hfirst, hlast]

theorem hold_eq (hc : o.collapse = none) (t : Text) :
    hold o t = ⟨(o.front (split t).tokens).flatten ++ (o.front (split t).gaps).flatten,
      ⟨o.middle (split t).tokens, o.middle (split t).gaps⟩,
      (o.back (split t).gaps).flatten ++ (o.back (split t).tokens).flatten⟩ := by
  have hcut : o.cut t = split t := by simp [Options.cut, hc]
  rw [hold_parts, hcut]

theorem hold_middle (hc : o.collapse = none) (t : Text) :
    (hold o t).middle = ⟨o.middle (split t).tokens, o.middle (split t).gaps⟩ := by
  rw [hold_eq hc]

/-- At most one class has that one word. -/
theorem words_single {ns : List Text} (hlen : ns.length ≤ 1) (hn : ∀ n ∈ ns, ∀ c ∈ n, isSeparator c = false) :
    words ns.flatten = ns.filter fun n => !n.isEmpty := by
  rcases ns with _ | ⟨n, _ | ⟨m, ns⟩⟩
  · rfl
  · rw [List.flatten_singleton, words_token (hn n List.mem_cons_self)]
  · simp at hlen

theorem flatten_gaps {gs : List Text} (h : ∀ g ∈ gs, isGap g = true) :
    ∀ c ∈ gs.flatten, isSeparator c = true := by
  intro c hc
  obtain ⟨g, hg, hcg⟩ := List.mem_flatten.mp hc
  exact gap_separators (h g hg) c hcg

theorem words_hold (hc : o.collapse = none) (t : Text) :
    words (hold o t).front = (o.front (split t).tokens).filter (fun n => !n.isEmpty) ∧
      words (hold o t).back = (o.back (split t).tokens).filter fun n => !n.isEmpty := by
  have hwell := split_wellFormed t
  rw [hold_eq hc]
  constructor
  · rw [words_append_separators (flatten_gaps fun g hg => hwell.gaps g (Options.mem_of_front hg))]
    exact words_single (o.front_length _) fun n hn => hwell.tokens n (Options.mem_of_front hn)
  · rw [words_gap_append (flatten_gaps fun g hg => hwell.gaps g (Options.mem_of_back hg))]
    exact words_single (o.back_length _) fun n hn => hwell.tokens n (Options.mem_of_back hn)

/-! ## The new text -/

/-- The gaps that stay are those that no dropped place stands behind. -/
theorem keepGaps_eq (removed : List Nat) (i : Nat) (gs : List Text) :
    keepGaps removed (i + 1) gs = ((gs.zipIdx i).filter fun x => !removed.contains (x.2 + 1)).map (·.1) := by
  induction gs generalizing i with
  | nil => rfl
  | cons g gs ih =>
    simp only [keepGaps, List.zipIdx_cons, List.filter_cons, ih]
    cases removed.contains (i + 1) <;> simp

theorem split_nil : split [] = ⟨[], []⟩ := rfl

theorem stitched_nil (unique : Bool) (gs : List Text) : stitched unique [] gs = ⟨[], gs⟩ := by
  cases unique <;> exact congrArg (ClassList.mk []) (keepGaps_nil 1 gs)

/-- No two sorted classes run together. -/
theorem Alternating.words_stitched (unique : Bool) {l : ClassList} (h : l.Alternating) {tokens : List Ranked}
    (hnames : tokens.map (·.name) = l.tokens) :
    words (stitched unique tokens l.gaps).join = (stitched unique tokens l.gaps).tokens.filter fun n => !n.isEmpty := by
  have hlen : tokens.length = l.tokens.length := by rw [← hnames, List.length_map]
  have hcount := h.count
  have hexcess := stitched_excess unique tokens l.gaps (by omega)
  refine words_joinParts (fun g hg => h.gaps g ((keepGaps_sublist _ _ _).subset hg)) (fun n hn => ?_) (by omega)
  exact h.tokens n (hnames ▸ mem_sorted.mp hn)

theorem normalize_stitched {ranker : Ranker} (hc : o.collapse = none) (hgap : isGap t = false)
    (hmark : hasMarker t = false) {tokens : List Ranked}
    (htokens : Ranked.ask ranker (o.middle (split t).tokens) = .ok tokens)
    (hnames : tokens.map (·.name) = o.middle (split t).tokens) :
    normalize ranker o t =
      .ok ((hold o t).front ++ (stitched o.unique tokens (o.middle (split t).gaps)).join ++ (hold o t).back) := by
  have hmiddle := hold_middle hc t
  cases t with
  | nil =>
    -- nothing is held aside and nothing is sorted
    have hfront : o.front ([] : List Text) = [] := List.eq_nil_of_subset_nil fun _ => Options.mem_of_front
    have hmid : o.middle ([] : List Text) = [] := List.eq_nil_of_subset_nil fun _ => Options.mem_of_middle
    have hback : o.back ([] : List Text) = [] := List.eq_nil_of_subset_nil fun _ => Options.mem_of_back
    rw [split_nil, hmid, List.map_eq_nil_iff] at hnames
    rw [hold_eq hc, split_nil, hnames, hmid, hfront, hback, stitched_nil]
    rfl
  | cons c t =>
    have hfixed : fixed? o (c :: t) = none := by simp [fixed?, hgap, hmark]
    rw [normalize, hfixed, hmiddle, htokens]
    simp only [Except.map, arrange, assemble, hc, hmiddle]
    rfl

/-- Sorting what stands behind a first class and its gap keeps the list well formed. -/
theorem WellFormed.stitched_behind (unique : Bool) {n g : Text} {ns gs : List Text}
    (h : WellFormed ⟨n :: ns, g :: gs⟩) {tokens : List Ranked} (hnames : tokens.map (·.name) = ns) :
    WellFormed ⟨n :: (stitched unique tokens gs).tokens, g :: (stitched unique tokens gs).gaps⟩ := by
  have hmem : ∀ m ∈ (stitched unique tokens gs).tokens, m ∈ ns := fun m hm => hnames ▸ mem_sorted.mp hm
  have hlen : tokens.length = ns.length := by rw [← hnames, List.length_map]
  have hcount := h.count
  simp only [List.length_cons] at hcount
  have hexcess := stitched_excess unique tokens gs (by omega)
  refine ⟨fun x hx => ?_, fun m hm => ?_, fun m hm => h.filled m (hmem m hm), fun _ => List.cons_ne_nil _ _, ?_⟩
  · exact h.gaps x (List.cons_subset_cons g (keepGaps_sublist _ _ _).subset hx)
  · exact h.tokens m (List.cons_subset_cons n hmem hm)
  · simp only [List.length_cons]
    omega

/-- A text of which the first class and its gap are held aside splits into these and what is stitched behind them. -/
theorem WellFormed.split_behind (unique : Bool) {l : ClassList} (h : l.WellFormed) {tokens : List Ranked}
    (hnames : tokens.map (·.name) = l.tokens.drop 1) :
    split ((l.tokens.take 1).flatten ++ (l.gaps.take 1).flatten ++ (stitched unique tokens (l.gaps.drop 1)).join) =
      ⟨l.tokens.take 1 ++ (stitched unique tokens (l.gaps.drop 1)).tokens,
        l.gaps.take 1 ++ (stitched unique tokens (l.gaps.drop 1)).gaps⟩ := by
  cases hgaps : l.gaps with
  | nil =>
    -- the text is held aside as a whole
    have hwhole : l.tokens.drop 1 = [] ∧ l.tokens.take 1 = l.tokens ∧ l.tokens.flatten = l.join := by
      rcases h.alternating.of_gaps_nil hgaps with rfl | ⟨n, rfl⟩ <;> exact ⟨rfl, rfl, rfl⟩
    obtain ⟨hdrop, htake, hjoin⟩ := hwhole
    have hl : (⟨l.tokens, []⟩ : ClassList) = l := by rw [← hgaps]
    rw [hdrop, List.map_eq_nil_iff] at hnames
    simp only [hnames, htake, List.take_nil, List.drop_nil, stitched_nil, List.append_nil, List.flatten_nil, hl, hjoin]
    exact (List.append_nil l.join).symm ▸ split_join h
  | cons g gs =>
    obtain ⟨n, ns, hn⟩ := List.exists_cons_of_ne_nil (l := l.tokens) fun e => by simpa [hgaps, e] using h.count
    obtain ⟨names, gaps⟩ := l
    cases hgaps
    cases hn
    simpa [join, joinParts] using split_join (h.stitched_behind unique hnames)

/-- If the last class is not held aside, the new text splits into the classes and gaps it was stitched from. -/
theorem split_stitched (hc : o.collapse = none) (hlast : o.holdLast = false) (hgap : isGap t = false)
    {tokens : List Ranked} (hnames : tokens.map (·.name) = o.middle (split t).tokens)
    (hempty : ∀ x ∈ tokens, x.name = [] → x.rank = .unknown) :
    split ((hold o t).front ++ (stitched o.unique tokens (o.middle (split t).gaps)).join ++ (hold o t).back) =
      ⟨o.front (split t).tokens ++ (stitched o.unique tokens (o.middle (split t).gaps)).tokens,
        o.front (split t).gaps ++ (stitched o.unique tokens (o.middle (split t).gaps)).gaps⟩ := by
  have hwell := split_wellFormed t
  rw [hold_eq hc]
  simp only [Options.front, Options.middle, Options.back, Options.rest, hlast] at hnames ⊢
  cases hfirst : o.holdFirst with
  | false =>
    simp only [hfirst, Bool.false_eq_true, if_false] at hnames
    simp only [Bool.false_eq_true, if_false, List.flatten_nil, List.nil_append, List.append_nil]
    refine split_join ?_
    by_cases hne : t = []
    · subst hne
      rw [split_nil, List.map_eq_nil_iff] at hnames
      rw [hnames, split_nil, stitched_nil]
      exact hwell
    · exact ((filled_split hne hgap).stitched o.unique hnames hempty).wellFormed
  | true =>
    simp only [hfirst, Bool.false_eq_true, if_false, if_true] at hnames
    simp only [Bool.false_eq_true, if_false, if_true, List.flatten_nil, List.append_nil]
    exact hwell.split_behind o.unique hnames

/-- If gaps are kept, a text that is neither a gap nor a template has a canonical form for every ranker that answers
for the classes to be sorted. Its classes are the first one if that is held aside, the sorted ones, and the last one
if that is held aside: none of them is cut, and no two run together. If the last one is not held aside and the empty
class gets no rank, its gaps are the old ones in order, without gap `k - 1` of those between the sorted classes for
every dropped place `k`. -/
theorem normalize_stitch (ranker : Ranker) (o : Options) (t : Text) (hc : o.collapse = none) (hgap : isGap t = false)
    (hmark : hasMarker t = false) (h : ranker.Answers (o.middle (split t).tokens)) :
    ∃ tokens s u, Ranked.ask ranker (o.middle (split t).tokens) = .ok tokens ∧
      sort ranker o.unique (o.middle (split t).tokens) = .ok s ∧ normalize ranker o t = .ok u ∧
      words u = (o.front (split t).tokens ++ s.classes ++ o.back (split t).tokens).filter (fun n => !n.isEmpty) ∧
      (o.holdLast = false → (∀ x ∈ tokens, x.name = [] → x.rank = .unknown) →
        (split u).tokens = o.front (split t).tokens ++ s.classes ∧
        (split u).gaps = o.front (split t).gaps ++
          ((o.middle (split t).gaps).zipIdx.filter fun x => !s.removed.contains (x.2 + 1)).map (·.1)) := by
  obtain ⟨tokens, htokens, hpairs⟩ := h.ask
  refine ⟨tokens, sortRanked o.unique tokens, _, htokens, by rw [sort, htokens]; rfl,
    normalize_stitched hc hgap hmark htokens hpairs.name, ?_, fun hlast hempty => ?_⟩
  · have hsound := hold_sound o t
    have hmiddle := hold_middle hc t
    have halternating := hsound.alternating
    rw [hmiddle] at halternating
    have hparted := hsound.parted (m := (stitched o.unique tokens (o.middle (split t).gaps)).join) fun hnil => by
      rw [hmiddle] at hnil
      rw [List.map_eq_nil_iff.mp (hpairs.name.trans hnil), stitched_nil]
      rfl
    rw [hparted.words_append, (words_hold hc t).1, (words_hold hc t).2,
      halternating.words_stitched o.unique hpairs.name,
      List.filter_append, List.filter_append]
    rfl
  · rw [split_stitched hc hlast hgap hpairs.name hempty, ← keepGaps_eq]
    exact ⟨rfl, rfl⟩

/-- A gap in front, a repeat and a class held aside: the repeat goes with the gap before it, and the other gaps stay. -/
theorem normalize_stitch_repeat :
    let ranker : Ranker := fun _ => [.int 2, .int 1, .int 2, .null]
    let o : Options := { holdFirst := true, collapse := none }
    let t : Text := " b a\tb\nx ".toList
    isGap t = false ∧ hasMarker t = false ∧ ranker.Answers (o.middle (split t).tokens) ∧
      ∃ u, normalize ranker o t = .ok u ∧ words u = [['x'], ['a'], ['b']] ∧
        (split u).gaps = [[' '], [' '], ['\t'], [' ']] := by
  intro ranker o t
  have hanswers : ranker.Answers (o.middle (split t).tokens) := ⟨by decide, by
    intro v hv
    simp only [ranker, List.mem_cons, List.not_mem_nil, or_false] at hv
    rcases hv with rfl | rfl | rfl | rfl <;> exact ⟨_, rfl⟩⟩
  obtain ⟨tokens, s, u, htokens, hs, hu, hwords, hgaps⟩ :=
    normalize_stitch ranker o t rfl (by decide) (by decide) hanswers
  have hsort : sort ranker true (o.middle (split t).tokens) = .ok ⟨[['x'], ['a'], ['b']], [3]⟩ := by decide
  obtain rfl := Except.ok.inj (hs.symm.trans hsort)
  have hask : Ranked.ask ranker (o.middle (split t).tokens) =
      .ok [⟨['b'], 0, .known 2⟩, ⟨['a'], 1, .known 1⟩, ⟨['b'], 2, .known 2⟩,
        ⟨['x'], 3, .unknown⟩] := by decide
  obtain rfl := Except.ok.inj (htokens.symm.trans hask)
  refine ⟨by decide, by decide, hanswers, u, hu, ?_, ?_⟩
  · rw [hwords]
    decide
  · rw [(hgaps rfl (by decide)).2]
    decide

end ClassTidy.ClassList
