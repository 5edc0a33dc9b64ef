/-
  ClassTidy.Proofs.Order — classes put in order, and the gaps that go with them.

  Where the rank of a class depends on its name alone, the order is one of names:
  `Precedes rank a b`. Sorted names are in order (`InOrder`): no name precedes one that
  stands before it, and with `unique` no ranked name occurs twice. Names in order are left
  alone by sorting, and nothing is dropped from them.

  The empty name stands for blanks in front of a class string. It has no rank and stands
  first, so sorting leaves it there (`sortRanked_empty`). A dropped name takes the gap in
  front of it along, so a list keeps as many gaps more or less than names as it had
  (`sortRanked_count`).
-/
import ClassTidy.Proofs.Sorting
import ClassTidy.Service

namespace ClassTidy

/-! ## Asking a table -/

theorem Rank.ofValue_toValue (r : Rank) : Rank.ofValue r.toValue = .ok r := by cases r <;> rfl

theorem Ranked.pair_markFrom (rank : Text → Rank) (i : Nat) (ns : List Text) :
    Ranked.pair i ns (ns.map fun n => (rank n).toValue) = .ok (Ranked.markFrom rank i ns) := by
  induction ns generalizing i with
  | nil => rfl
  | cons n ns ih =>
    simp only [List.map_cons, Ranked.pair, Rank.ofValue_toValue, ih, Ranked.markFrom]
    rfl

/-- A table answers every list of classes. -/
theorem RankTable.ask_ranker (table : RankTable) (ns : List Text) :
    Ranked.ask table.ranker ns = .ok (Ranked.mark table.rank ns) := by
  simp only [Ranked.ask, RankTable.ranker, List.length_map, if_true, Ranked.pair_markFrom, Ranked.mark]

theorem RankTable.normalize_ranker (table : RankTable) (o : ClassList.Options) (t : Text) :
    ClassList.normalize table.ranker o t = .ok (table.normalize o t) := by
  rw [ClassList.normalize, RankTable.normalize, RankTable.ask_ranker]
  cases ClassList.fixed? o t <;> rfl

theorem RankTable.rank_nil (table : RankTable) : table.rank [] = .unknown := rfl

theorem Ranked.markFrom_names (rank : Text → Rank) (i : Nat) (ns : List Text) :
    (Ranked.markFrom rank i ns).map (·.name) = ns := by
  induction ns generalizing i with
  | nil => rfl
  | cons n ns ih => simp only [Ranked.markFrom, List.map_cons, ih]

@[simp] theorem Ranked.mark_names (rank : Text → Rank) (ns : List Text) : (Ranked.mark rank ns).map (·.name) = ns :=
  Ranked.markFrom_names rank 0 ns

/-- Every class has the rank of its name. -/
def Ranked.Faithful (rank : Text → Rank) (l : List Ranked) : Prop := ∀ r ∈ l, r.rank = rank r.name

theorem Ranked.markFrom_faithful (rank : Text → Rank) (i : Nat) (ns : List Text) :
    Ranked.Faithful rank (Ranked.markFrom rank i ns) := by
  induction ns generalizing i with
  | nil => intro r hr; cases hr
  | cons n ns ih =>
    intro r hr
    rcases List.mem_cons.mp hr with rfl | hr
    · rfl
    · exact ih (i + 1) r hr

namespace ClassList

/-! ## The order -/

theorem before_total (a b : Ranked) : before a b = true ∨ before b a = true := by
  simp only [before, Bool.or_eq_true, Bool.and_eq_true, decide_eq_true_eq, beq_iff_eq]; omega

theorem before_trans (a b c : Ranked) (hab : before a b = true) (hbc : before b c = true) : before a c = true := by
  simp only [before, Bool.or_eq_true, Bool.and_eq_true, decide_eq_true_eq, beq_iff_eq] at *; omega

theorem order_pairwise (l : List Ranked) : (order l).Pairwise fun a b => before a b = true :=
  Sorting.sortBy_pairwise before before_total before_trans l

variable (rank : Text → Rank)

/-- One name may stand before another. -/
def Precedes (a b : Text) : Prop := before ⟨a, 0, rank a⟩ ⟨b, 0, rank b⟩ = true

/-- No ranked name occurs twice. -/
def NoRepeats (ns : List Text) : Prop := ns.Pairwise fun a b => a = b → rank a = .unknown

/-- Names as sorting leaves them. -/
structure InOrder (unique : Bool) (ns : List Text) : Prop where
  sorted : ns.Pairwise (Precedes rank)
  single : unique = true → NoRepeats rank ns

variable {rank}

theorem before_iff_precedes {a b : Ranked} (ha : a.rank = rank a.name) (hb : b.rank = rank b.name) :
    before a b = true ↔ Precedes rank a.name b.name := by
  simp only [Precedes, before, place, ha, hb]

theorem names_pairwise {l : List Ranked} (hl : Ranked.Faithful rank l) :
    (l.map (·.name)).Pairwise (Precedes rank) ↔ l.Pairwise fun a b => before a b = true := by
  rw [List.pairwise_map]
  exact List.Pairwise.iff_of_mem fun ha hb => (before_iff_precedes (hl _ ha) (hl _ hb)).symm

theorem order_faithful {l : List Ranked} (hl : Ranked.Faithful rank l) : Ranked.Faithful rank (order l) :=
  fun r hr => hl r ((Sorting.mem_sortBy before).mp hr)

theorem order_of_sorted {ns : List Text} (h : ns.Pairwise (Precedes rank)) :
    order (Ranked.mark rank ns) = Ranked.mark rank ns := by
  refine Sorting.sortBy_of_pairwise before ((names_pairwise (Ranked.markFrom_faithful rank 0 ns)).mp ?_)
  rw [Ranked.markFrom_names]; exact h

/-! ## Repeats -/

theorem dropRepeats_sublist (seen : List Text) (i : Nat) (l : List Ranked) :
    (dropRepeats seen i l).classes.Sublist (l.map (·.name)) := by
  induction l generalizing seen i with
  | nil => exact List.Sublist.refl _
  | cons r l ih =>
    simp only [dropRepeats, List.map_cons]
    split
    · exact (ih _ _).cons _
    · exact (ih _ _).cons_cons _

theorem isKnown_iff (r : Ranked) : r.isKnown = true ↔ r.rank ≠ .unknown := by
  unfold Ranked.isKnown; split <;> simp_all

/-- What is left holds no ranked name twice and nothing that was seen before. -/
theorem dropRepeats_single {l : List Ranked} (hl : Ranked.Faithful rank l) (seen : List Text) (i : Nat) :
    NoRepeats rank (dropRepeats seen i l).classes ∧ ∀ n ∈ (dropRepeats seen i l).classes, n ∉ seen := by
  induction l generalizing seen i with
  | nil => exact ⟨List.Pairwise.nil, fun n hn => by cases hn⟩
  | cons r l ih =>
    have hr : r.rank = rank r.name := hl r List.mem_cons_self
    have hl' : Ranked.Faithful rank l := fun x hx => hl x (List.mem_cons_of_mem r hx)
    simp only [dropRepeats]
    split
    · exact ih hl' seen (i + 1)
    · rename_i hseen
      have hnot : r.name ∉ seen := by simpa using hseen
      obtain ⟨h1, h2⟩ := ih hl' (if r.isKnown then r.name :: seen else seen) (i + 1)
      refine ⟨List.pairwise_cons.mpr ⟨fun n hn e => ?_, h1⟩, fun n hn => ?_⟩
      · -- a ranked name is among those seen from here on
        by_cases hk : r.isKnown = true
        · have := h2 n hn
          rw [if_pos hk, e] at this
          exact absurd List.mem_cons_self this
        · rw [← hr]
          by_contra hne
          exact hk ((isKnown_iff r).mpr hne)
      · rcases List.mem_cons.mp hn with rfl | hn
        · exact hnot
        · have := h2 n hn
          split at this
          · exact fun h => this (List.mem_cons_of_mem _ h)
          · exact this

theorem dropRepeats_of_single {l : List Ranked} (hl : Ranked.Faithful rank l)
    (hs : NoRepeats rank (l.map (·.name))) (seen : List Text) (i : Nat) (hseen : ∀ r ∈ l, r.name ∉ seen) :
    dropRepeats seen i l = ⟨l.map (·.name), []⟩ := by
  induction l generalizing seen i with
  | nil => rfl
  | cons r l ih =>
    have hr : r.rank = rank r.name := hl r List.mem_cons_self
    obtain ⟨hfirst, hrest⟩ := List.pairwise_cons.mp hs
    have hnot : ¬ seen.contains r.name = true := by simpa using hseen r List.mem_cons_self
    have hnext : ∀ x ∈ l, x.name ∉ (if r.isKnown then r.name :: seen else seen) := by
      intro x hx
      have hold := hseen x (List.mem_cons_of_mem r hx)
      split
      · rename_i hk
        rw [List.mem_cons, not_or]
        refine ⟨fun e => ?_, hold⟩
        have := hfirst x.name (List.mem_map.mpr ⟨x, hx, rfl⟩) e.symm
        exact (isKnown_iff r).mp hk (hr.trans this)
      · exact hold
    simp only [dropRepeats, if_neg hnot,
      ih (fun x hx => hl x (List.mem_cons_of_mem r hx)) hrest _ _ hnext, List.map_cons]

/-! ## Sorted names -/

/-- A name is dropped only if it stays somewhere else. -/
theorem dropRepeats_mem {seen : List Text} {i : Nat} {l : List Ranked} {r : Ranked} (hr : r ∈ l) :
    r.name ∈ (dropRepeats seen i l).classes ∨ r.name ∈ seen := by
  induction l generalizing seen i with
  | nil => cases hr
  | cons x l ih =>
    simp only [dropRepeats]
    split
    · rename_i hx
      rcases List.mem_cons.mp hr with rfl | hr
      · exact Or.inr (List.contains_iff_mem.mp hx)
      · exact ih hr
    · rcases List.mem_cons.mp hr with rfl | hr
      · exact Or.inl List.mem_cons_self
      · have hrest : r.name ∈ (dropRepeats (if x.isKnown then x.name :: seen else seen) (i + 1) l).classes ∨
            r.name ∈ (if x.isKnown then x.name :: seen else seen) := ih hr
        rcases hrest with h | h
        · exact Or.inl (List.mem_cons_of_mem _ h)
        · split at h
          · rcases List.mem_cons.mp h with h | h
            · exact Or.inl (List.mem_cons.mpr (Or.inl h))
            · exact Or.inr h
          · exact Or.inr h

/-- Sorting neither loses nor invents a name, whatever the ranks are. -/
theorem mem_sorted {unique : Bool} {tokens : List Ranked} {n : Text} :
    n ∈ (sortRanked unique tokens).classes ↔ n ∈ tokens.map (·.name) := by
  have hnames : n ∈ (order tokens).map (·.name) ↔ n ∈ tokens.map (·.name) :=
    ((Sorting.sortBy_perm before tokens).map _).mem_iff
  rw [← hnames]
  cases unique with
  | false => exact Iff.rfl
  | true =>
    simp only [sortRanked, if_true]
    refine ⟨fun h => (dropRepeats_sublist _ _ _).subset h, fun h => ?_⟩
    obtain ⟨r, hr, rfl⟩ := List.mem_map.mp h
    exact (dropRepeats_mem hr).resolve_right List.not_mem_nil

theorem mem_sortRanked {unique : Bool} {ns : List Text} {n : Text} :
    n ∈ (sortRanked unique (Ranked.mark rank ns)).classes ↔ n ∈ ns := by
  rw [mem_sorted, Ranked.mark_names]

/-- Sorted names are in order. -/
theorem sortRanked_inOrder (unique : Bool) (ns : List Text) :
    InOrder rank unique (sortRanked unique (Ranked.mark rank ns)).classes := by
  have hf : Ranked.Faithful rank (order (Ranked.mark rank ns)) := order_faithful (Ranked.markFrom_faithful rank 0 ns)
  have hs : ((order (Ranked.mark rank ns)).map (·.name)).Pairwise (Precedes rank) :=
    (names_pairwise hf).mpr (order_pairwise _)
  cases unique with
  | true => exact ⟨hs.sublist (dropRepeats_sublist _ _ _), fun _ => (dropRepeats_single hf [] 0).1⟩
  | false => exact ⟨hs, fun h => by cases h⟩

/-- Names in order are left alone. -/
theorem sortRanked_of_inOrder {unique : Bool} {ns : List Text} (h : InOrder rank unique ns) :
    sortRanked unique (Ranked.mark rank ns) = ⟨ns, []⟩ := by
  rw [sortRanked, order_of_sorted h.sorted, Ranked.mark_names]
  cases unique with
  | true =>
    have hn : (Ranked.markFrom rank 0 ns).map (·.name) = ns := Ranked.markFrom_names rank 0 ns
    have hd := dropRepeats_of_single (Ranked.markFrom_faithful rank 0 ns) (hn.symm ▸ h.single rfl) [] 0 (by simp)
    rwa [hn] at hd
  | false => rfl

theorem InOrder.sublist {unique : Bool} {ms ns : List Text} (h : InOrder rank unique ns) (hsub : ms.Sublist ns) :
    InOrder rank unique ms :=
  ⟨h.sorted.sublist hsub, fun hu => (h.single hu).sublist hsub⟩

/-- Without `unique` every name stays. -/
theorem sortRanked_perm (ns : List Text) : (sortRanked false (Ranked.mark rank ns)).classes.Perm ns := by
  have := (Sorting.sortBy_perm before (Ranked.mark rank ns)).map (·.name)
  rwa [Ranked.mark_names] at this

/-! ## The empty name -/

theorem before_of_empty {x : Ranked} (hname : x.name = []) (hrank : x.rank = .unknown) (b : Ranked) :
    before x b = true := by
  have hp : place x = (0, 0) := by simp [place, isEllipsis, hname, hrank]
  have hb : (place b).1 = 0 → (place b).2 = 0 := by
    unfold place
    split
    · simp
    · split <;> simp
  simp only [before, hp, Bool.or_eq_true, Bool.and_eq_true, decide_eq_true_eq, beq_iff_eq]
  omega

theorem order_empty {x : Ranked} (hname : x.name = []) (hrank : x.rank = .unknown) (l : List Ranked) :
    order (x :: l) = x :: order l := by
  simp only [order, Sorting.sortBy]
  cases Sorting.sortBy before l with
  | nil => rfl
  | cons b bs => simp only [Sorting.insertBy, before_of_empty hname hrank, if_true]

/-- The empty name stays in front, and what follows it comes from what followed it. -/
theorem sortRanked_empty {x : Ranked} (hname : x.name = []) (hrank : x.rank = .unknown) (unique : Bool)
    (l : List Ranked) :
    ∃ ms, (sortRanked unique (x :: l)).classes = [] :: ms ∧ ∀ m ∈ ms, m ∈ l.map (·.name) := by
  have hnames : ∀ m ∈ (order l).map (·.name), m ∈ l.map (·.name) := fun m hm =>
    ((Sorting.sortBy_perm before l).map (·.name)).mem_iff.mp hm
  simp only [sortRanked, order_empty hname hrank]
  cases unique with
  | true =>
    simp only [if_true, dropRepeats, List.contains_nil, Bool.false_eq_true, if_false, hname]
    exact ⟨_, rfl, fun m hm => hnames m ((dropRepeats_sublist _ _ _).subset hm)⟩
  | false => exact ⟨_, by simp [hname], hnames⟩

/-- Only the first of the sorted names may be empty. -/
theorem sortRanked_tail (unique : Bool) {l : List Ranked} (hfilled : ∀ n ∈ (l.map (·.name)).tail, n ≠ [])
    (hempty : ∀ x ∈ l, x.name = [] → x.rank = .unknown) :
    ∀ n ∈ (sortRanked unique l).classes.tail, n ≠ [] := by
  intro n hn
  cases l with
  | nil => exact absurd (mem_sorted.mp (List.mem_of_mem_tail hn)) List.not_mem_nil
  | cons x l =>
    by_cases hx : x.name = []
    · obtain ⟨ms, hms, hmem⟩ := sortRanked_empty hx (hempty x List.mem_cons_self hx) unique l
      rw [hms] at hn
      exact hfilled n (hmem n hn)
    · have hin := mem_sorted.mp (List.mem_of_mem_tail hn)
      rw [List.map_cons] at hin
      rcases List.mem_cons.mp hin with rfl | hin
      · exact hx
      · exact hfilled n hin

/-! ## Gaps -/

theorem keepGaps_nil (i : Nat) (gs : List Text) : keepGaps [] i gs = gs := by
  induction gs generalizing i with
  | nil => rfl
  | cons g gs ih => simp [keepGaps, ih]

theorem keepGaps_sublist (removed : List Nat) (i : Nat) (gs : List Text) : (keepGaps removed i gs).Sublist gs := by
  induction gs generalizing i with
  | nil => exact List.Sublist.refl _
  | cons g gs ih =>
    simp only [keepGaps]
    split
    · exact (ih _).cons g
    · exact (ih _).cons_cons g

/-- A place that is passed makes no difference. -/
theorem keepGaps_passed {i j : Nat} (removed : List Nat) (gs : List Text) (h : j < i) :
    keepGaps (j :: removed) i gs = keepGaps removed i gs := by
  induction gs generalizing i with
  | nil => rfl
  | cons g gs ih =>
    have hne : (i == j) = false := by simp; omega
    simp only [keepGaps, List.contains_cons, hne, Bool.false_or, ih (show j < i + 1 by omega)]

theorem removed_ge (seen : List Text) (i : Nat) (l : List Ranked) :
    ∀ j ∈ (dropRepeats seen i l).removed, i ≤ j := by
  induction l generalizing seen i with
  | nil => intro j hj; cases hj
  | cons r l ih =>
    intro j hj
    simp only [dropRepeats] at hj
    split at hj
    · rcases List.mem_cons.mp hj with rfl | hj
      · exact Nat.le_refl _
      · have := ih _ _ j hj; omega
    · have := ih _ _ j hj; omega

/-- Each dropped class takes one gap along. -/
theorem dropRepeats_count (seen : List Text) (i k : Nat) (l : List Ranked) (gs : List Text)
    (h : gs.length = l.length + k) :
    (keepGaps (dropRepeats seen i l).removed i gs).length = (dropRepeats seen i l).classes.length + k := by
  induction l generalizing seen i gs with
  | nil => simpa [dropRepeats, keepGaps_nil] using h
  | cons r l ih =>
    cases gs with
    | nil => simp only [List.length_nil, List.length_cons] at h; omega
    | cons g gs =>
      have hlen : gs.length = l.length + k := by simp only [List.length_cons] at h; omega
      simp only [dropRepeats]
      split
      · simp only [keepGaps, List.contains_cons, BEq.rfl, Bool.true_or, if_true]
        rw [keepGaps_passed _ _ (Nat.lt_succ_self i)]
        exact ih _ _ _ hlen
      · rename_i hseen
        have hnot :
            ¬ (dropRepeats (if r.isKnown then r.name :: seen else seen) (i + 1) l).removed.contains i = true := by
          intro hc
          have := removed_ge _ _ _ i (List.contains_iff_mem.mp hc)
          omega
        simp only [keepGaps, if_neg hnot, List.length_cons, ih _ _ _ hlen]
        omega

theorem order_length (l : List Ranked) : (order l).length = l.length := (Sorting.sortBy_perm before l).length_eq

/-- Sorting keeps the number of gaps over that of classes. -/
theorem sortRanked_count (unique : Bool) {l : List Ranked} (hne : l ≠ []) {k : Nat} {gs : List Text}
    (h : gs.length + 1 = l.length + k) :
    (keepGaps (sortRanked unique l).removed 1 gs).length + 1 = (sortRanked unique l).classes.length + k ∧
      (sortRanked unique l).classes ≠ [] := by
  cases unique with
  | false =>
    have : l.length ≠ 0 := by simpa using hne
    simp only [sortRanked, Bool.false_eq_true, if_false, keepGaps_nil, List.length_map, order_length]
    exact ⟨h, fun e => this (by simpa [order_length] using congrArg List.length e)⟩
  | true =>
    have hl := order_length l
    simp only [sortRanked, if_true]
    cases ho : order l with
    | nil => rw [ho] at hl; exact absurd (List.eq_nil_of_length_eq_zero hl.symm) hne
    | cons x rest =>
      rw [ho, List.length_cons] at hl
      have hc := dropRepeats_count (if x.isKnown then [x.name] else []) 1 k rest gs (by omega)
      simp only [dropRepeats, List.contains_nil, Bool.false_eq_true, if_false, List.length_cons, Nat.zero_add, hc]
      exact ⟨by omega, by simp⟩

end ClassList

end ClassTidy
