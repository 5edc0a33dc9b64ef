/-
  ClassTidy.Proofs.SortedClasses — sorted classes, told exactly.

  A ranker may answer whatever it likes, as long as each class gets one valid rank
  (`Answers`): it may give one name two ranks, and it may rank the ellipsis. The classes
  are then ranked in the order asked for (`Answers.ask`), and which of two comes first is
  decided by `Comes`: the ellipsis last, then what has no rank first, then the lower rank,
  and in all other cases the one that came first before. Sorted, they are the one list of
  these classes in which each comes before those behind it (`eq_order_iff`).

  Repeats are dropped by a list of names seen. That list holds the ranked names gone
  through, so a place is dropped exactly if an earlier one has its name and a rank
  (`mem_removed_iff`), and what is left are the names of the other places (`dropRepeats_classes`).

  Proved (`sort_exact`): all of this holds of every list of classes. If the rank depends on
  the name alone, no ranked name is left twice, no name is lost, and names without a rank
  occur as often as before.
-/
import ClassTidy.Proofs.OneForm

namespace ClassTidy

/-! ## Rankers that answer -/

/-- A ranker has one valid rank for each class of a list. -/
structure Ranker.Answers (ranker : Ranker) (names : List Text) : Prop where
  count : (ranker names).length = names.length
  valid : ∀ v ∈ ranker names, ∃ r, Rank.ofValue v = .ok r

/-- Classes with the ranks that were answered, counted from `i`. -/
structure Ranked.Pairs (i : Nat) (names : List Text) (answers : List Json) (tokens : List Ranked) : Prop where
  name : tokens.map (·.name) = names
  index : tokens.map (·.index) = List.range' i names.length
  rank : tokens.map (fun x => Except.ok x.rank) = answers.map Rank.ofValue

theorem Ranked.exists_pair (i : Nat) {names : List Text} {answers : List Json} (hcount : answers.length = names.length)
    (hvalid : ∀ v ∈ answers, ∃ r, Rank.ofValue v = .ok r) :
    ∃ tokens, Ranked.pair i names answers = .ok tokens ∧ Ranked.Pairs i names answers tokens := by
  induction names generalizing i answers with
  | nil =>
    obtain rfl := List.eq_nil_of_length_eq_zero hcount
    exact ⟨[], rfl, rfl, rfl, rfl⟩
  | cons n names ih =>
    cases answers with
    | nil => cases hcount
    | cons v answers =>
      obtain ⟨hv, hvalid⟩ := List.forall_mem_cons.mp hvalid
      obtain ⟨r, hr⟩ := hv
      obtain ⟨tokens, htokens, hpairs⟩ := ih (i + 1) (by simpa using hcount) hvalid
      refine ⟨⟨n, i, r⟩ :: tokens, ?_, ?_, ?_, ?_⟩
      · simp only [Ranked.pair, hr, htokens]
        rfl
      · rw [List.map_cons, hpairs.name]
      · rw [List.map_cons, hpairs.index, List.length_cons, List.range'_succ]
      · rw [List.map_cons, List.map_cons, hpairs.rank, hr]

/-- A ranker that answers ranks every class, in the order asked for. -/
theorem Ranker.Answers.ask {ranker : Ranker} {names : List Text} (h : ranker.Answers names) :
    ∃ tokens, Ranked.ask ranker names = .ok tokens ∧ Ranked.Pairs 0 names (ranker names) tokens := by
  obtain ⟨tokens, htokens, hpairs⟩ := Ranked.exists_pair 0 h.count h.valid
  exact ⟨tokens, by rw [Ranked.ask, if_pos h.count, htokens], hpairs⟩

theorem Ranked.Pairs.index_pairwise {i : Nat} {names : List Text} {answers : List Json} {tokens : List Ranked}
    (h : Ranked.Pairs i names answers tokens) : tokens.Pairwise fun a b => a.index < b.index := by
  have hrange : (tokens.map (·.index)).Pairwise (· < ·) := by
    rw [h.index]
    exact List.pairwise_lt_range'
  exact List.pairwise_map.mp hrange

namespace ClassList

/-! ## The order of ranked classes -/

/-- Of two ranked classes, `a` comes first. -/
def Comes (a b : Ranked) : Prop :=
  match isEllipsis a.name, isEllipsis b.name with
  | false, true => True
  | true, false => False
  | true, true => a.index < b.index
  | false, false =>
    match a.rank, b.rank with
    | .unknown, .known _ => True
    | .known _, .unknown => False
    | .unknown, .unknown => a.index < b.index
    | .known m, .known n => m < n ∨ m = n ∧ a.index < b.index

theorem comes_iff (a b : Ranked) : Comes a b ↔ before a b = true ∧ (before b a = true → a.index < b.index) := by
  unfold Comes before place
  cases isEllipsis a.name <;> cases isEllipsis b.name <;> cases a.rank <;> cases b.rank <;> simp
  omega

theorem Comes.asymm {a b : Ranked} (h : Comes a b) (h' : Comes b a) : False := by
  obtain ⟨hab, hlt⟩ := (comes_iff a b).mp h
  obtain ⟨hba, hgt⟩ := (comes_iff b a).mp h'
  exact Nat.lt_asymm (hlt hba) (hgt hab)

/-- Sorted classes are the one list of them in which each comes before those behind it. -/
theorem eq_order_iff {tokens : List Ranked} (h : tokens.Pairwise fun a b => a.index < b.index) (l : List Ranked) :
    l = order tokens ↔ l.Perm tokens ∧ l.Pairwise Comes := by
  have hsorted : (order tokens).Pairwise Comes :=
    (Sorting.sortBy_stable before before_total before_trans h).imp fun {a b} hab => (comes_iff a b).mpr hab
  have hperm : (order tokens).Perm tokens := Sorting.sortBy_perm before tokens
  constructor
  · rintro rfl
    exact ⟨hperm, hsorted⟩
  · rintro ⟨hl, hcomes⟩
    exact List.Perm.eq_of_pairwise (fun a b _ _ hab hba => (hab.asymm hba).elim) hcomes hsorted (hl.trans hperm.symm)

/-! ## The places that are dropped -/

/-- A place is dropped if its name was seen before, or occurs at an earlier place with a rank. -/
theorem mem_removed (seen : List Text) (i : Nat) (l : List Ranked) (j : Nat) :
    i + j ∈ (dropRepeats seen i l).removed ↔
      ∃ x, l[j]? = some x ∧ (x.name ∈ seen ∨ ∃ y ∈ l.take j, y.name = x.name ∧ y.isKnown = true) := by
  induction l generalizing seen i j with
  | nil => simp [dropRepeats]
  | cons r l ih =>
    -- the names seen behind `r` are those seen before and, if it has a rank, its own
    have hseen : ∀ n, n ∈ (if r.name ∈ seen then seen else if r.isKnown then r.name :: seen else seen) ↔
        n ∈ seen ∨ r.name = n ∧ r.isKnown = true := by
      intro n
      split
      · rename_i hin
        refine ⟨Or.inl, fun h => h.elim id fun hn => hn.1 ▸ hin⟩
      · split
        · rename_i hk
          rw [List.mem_cons, and_iff_left hk, eq_comm, or_comm]
        · rename_i hk
          simp [hk]
    have hrest : ∀ j, i + (j + 1) ∈ (dropRepeats seen i (r :: l)).removed ↔
        i + 1 + j ∈ (dropRepeats (if r.name ∈ seen then seen else if r.isKnown then r.name :: seen else seen)
          (i + 1) l).removed := by
      intro j
      rw [show i + 1 + j = i + (j + 1) by omega]
      simp only [dropRepeats, List.contains_iff_mem]
      split
      · rw [List.mem_cons, or_iff_right (by omega)]
      · exact Iff.rfl
    cases j with
    | zero =>
      have hfirst : ∀ seen', i ∉ (dropRepeats seen' (i + 1) l).removed := fun seen' hi =>
        absurd (removed_ge seen' (i + 1) l i hi) (by omega)
      simp only [Nat.add_zero, dropRepeats, List.contains_iff_mem, List.getElem?_cons_zero, Option.some.injEq,
        exists_eq_left', List.take_zero, List.not_mem_nil, false_and, exists_false, or_false]
      split
      · rename_i hin
        exact ⟨fun _ => hin, fun _ => List.mem_cons_self⟩
      · rename_i hin
        exact ⟨fun h => absurd h (hfirst _), fun h => absurd h hin⟩
    | succ j =>
      rw [hrest, ih]
      simp only [List.getElem?_cons_succ, hseen, List.take_succ_cons, List.exists_mem_cons_iff, or_assoc]

/-- From the start, a place is dropped exactly if its name occurs at an earlier place with a rank. -/
theorem mem_removed_iff (l : List Ranked) (j : Nat) :
    j ∈ (dropRepeats [] 0 l).removed ↔
      ∃ i x y, i < j ∧ l[i]? = some y ∧ l[j]? = some x ∧ y.name = x.name ∧ y.isKnown = true := by
  have hj := mem_removed [] 0 l j
  rw [Nat.zero_add] at hj
  rw [hj]
  constructor
  · rintro ⟨x, hx, hin | ⟨y, hy, hname, hknown⟩⟩
    · cases hin
    · obtain ⟨i, hi, hget⟩ := List.mem_take_iff_getElem.mp hy
      exact ⟨i, x, y, by omega, by rw [← hget, List.getElem?_eq_getElem], hx, hname, hknown⟩
  · rintro ⟨i, x, y, hi, hy, hx, hname, hknown⟩
    obtain ⟨hlen, rfl⟩ := List.getElem?_eq_some_iff.mp hy
    exact ⟨x, hx, Or.inr ⟨_, List.mem_take_iff_getElem.mpr ⟨i, by omega, rfl⟩, hname, hknown⟩⟩

/-- The places that are dropped are noted once each, in ascending order. -/
theorem removed_pairwise (seen : List Text) (i : Nat) (l : List Ranked) :
    (dropRepeats seen i l).removed.Pairwise (· < ·) := by
  induction l generalizing seen i with
  | nil => exact List.Pairwise.nil
  | cons r l ih =>
    simp only [dropRepeats]
    split
    · exact List.pairwise_cons.mpr ⟨fun j hj => removed_ge _ _ _ j hj, ih _ _⟩
    · exact ih _ _

/-- What is left are the names of the places that are not dropped. -/
theorem dropRepeats_classes (seen : List Text) (i : Nat) (l : List Ranked) :
    (dropRepeats seen i l).classes =
      ((l.zipIdx i).filter fun x => !(dropRepeats seen i l).removed.contains x.2).map (·.1.name) := by
  induction l generalizing seen i with
  | nil => rfl
  | cons r l ih =>
    have hlater : ∀ x ∈ l.zipIdx (i + 1), x.2 ≠ i := fun x hx => by
      have := List.le_snd_of_mem_zipIdx hx
      omega
    simp only [dropRepeats, List.zipIdx_cons]
    split
    · rw [List.filter_cons_of_neg (by simp), ih]
      refine congrArg _ (List.filter_congr fun x hx => ?_)
      simp [hlater x hx]
    · have hfirst : i ∉ (dropRepeats (if r.isKnown then r.name :: seen else seen) (i + 1) l).removed := fun hi =>
        absurd (removed_ge _ _ _ i hi) (by omega)
      rw [List.filter_cons_of_pos (by simpa using hfirst), List.map_cons, ← ih]

/-! ## Sorted classes -/

variable {rank : Text → Rank}

/-- Names without a rank occur as often as before. -/
theorem count_unknown (unique : Bool) {tokens : List Ranked} (h : Ranked.Faithful rank tokens) {n : Text}
    (hn : rank n = .unknown) : (sortRanked unique tokens).classes.count n = (tokens.map (·.name)).count n := by
  have hperm := ((Sorting.sortBy_perm before tokens).map (·.name)).count_eq n
  cases unique with
  | false => exact hperm
  | true =>
    have hseen : ∀ n ∈ ([] : List Text), isUnknown rank n = false := fun n hn => absurd hn List.not_mem_nil
    have hdrop := dropRepeats_unknown (order_faithful h) hseen 0
    have hfilter : ∀ l : List Text, (l.filter (isUnknown rank)).count n = l.count n := fun l =>
      List.count_filter (isUnknown_iff.mpr hn)
    rw [← hperm]
    simp only [sortRanked, if_true]
    rw [← hfilter, hdrop, hfilter]
    rfl

/-- Ranked names are left once. -/
theorem count_known {tokens : List Ranked} (h : Ranked.Faithful rank tokens) {n : Text} (hn : rank n ≠ .unknown) :
    (sortRanked true tokens).classes.count n ≤ 1 := by
  have hsingle : NoRepeats rank (sortRanked true tokens).classes := (dropRepeats_single (order_faithful h) [] 0).1
  have hcount := List.nodup_iff_count_le_one.mp (nodup_known hsingle) n
  rwa [List.count_filter] at hcount
  simpa [isUnknown] using hn

/-- Classes that a ranker answers for are sorted into the one list in which each comes before those behind it. Repeats
are kept on request; else a place is dropped exactly if an earlier one has its name and a rank, and the names of the
others are left in order. If the rank depends on the name alone, no ranked name is left twice, no name is lost, and
names without a rank occur as often as before. -/
theorem sort_exact (ranker : Ranker) (unique : Bool) (names : List Text) (h : ranker.Answers names) :
    ∃ tokens s, Ranked.ask ranker names = .ok tokens ∧ Ranked.Pairs 0 names (ranker names) tokens ∧
      sort ranker unique names = .ok s ∧
      (∀ l, l = order tokens ↔ l.Perm tokens ∧ l.Pairwise Comes) ∧
      (unique = false → s.classes = (order tokens).map (·.name) ∧ s.removed = []) ∧
      (unique = true →
        (∀ j, j ∈ s.removed ↔ ∃ i x y, i < j ∧ (order tokens)[i]? = some y ∧ (order tokens)[j]? = some x ∧
          y.name = x.name ∧ y.isKnown = true) ∧
        s.removed.Pairwise (· < ·) ∧ 0 ∉ s.removed ∧
        s.classes = ((order tokens).zipIdx.filter fun x => !s.removed.contains x.2).map (·.1.name)) ∧
      ∀ rank : Text → Rank, (∀ x ∈ tokens, x.rank = rank x.name) →
        (unique = true → ∀ n, rank n ≠ .unknown → s.classes.count n ≤ 1) ∧
        (∀ n, n ∈ s.classes ↔ n ∈ names) ∧
        ∀ n, rank n = .unknown → s.classes.count n = names.count n := by
  obtain ⟨tokens, htokens, hpairs⟩ := h.ask
  refine ⟨tokens, sortRanked unique tokens, htokens, hpairs, by rw [sort, htokens]; rfl,
    eq_order_iff hpairs.index_pairwise,
    ?_, ?_, fun rank hrank => ⟨?_, fun n => ?_, fun n hn => ?_⟩⟩
  · rintro rfl
    exact ⟨rfl, rfl⟩
  · rintro rfl
    refine ⟨mem_removed_iff _, removed_pairwise _ _ _, fun hzero => ?_, dropRepeats_classes _ _ _⟩
    obtain ⟨i, -, -, hi, -⟩ := (mem_removed_iff _ 0).mp hzero
    exact Nat.not_lt_zero i hi
  · rintro rfl n hn
    exact count_known hrank hn
  · rw [mem_sorted, hpairs.name]
  · rw [count_unknown unique hrank hn, hpairs.name]

/-- One name with two ranks and without one, and an ellipsis with a rank: the second ranked place of the name is
dropped. -/
theorem sort_exact_two_ranks :
    let ranker : Ranker := fun _ => [.int 0, .int 7, .null, .int 3]
    let names : List Text := [['…'], ['b'], ['b'], ['b']]
    ranker.Answers names ∧ sort ranker true names = .ok ⟨[['b'], ['b'], ['…']], [2]⟩ ∧
      ∃ tokens, Ranked.ask ranker names = .ok tokens ∧ (order tokens).Pairwise Comes ∧
        ∃ i x y, i < 2 ∧ (order tokens)[i]? = some y ∧ (order tokens)[2]? = some x ∧ y.name = x.name ∧
          y.isKnown = true := by
  intro ranker names
  have hanswers : ranker.Answers names := ⟨rfl, by
    intro v hv
    simp only [ranker, List.mem_cons, List.not_mem_nil, or_false] at hv
    rcases hv with rfl | rfl | rfl | rfl <;> exact ⟨_, rfl⟩⟩
  have hsort : sort ranker true names = .ok ⟨[['b'], ['b'], ['…']], [2]⟩ := rfl
  obtain ⟨tokens, s, htokens, -, hs, horder, -, hunique, -⟩ := sort_exact ranker true names hanswers
  obtain rfl := Except.ok.inj (hs.symm.trans hsort)
  exact ⟨hanswers, hsort, tokens, htokens, ((horder _).mp rfl).2, ((hunique rfl).1 2).mp List.mem_cons_self⟩

end ClassList

end ClassTidy
