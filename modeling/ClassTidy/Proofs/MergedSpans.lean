/-
  ClassTidy.Proofs.MergedSpans — merged spans, told exactly.

  Spans are sorted by where their class strings start, and then the first of every key is
  left. A key holds the start, so spans of one key keep their order when they are sorted, and
  the first of them in the sorted list is the first of them as they were given
  (`filter_merge`). For the same reason spans of one start stand in the order in which each
  of them is first given (`merge_ties`).

  Proved (`merge_exact`): of every key that occurs the first span is left, once, and nothing
  else; spans are in order of their starts and then as they were given; and merging what was
  merged changes nothing.
-/
import ClassTidy.Proofs.SpanPlaces

namespace ClassTidy.Span

/-! ## The first of every key -/

theorem firstOfKey_unseen {seen : List (Nat × Nat)} {ss : List Span} {s : Span} (h : s ∈ firstOfKey seen ss) :
    s.key ∉ seen := by
  induction ss generalizing seen with
  | nil => cases h
  | cons x ss ih =>
    unfold firstOfKey at h
    split at h
    · exact ih h
    · rename_i hx
      rcases List.mem_cons.mp h with rfl | h
      · simpa using hx
      · exact fun hin => ih h (List.mem_cons_of_mem x.key hin)

/-- What is left of one key is the first span of that key, unless the key was seen before. -/
theorem filter_firstOfKey (seen : List (Nat × Nat)) (ss : List Span) (k : Nat × Nat) :
    (firstOfKey seen ss).filter (fun s => s.key = k) =
      if k ∈ seen then [] else (ss.find? fun s => s.key = k).toList := by
  induction ss generalizing seen with
  | nil => simp [firstOfKey]
  | cons x ss ih =>
    unfold firstOfKey
    by_cases hk : x.key = k
    · subst hk
      split
      · rename_i hx
        have hseen : x.key ∈ seen := List.contains_iff_mem.mp hx
        rw [ih, if_pos hseen, if_pos hseen]
      · rename_i hx
        have hseen : x.key ∉ seen := by simpa using hx
        rw [List.filter_cons_of_pos (by simp), ih, if_pos List.mem_cons_self, if_neg hseen,
          List.find?_cons_of_pos (by simp)]
        rfl
    · rw [List.find?_cons_of_neg (by simpa using hk)]
      split
      · exact ih seen
      · rw [List.filter_cons_of_neg (by simpa using hk), ih]
        have hcons : k ∈ x.key :: seen ↔ k ∈ seen := by
          rw [List.mem_cons, or_iff_right (Ne.symm hk)]
        simp only [hcons]

/-- The spans that are left have different keys, and stand in the order in which they first occur. -/
theorem firstOfKey_pairwise (seen : List (Nat × Nat)) (ss : List Span) :
    (firstOfKey seen ss).Pairwise fun a b => a.key ≠ b.key ∧ ss.idxOf a < ss.idxOf b := by
  induction ss generalizing seen with
  | nil => exact List.Pairwise.nil
  | cons x ss ih =>
    -- one place further on for every span that is not `x`
    have hshift : ∀ {l : List Span}, (∀ s ∈ l, s.key ≠ x.key) →
        l.Pairwise (fun a b => a.key ≠ b.key ∧ ss.idxOf a < ss.idxOf b) →
        l.Pairwise fun a b => a.key ≠ b.key ∧ (x :: ss).idxOf a < (x :: ss).idxOf b := by
      intro l hl hpair
      refine hpair.imp_of_mem fun {a b} ha hb hab => ⟨hab.1, ?_⟩
      have hne : ∀ s ∈ l, x ≠ s := fun s hs e => hl s hs (e ▸ rfl)
      rw [List.idxOf_cons_ne _ (hne a ha), List.idxOf_cons_ne _ (hne b hb)]
      exact Nat.succ_lt_succ hab.2
    unfold firstOfKey
    split
    · rename_i hx
      have hseen : x.key ∈ seen := List.contains_iff_mem.mp hx
      exact hshift (fun s hs e => firstOfKey_unseen hs (e ▸ hseen)) (ih seen)
    · have hother : ∀ s ∈ firstOfKey (x.key :: seen) ss, s.key ≠ x.key := fun s hs e =>
        firstOfKey_unseen hs (e ▸ List.mem_cons_self)
      refine List.pairwise_cons.mpr ⟨fun s hs => ⟨(hother s hs).symm, ?_⟩, hshift hother (ih _)⟩
      have hne : x ≠ s := fun e => hother s hs (e ▸ rfl)
      rw [List.idxOf_cons_self, List.idxOf_cons_ne _ hne]
      exact Nat.succ_pos _

/-- Spans of different keys are all left. -/
theorem firstOfKey_of_distinct {seen : List (Nat × Nat)} {ss : List Span}
    (hkeys : ss.Pairwise fun a b => a.key ≠ b.key) (hseen : ∀ s ∈ ss, s.key ∉ seen) :
    firstOfKey seen ss = ss := by
  induction ss generalizing seen with
  | nil => rfl
  | cons x ss ih =>
    obtain ⟨hx, hss⟩ := List.pairwise_cons.mp hkeys
    have hnot : ¬ seen.contains x.key = true := by simpa using hseen x List.mem_cons_self
    have hrest : ∀ s ∈ ss, s.key ∉ x.key :: seen := by
      intro s hs hin
      rcases List.mem_cons.mp hin with e | hin
      · exact hx s hs e.symm
      · exact hseen s (List.mem_cons_of_mem x hs) hin
    rw [firstOfKey, if_neg hnot, ih hss hrest]

/-! ## Merging -/

variable {rules calls : List Span}

/-- The spans in order of their starts. -/
theorem sorted_starts (ss : List Span) :
    (Sorting.sortBy (fun a b => a.classStart ≤ b.classStart) ss).Pairwise
    fun a b => a.classStart ≤ b.classStart := by
  have hsorted := Sorting.sortBy_pairwise (fun a b : Span => decide (a.classStart ≤ b.classStart))
    (fun a b => by simp only [decide_eq_true_eq]; omega) (fun a b c => by simp only [decide_eq_true_eq]; omega) ss
  exact hsorted.imp of_decide_eq_true

theorem merge_starts (rules calls : List Span) :
    (merge rules calls).Pairwise fun a b => a.classStart ≤ b.classStart :=
  (sorted_starts _).sublist (firstOfKey_sublist [] _)

theorem merge_keys (rules calls : List Span) : (merge rules calls).Pairwise fun a b => a.key ≠ b.key :=
  (firstOfKey_pairwise [] _).imp And.left

/-- Of every key the first span is left. -/
theorem filter_merge (rules calls : List Span) (k : Nat × Nat) :
    (merge rules calls).filter (fun s => s.key = k) = ((rules ++ calls).find? fun s => s.key = k).toList := by
  have hstable :
      (Sorting.sortBy (fun a b => a.classStart ≤ b.classStart) (rules ++ calls)).filter (fun s => s.key = k) =
      (rules ++ calls).filter fun s => s.key = k := by
    refine Sorting.filter_sortBy _ fun a _ b _ ha hb => ?_
    have hkey : a.key = b.key := (of_decide_eq_true ha).trans (of_decide_eq_true hb).symm
    exact decide_eq_true (Prod.mk.inj hkey).1.le
  rw [merge, filter_firstOfKey, if_neg List.not_mem_nil, ← List.head?_filter, hstable, List.head?_filter]

/-- Spans of one start are in the order in which they are first given. -/
theorem merge_ties (rules calls : List Span) :
    (merge rules calls).Pairwise fun a b => a.classStart = b.classStart →
    (rules ++ calls).idxOf a < (rules ++ calls).idxOf b := by
  refine (firstOfKey_pairwise [] _).imp fun {a b} hab hstart => ?_
  refine (Sorting.idxOf_sortBy (fun a b => decide (a.classStart ≤ b.classStart))
    (q := fun s => s.classStart = b.classStart)
    (fun x _ y _ hx hy => ?_) (decide_eq_true hstart) (decide_eq_true rfl)).mp hab.2
  exact decide_eq_true ((of_decide_eq_true hx).trans (of_decide_eq_true hy).symm).le

theorem mem_merge_iff {s : Span} :
    s ∈ merge rules calls ↔ (rules ++ calls).find? (fun x => x.key = s.key) = some s := by
  have hfilter : s ∈ merge rules calls ↔ s ∈ (merge rules calls).filter fun x => x.key = s.key := by
    rw [List.mem_filter, decide_eq_true_eq, and_iff_left rfl]
  rw [hfilter, filter_merge, Option.mem_toList]

/-- What a rule has found is not taken from a call. -/
theorem mem_rules_of_merge {s x : Span} (hs : s ∈ merge rules calls) (hx : x ∈ rules) (hkey : x.key = s.key) :
    s ∈ rules := by
  have hfirst := mem_merge_iff.mp hs
  rw [List.find?_append] at hfirst
  have hsome : (rules.find? fun y => y.key = s.key).isSome = true :=
    List.find?_isSome.mpr ⟨x, hx, decide_eq_true hkey⟩
  obtain ⟨y, hy⟩ := Option.isSome_iff_exists.mp hsome
  rw [hy, Option.some_or] at hfirst
  exact List.mem_of_find?_eq_some (hy.trans hfirst)

/-- Spans in order and of different keys are left alone. -/
theorem firstOfKey_sorted {ss : List Span} (hstarts : ss.Pairwise fun a b => a.classStart ≤ b.classStart)
    (hkeys : ss.Pairwise fun a b => a.key ≠ b.key) :
    firstOfKey [] (Sorting.sortBy (fun a b => a.classStart ≤ b.classStart) ss) = ss := by
  rw [Sorting.sortBy_of_pairwise _ (hstarts.imp decide_eq_true)]
  exact firstOfKey_of_distinct hkeys fun s _ => List.not_mem_nil

/-- Merged spans: of every key the first one that is given, rules before calls, and nothing else. They are in order of
their starts, and those of one start in the order in which they are first given. Merged again, with nothing on the
other side, they stay as they are. -/
theorem merge_exact (rules calls : List Span) :
    (∀ k, (merge rules calls).filter (fun s => s.key = k) = ((rules ++ calls).find? fun s => s.key = k).toList) ∧
    (∀ s ∈ merge rules calls, ∀ x ∈ rules, x.key = s.key → s ∈ rules) ∧
    (merge rules calls).Pairwise (fun a b => a.classStart < b.classStart ∨
      a.classStart = b.classStart ∧ (rules ++ calls).idxOf a < (rules ++ calls).idxOf b) ∧
    merge (merge rules calls) [] = merge rules calls ∧ merge [] (merge rules calls) = merge rules calls := by
  have hagain := firstOfKey_sorted (merge_starts rules calls) (merge_keys rules calls)
  refine ⟨filter_merge rules calls, fun s hs x hx hkey => mem_rules_of_merge hs hx hkey, ?_, ?_, hagain⟩
  · refine ((merge_starts rules calls).and (merge_ties rules calls)).imp fun {a b} h => ?_
    obtain ⟨hstart, htie⟩ := h
    rcases Nat.lt_or_eq_of_le hstart with hlt | heq
    · exact Or.inl hlt
    · exact Or.inr ⟨heq, htie heq⟩
  · rw [merge, List.append_nil]
    exact hagain

/-- Two spans of one class string, one of another that starts with it, and one in front: the rule's span is taken, and
the spans that start together stay in their order. -/
example :
    let rule : Span := ⟨['a', 'b'], ['a', 'b'], 4, 4, 6, .rule⟩
    let longer : Span := ⟨['a', 'b', 'c'], ['a', 'b', 'c'], 4, 4, 7, .call⟩
    let call : Span := ⟨['a', 'b'], ['a', 'b'], 4, 4, 6, .call⟩
    let front : Span := ⟨['x'], ['x'], 1, 1, 2, .call⟩
    merge [rule] [longer, call, front] = [front, rule, longer] := by decide

end ClassTidy.Span
