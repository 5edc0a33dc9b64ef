/-
  ClassTidy.Proofs.Sorting — what sorting keeps and what it gives.

  Sorting by insertion is the library's own insertion sort, so a sorted list has the
  items it had, is in order if any two items can be compared, and is left alone if it was
  in order before. It is stable: items that may stand before each other keep their order
  (`filter_sortBy`, `idxOf_sortBy`, `sortBy_stable`).
-/
import Mathlib.Data.List.Sort
import ClassTidy.Sorting

namespace ClassTidy.Sorting

variable {α : Type} (le : α → α → Bool)

theorem insertBy_eq (a : α) (l : List α) : insertBy le a l = l.orderedInsert (fun x y => le x y = true) a := by
  induction l with
  | nil => rfl
  | cons b l ih => simp only [insertBy, List.orderedInsert_cons, ih]

theorem sortBy_eq (l : List α) : sortBy le l = l.insertionSort (fun x y => le x y = true) := by
  induction l with
  | nil => rfl
  | cons a l ih => rw [sortBy, ih, insertBy_eq, List.insertionSort_cons]

theorem sortBy_perm (l : List α) : (sortBy le l).Perm l := by
  rw [sortBy_eq]; exact List.perm_insertionSort _ l

@[simp] theorem mem_sortBy {a : α} {l : List α} : a ∈ sortBy le l ↔ a ∈ l := (sortBy_perm le l).mem_iff

/-- A list in order is left alone. -/
theorem sortBy_of_pairwise {l : List α} (h : l.Pairwise fun x y => le x y = true) : sortBy le l = l := by
  rw [sortBy_eq]; exact h.insertionSort_eq

/-- The sorted list is in order if the comparison decides between any two items. -/
theorem sortBy_pairwise (total : ∀ a b, le a b = true ∨ le b a = true)
    (trans : ∀ a b c, le a b = true → le b c = true → le a c = true) (l : List α) :
    (sortBy le l).Pairwise fun x y => le x y = true := by
  have : Std.Total fun x y => le x y = true := ⟨total⟩
  have : IsTrans α fun x y => le x y = true := ⟨trans⟩
  rw [sortBy_eq]; exact List.pairwise_insertionSort _ l

/-- Items that may stand before each other keep their order. -/
theorem filter_sortBy {p : α → Bool} {l : List α}
    (h : ∀ a ∈ l, ∀ b ∈ l, p a = true → p b = true → le a b = true) :
    (sortBy le l).filter p = l.filter p := by
  have hpair : (l.filter p).Pairwise fun x y => le x y = true := by
    refine List.pairwise_of_forall_mem_list fun a ha b hb => ?_
    obtain ⟨ha, hpa⟩ := List.mem_filter.mp ha
    obtain ⟨hb, hpb⟩ := List.mem_filter.mp hb
    exact h a ha b hb hpa hpb
  have hsub : (l.filter p).Sublist (sortBy le l) := by
    rw [sortBy_eq]; exact List.sublist_insertionSort hpair List.filter_sublist
  have hfilter := hsub.filter p
  rw [List.filter_filter] at hfilter
  simp only [Bool.and_self] at hfilter
  exact (hfilter.eq_of_length ((sortBy_perm le l).filter p).length_eq.symm).symm

/-- Leaving items out does not change which of two others comes first. -/
theorem idxOf_filter [DecidableEq α] {q : α → Bool} {a b : α} (ha : q a = true) (hb : q b = true) (l : List α) :
    (l.filter q).idxOf a < (l.filter q).idxOf b ↔ l.idxOf a < l.idxOf b := by
  induction l with
  | nil => exact Iff.rfl
  | cons x l ih =>
    by_cases hx : q x = true
    · rw [List.filter_cons_of_pos hx]
      by_cases hxb : x = b
      · subst hxb
        simp only [List.idxOf_cons_self, Nat.not_lt_zero]
      · rw [List.idxOf_cons_ne _ hxb, List.idxOf_cons_ne _ hxb]
        by_cases hxa : x = a
        · subst hxa
          simp only [List.idxOf_cons_self, Nat.zero_lt_succ]
        · rw [List.idxOf_cons_ne _ hxa, List.idxOf_cons_ne _ hxa, Nat.succ_lt_succ_iff, Nat.succ_lt_succ_iff, ih]
    · have hxa : x ≠ a := fun e => hx (e ▸ ha)
      have hxb : x ≠ b := fun e => hx (e ▸ hb)
      rw [List.filter_cons_of_neg hx, List.idxOf_cons_ne _ hxa, List.idxOf_cons_ne _ hxb, Nat.succ_lt_succ_iff, ih]

/-- Of items that may stand before each other, the one that was first stays first. -/
theorem idxOf_sortBy [DecidableEq α] {q : α → Bool} {l : List α}
    (h : ∀ x ∈ l, ∀ y ∈ l, q x = true → q y = true → le x y = true) {a b : α} (ha : q a = true)
    (hb : q b = true) :
    (sortBy le l).idxOf a < (sortBy le l).idxOf b ↔ l.idxOf a < l.idxOf b := by
  rw [← idxOf_filter ha hb, filter_sortBy le h, idxOf_filter ha hb]

/-- An item that comes before all others in some order keeps that order against those it may stand before. -/
theorem insertBy_stable {R : α → α → Prop} (total : ∀ a b, le a b = true ∨ le b a = true)
    (trans : ∀ a b c, le a b = true → le b c = true → le a c = true) {a : α} {l : List α}
    (ha : ∀ b ∈ l, R a b) (hl : l.Pairwise fun x y => le x y = true ∧ (le y x = true → R x y)) :
    (insertBy le a l).Pairwise fun x y => le x y = true ∧ (le y x = true → R x y) := by
  induction l with
  | nil => exact List.pairwise_singleton _ _
  | cons b l ih =>
    obtain ⟨hb, hl'⟩ := List.pairwise_cons.mp hl
    rw [insertBy]
    split
    · rename_i hab
      refine List.pairwise_cons.mpr ⟨fun x hx => ⟨?_, fun _ => ha x hx⟩, hl⟩
      rcases List.mem_cons.mp hx with rfl | hx
      · exact hab
      · exact trans a b x hab (hb x hx).1
    · rename_i hab
      refine List.pairwise_cons.mpr ⟨fun x hx => ?_, ih (fun x hx => ha x (List.mem_cons_of_mem b hx)) hl'⟩
      rw [insertBy_eq, List.mem_orderedInsert] at hx
      rcases hx with rfl | hx
      · exact ⟨(total x b).resolve_left hab, fun h => absurd h hab⟩
      · exact hb x hx

/-- Whatever order a list has, the sorted list has it among the items that may stand before each other. -/
theorem sortBy_stable {R : α → α → Prop} (total : ∀ a b, le a b = true ∨ le b a = true)
    (trans : ∀ a b c, le a b = true → le b c = true → le a c = true) {l : List α} (hl : l.Pairwise R) :
    (sortBy le l).Pairwise fun x y => le x y = true ∧ (le y x = true → R x y) := by
  induction l with
  | nil => exact List.Pairwise.nil
  | cons a l ih =>
    obtain ⟨ha, hl'⟩ := List.pairwise_cons.mp hl
    exact insertBy_stable le total trans (fun b hb => ha b ((mem_sortBy le).mp hb)) (ih hl')

/-- Sorting by what items stand for is sorting the items. -/
theorem map_sortBy {β : Type} (le : α → α → Bool) (le' : β → β → Bool) {f : α → β} {l : List α}
    (h : ∀ a ∈ l, ∀ b ∈ l, le a b = le' (f a) (f b)) : (sortBy le l).map f = sortBy le' (l.map f) := by
  rw [sortBy_eq, sortBy_eq]
  exact List.map_insertionSort _ _ f l fun a ha b hb => by rw [h a ha b hb]

end ClassTidy.Sorting
