/-
  ClassTidy.Proofs.Splice — which edits are kept, and what making them does.

  `Spliced i es t u` says it from left to right: `t`, which starts at offset `i` of a
  document, is gaps and the ranges of `es` in turn, and `u` has the same gaps with the new
  texts between them. Edits are made from right to left, so that it takes an argument that
  the two are the same (`apply_spliced`).

  Kept edits are apart: each ends before the next one starts. An edit that is not kept
  starts inside one that is (`kept_or_inside`). Selecting again changes nothing
  (`select_kept`), so it makes no difference whether all edits are applied or the kept ones.
-/
import ClassTidy.Document.Edit
import ClassTidy.Proofs.Slice
import ClassTidy.Proofs.Sorting

namespace ClassTidy.Edit

/-! ## Which edits are kept -/

theorem before_total (a b : Edit) : before a b = true ∨ before b a = true := by
  simp only [before, Bool.or_eq_true, Bool.and_eq_true, decide_eq_true_eq, beq_iff_eq]; omega

theorem before_trans (a b c : Edit) (hab : before a b = true) (hbc : before b c = true) : before a c = true := by
  simp only [before, Bool.or_eq_true, Bool.and_eq_true, decide_eq_true_eq, beq_iff_eq] at *; omega

theorem start_le_of_before {a b : Edit} (h : before a b = true) : a.start ≤ b.start := by
  simp only [before, Bool.or_eq_true, Bool.and_eq_true, decide_eq_true_eq, beq_iff_eq] at h; omega

/-- The edits as they are gone through. -/
theorem sorted_pairwise (es : List Edit) : (Sorting.sortBy before es).Pairwise fun a b => before a b = true :=
  Sorting.sortBy_pairwise before before_total before_trans es

/-- Each edit ends before the next one starts. -/
def Apart (es : List Edit) : Prop := es.Pairwise fun a b => a.stop ≤ b.start

theorem selectFrom_sublist (last : Option Edit) (es : List Edit) : (selectFrom last es).kept.Sublist es := by
  induction es generalizing last with
  | nil => exact List.Sublist.refl _
  | cons e es ih =>
    unfold selectFrom
    split
    · split
      · exact (ih _).cons e
      · exact (ih _).cons_cons e
    · exact (ih _).cons_cons e

theorem selectFrom_apart {last : Option Edit} {es : List Edit} (h : ∀ e ∈ es, e.start ≤ e.stop) :
    Apart (selectFrom last es).kept ∧ ∀ k ∈ last, ∀ e ∈ (selectFrom last es).kept, k.stop ≤ e.start := by
  induction es generalizing last with
  | nil => simp [selectFrom, Apart]
  | cons e es ih =>
    have hes : ∀ x ∈ es, x.start ≤ x.stop := fun x hx => h x (List.mem_cons_of_mem e hx)
    have he : e.start ≤ e.stop := h e List.mem_cons_self
    obtain ⟨happ, hall⟩ : Apart (selectFrom (some e) es).kept ∧
        ∀ k ∈ some e, ∀ x ∈ (selectFrom (some e) es).kept, k.stop ≤ x.start := ih hes
    have hcons : Apart (e :: (selectFrom (some e) es).kept) := List.pairwise_cons.mpr ⟨hall e rfl, happ⟩
    cases last with
    | none => exact ⟨hcons, fun k hk => by cases hk⟩
    | some k =>
      simp only [selectFrom]
      split
      · exact ih hes
      · refine ⟨hcons, fun x hx y hy => ?_⟩
        obtain rfl : k = x := Option.mem_some.mp hx
        rcases List.mem_cons.mp hy with rfl | hy
        · omega
        · have := hall e rfl y hy; omega

theorem selectFrom_of_apart {last : Option Edit} {es : List Edit} (h : Apart es)
    (hl : ∀ k ∈ last, ∀ e ∈ es, k.stop ≤ e.start) : (selectFrom last es).kept = es := by
  induction es generalizing last with
  | nil => rfl
  | cons e es ih =>
    obtain ⟨he, hes⟩ := List.pairwise_cons.mp h
    have hrest : (selectFrom (some e) es).kept = es := ih hes fun k hk => by
      obtain rfl : e = k := Option.mem_some.mp hk
      exact he
    cases last with
    | none => simp only [selectFrom, hrest]
    | some k =>
      have := hl k rfl e List.mem_cons_self
      simp only [selectFrom, if_neg (show ¬ e.start < k.stop by omega), hrest]

/-- Going through edits in order, what is not kept starts inside something that is. -/
theorem selectFrom_kept_or_inside {last : Option Edit} {es : List Edit}
    (hs : es.Pairwise fun a b => before a b = true) (hl : ∀ k ∈ last, ∀ e ∈ es, before k e = true) :
    ∀ e ∈ es, e ∈ (selectFrom last es).kept ∨
      ∃ k, (k ∈ last ∨ k ∈ (selectFrom last es).kept) ∧ k.start ≤ e.start ∧ e.start < k.stop := by
  induction es generalizing last with
  | nil => intro e he; cases he
  | cons e es ih =>
    obtain ⟨he, hes⟩ := List.pairwise_cons.mp hs
    -- whatever becomes of `e`, the rest is gone through behind some edit that comes before it all
    have keep : ∀ x ∈ e :: es, x ∈ e :: (selectFrom (some e) es).kept ∨
        ∃ k, k ∈ e :: (selectFrom (some e) es).kept ∧ k.start ≤ x.start ∧ x.start < k.stop := by
      intro x hx
      rcases List.mem_cons.mp hx with rfl | hx
      · exact Or.inl List.mem_cons_self
      · have hfirst : ∀ k ∈ some e, ∀ y ∈ es, before k y = true := fun k hk => Option.mem_some.mp hk ▸ he
        rcases ih hes hfirst x hx with h | ⟨k, hk, hin⟩
        · exact Or.inl (List.mem_cons_of_mem e h)
        · rcases hk with hk | hk
          · obtain rfl : e = k := Option.mem_some.mp hk
            exact Or.inr ⟨e, List.mem_cons_self, hin⟩
          · exact Or.inr ⟨k, List.mem_cons_of_mem e hk, hin⟩
    cases last with
    | none =>
      intro x hx
      rcases keep x hx with h | ⟨k, hk, hin⟩
      · exact Or.inl h
      · exact Or.inr ⟨k, Or.inr hk, hin⟩
    | some k =>
      simp only [selectFrom]
      split
      · rename_i hlt
        intro x hx
        rcases List.mem_cons.mp hx with rfl | hx
        · exact Or.inr ⟨k, Or.inl rfl, start_le_of_before (hl k rfl x List.mem_cons_self), hlt⟩
        · exact ih hes (fun j hj y hy => hl j hj y (List.mem_cons_of_mem e hy)) x hx
      · intro x hx
        rcases keep x hx with h | ⟨j, hj, hin⟩
        · exact Or.inl h
        · exact Or.inr ⟨j, Or.inr hj, hin⟩

theorem mem_of_kept {es : List Edit} {e : Edit} (h : e ∈ (select es).kept) : e ∈ es :=
  (Sorting.mem_sortBy before).mp ((selectFrom_sublist none _).subset h)

theorem kept_apart {es : List Edit} (h : ∀ e ∈ es, e.start ≤ e.stop) : Apart (select es).kept :=
  (selectFrom_apart fun e he => h e ((Sorting.mem_sortBy before).mp he)).1

/-- An edit that is not kept starts inside one that is. -/
theorem kept_or_inside {es : List Edit} {e : Edit} (he : e ∈ es) :
    e ∈ (select es).kept ∨ ∃ k ∈ (select es).kept, k.start ≤ e.start ∧ e.start < k.stop := by
  have hnone : ∀ k ∈ (none : Option Edit), ∀ x ∈ Sorting.sortBy before es, before k x = true :=
    fun k hk => by cases hk
  rcases selectFrom_kept_or_inside (sorted_pairwise es) hnone e ((Sorting.mem_sortBy before).mpr he) with
    h | ⟨k, hk, hin⟩
  · exact Or.inl h
  · exact Or.inr ⟨k, hk.resolve_left (by simp), hin⟩

/-- Edits that are apart are all kept, in the order they have. -/
theorem select_of_apart {es : List Edit} (h : Apart es) (hle : ∀ e ∈ es, e.start ≤ e.stop) :
    (select es).kept = es := by
  have hs : Sorting.sortBy before es = es := by
    refine Sorting.sortBy_of_pairwise before (h.imp_of_mem fun {a b} ha hb hab => ?_)
    have ha := hle a ha
    have hb := hle b hb
    simp only [before, Bool.or_eq_true, Bool.and_eq_true, decide_eq_true_eq, beq_iff_eq]; omega
  rw [select, hs]
  exact selectFrom_of_apart h fun k hk => by cases hk

theorem select_kept {es : List Edit} (h : ∀ e ∈ es, e.start ≤ e.stop) :
    (select (select es).kept).kept = (select es).kept :=
  select_of_apart (kept_apart h) fun e he => h e (mem_of_kept he)

/-! ## What making edits does -/

/-- `t`, at offset `i` of a document, has the ranges of `es` between gaps, and `u` has the new texts there. -/
inductive Spliced : Nat → List Edit → Text → Text → Prop
  | done (i : Nat) (t : Text) : Spliced i [] t t
  | edit (i : Nat) (e : Edit) {es : List Edit} (gap cut : Text) {t u : Text} : e.start = i + gap.length →
      e.stop = e.start + cut.length → Spliced e.stop es t u →
        Spliced i (e :: es) (gap ++ cut ++ t) (gap ++ e.new ++ u)

/-- Edits that are apart and lie within a text can be made in it. -/
theorem exists_spliced {es : List Edit} (h : Apart es) (hle : ∀ e ∈ es, e.start ≤ e.stop) :
    ∀ {i : Nat} {t : Text}, (∀ e ∈ es, i ≤ e.start) → (∀ e ∈ es, e.stop ≤ i + t.length) →
      ∃ u, Spliced i es t u := by
  induction es with
  | nil => intro i t _ _; exact ⟨t, .done i t⟩
  | cons e es ih =>
    intro i t hi ht
    obtain ⟨he, hes⟩ := List.pairwise_cons.mp h
    have h1 := hi e List.mem_cons_self
    have h2 := ht e List.mem_cons_self
    have h3 := hle e List.mem_cons_self
    obtain ⟨gap, cut, rest, rfl, hgap, hcut⟩ : ∃ gap cut rest : Text, t = gap ++ cut ++ rest ∧
        gap.length = e.start - i ∧ cut.length = e.stop - e.start :=
      ⟨t.take (e.start - i), (t.drop (e.start - i)).take (e.stop - e.start),
        (t.drop (e.start - i)).drop (e.stop - e.start),
        by rw [List.append_assoc, List.take_append_drop, List.take_append_drop], by rw [List.length_take]; omega,
        by rw [List.length_take, List.length_drop]; omega⟩
    obtain ⟨u, hu⟩ := ih hes (fun x hx => hle x (List.mem_cons_of_mem e hx)) (i := e.stop) (t := rest) he
      (fun x hx => by
        have := ht x (List.mem_cons_of_mem e hx)
        simp only [List.length_append] at this; omega)
    exact ⟨gap ++ e.new ++ u, .edit i e gap cut (by omega) (by omega) hu⟩

theorem replaceAll_append (size : Nat) (es : List Edit) (e : Edit) (t : Text) :
    replaceAll size (es ++ [e]) t =
      (replaceAll size es t).bind fun u => if size < e.stop then .error (.outside e.start e.stop) else .ok
      (replace u e) := by
  induction es generalizing t with
  | nil => simp only [List.nil_append, replaceAll, Except.bind]
  | cons x es ih =>
    simp only [List.cons_append, replaceAll]
    split
    · rfl
    · exact ih _

/-- Making edits from the last to the first gives what they give from left to right. -/
theorem replaceAll_spliced {size i : Nat} {es : List Edit} {t u : Text} (h : Spliced i es t u) :
    ∀ front : Text, front.length = i → (∀ e ∈ es, e.stop ≤ size) →
      replaceAll size es.reverse (front ++ t) = .ok (front ++ u) := by
  induction h with
  | done i t => intro front _ _; rfl
  | edit i e gap cut hstart hstop _ ih =>
    intro front hf hs
    -- the later edits are made first, behind `front`, the gap and the range of `e`
    have hrest := ih (front ++ gap ++ cut) (by simp only [List.length_append]; omega)
      (fun x hx => hs x (List.mem_cons_of_mem e hx))
    have he : ¬ size < e.stop := Nat.not_lt.mpr (hs e List.mem_cons_self)
    simp only [← List.append_assoc]
    rw [List.reverse_cons, replaceAll_append, hrest]
    simp only [Except.bind, if_neg he, replace]
    rw [List.drop_left' (by simp only [List.length_append]; omega), List.append_assoc (front ++ gap),
      List.take_left' (by simp only [List.length_append]; omega)]

/-- Edits that lie within a text can be applied: the kept ones are made, and nothing else changes. -/
theorem apply_spliced {t : Text} {es : List Edit} (hle : ∀ e ∈ es, e.start ≤ e.stop)
    (ht : ∀ e ∈ es, e.stop ≤ t.length) :
    ∃ u, apply t es = .ok u ∧ Spliced 0 (select es).kept t u := by
  have hk : ∀ e ∈ (select es).kept, e.stop ≤ t.length := fun e he => ht e (mem_of_kept he)
  obtain ⟨u, hu⟩ := exists_spliced (kept_apart hle) (fun e he => hle e (mem_of_kept he)) (i := 0) (t := t)
    (fun e _ => Nat.zero_le _) (fun e he => by have := hk e he; omega)
  exact ⟨u, replaceAll_spliced hu [] rfl hk, hu⟩

/-- The kept edits alone give the same. -/
theorem apply_kept {t : Text} {es : List Edit} (hle : ∀ e ∈ es, e.start ≤ e.stop) :
    apply t (select es).kept = apply t es := by
  rw [apply, select_kept hle, apply]

/-- What holds of all characters of a text and of the new texts holds of all characters of what they are spliced to. -/
theorem Spliced.forall_mem {P : Char → Prop} {i : Nat} {es : List Edit} {t u : Text} (h : Spliced i es t u)
    (ht : ∀ c ∈ t, P c) (hes : ∀ e ∈ es, ∀ c ∈ e.new, P c) : ∀ c ∈ u, P c := by
  induction h with
  | done => exact ht
  | edit i e gap cut _ _ _ ih =>
    intro c hc
    rcases List.mem_append.mp hc with hc | hc
    · rcases List.mem_append.mp hc with hc | hc
      · exact ht c (by simp [hc])
      · exact hes e List.mem_cons_self c hc
    · exact ih (fun c hc => ht c (by simp [hc])) (fun x hx => hes x (List.mem_cons_of_mem e hx)) c hc

end ClassTidy.Edit
