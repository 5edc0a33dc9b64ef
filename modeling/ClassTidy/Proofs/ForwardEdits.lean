/-
  ClassTidy.Proofs.ForwardEdits — edits made from left to right.

  `forward` reads a text once and copies it: the gap up to an edit, the new text, and on from
  where the edit stops. It knows neither a text that changes its length under the edits nor
  a last edit to compare with. Selecting goes through the edits in order of their ranges and
  compares each with the last one kept only; still every edit that is skipped starts inside
  one that is kept (`skipped_inside`), and an edit is either kept or skipped
  (`selectFrom_perm`), also where the same edit is given twice.

  Edits that insert at one place have one range, and sorting leaves them as they were given.
  All of them are kept, unless the place lies within the range of a kept edit
  (`kept_insertions`). Edits of different ranges can be given in any order (`select_of_perm`).

  Proved (`apply_forward`): applying edits, which is done from the end backwards, gives what
  the kept ones give from left to right, and fails exactly if one of these reaches beyond
  the text.
-/
import ClassTidy.Proofs.Splice

namespace ClassTidy.Edit

/-- The text from offset `i` on, with edits made from left to right. -/
def forward (t : Text) (i : Nat) : List Edit → Text
  | [] => t.drop i
  | e :: es => Text.slice t i e.start ++ e.new ++ forward t e.stop es

/-- What an edit replaces. -/
def range (e : Edit) : Nat × Nat := (e.start, e.stop)

/-! ## Edits in order -/

theorem before_iff (a b : Edit) :
    before a b = true ↔ a.start < b.start ∨ a.start = b.start ∧ a.stop ≤ b.stop := by
  simp only [before, Bool.or_eq_true, Bool.and_eq_true, decide_eq_true_eq, beq_iff_eq]

theorem range_eq_iff (a b : Edit) : a.range = b.range ↔ before a b = true ∧ before b a = true := by
  rw [before_iff, before_iff, range, range, Prod.mk.injEq]
  omega

/-- The same edits by where they start and then by where they stop; those of one range are in the order they had. -/
structure Sorts (es sorted : List Edit) : Prop where
  perm : sorted.Perm es
  ascending : sorted.Pairwise fun a b => a.start < b.start ∨ a.start = b.start ∧ a.stop ≤ b.stop
  stable : ∀ r, sorted.filter (fun e => e.range = r) = es.filter fun e => e.range = r

theorem sorts_sortBy (es : List Edit) : Sorts es (Sorting.sortBy before es) where
  perm := Sorting.sortBy_perm before es
  ascending := (sorted_pairwise es).imp fun {a b} h => (before_iff a b).mp h
  stable r := Sorting.filter_sortBy before fun a _ b _ ha hb => by
    have hab : a.range = b.range := (of_decide_eq_true ha).trans (of_decide_eq_true hb).symm
    exact ((range_eq_iff a b).mp hab).1

/-- Edits of different ranges are sorted into one list, however they are given. -/
theorem sortBy_of_perm {es es' : List Edit} (hdistinct : (es.map range).Nodup) (hperm : es'.Perm es) :
    Sorting.sortBy before es' = Sorting.sortBy before es := by
  have hsorted : (Sorting.sortBy before es').Perm (Sorting.sortBy before es) :=
    (Sorting.sortBy_perm before es').trans (hperm.trans (Sorting.sortBy_perm before es).symm)
  refine hsorted.eq_of_pairwise (fun a b ha hb hab hba => ?_) (sorted_pairwise es') (sorted_pairwise es)
  have ha' : a ∈ es := hperm.mem_iff.mp ((Sorting.mem_sortBy before).mp ha)
  have hb' : b ∈ es := (Sorting.mem_sortBy before).mp hb
  exact List.inj_on_of_nodup_map hdistinct ha' hb' ((range_eq_iff a b).mpr ⟨hab, hba⟩)

theorem select_of_perm {es es' : List Edit} (hdistinct : (es.map range).Nodup) (hperm : es'.Perm es) :
    select es' = select es := by
  rw [select, sortBy_of_perm hdistinct hperm, select]

/-! ## Skipped edits -/

/-- Every edit is kept or skipped. -/
theorem selectFrom_perm (last : Option Edit) (es : List Edit) :
    ((selectFrom last es).kept ++ (selectFrom last es).skipped.map (·.1)).Perm es := by
  induction es generalizing last with
  | nil => exact List.Perm.refl _
  | cons e es ih =>
    unfold selectFrom
    split
    · split
      · exact List.perm_middle.trans ((ih _).cons e)
      · exact (ih _).cons e
    · exact (ih _).cons e

/-- Going through edits in order, what is skipped comes behind an edit that is kept and starts before that one stops. -/
theorem selectFrom_skipped {last : Option Edit} {es : List Edit} (hs : es.Pairwise fun a b => before a b = true)
    (hl : ∀ k ∈ last, ∀ e ∈ es, before k e = true) :
    ∀ x ∈ (selectFrom last es).skipped,
      (x.2 ∈ last ∨ x.2 ∈ (selectFrom last es).kept) ∧ before x.2 x.1 = true ∧ x.1.start < x.2.stop := by
  induction es generalizing last with
  | nil => intro x hx; cases hx
  | cons e es ih =>
    obtain ⟨he, hes⟩ := List.pairwise_cons.mp hs
    have hfirst : ∀ k ∈ some e, ∀ y ∈ es, before k y = true := fun k hk => Option.mem_some.mp hk ▸ he
    -- if `e` is kept, it is the last one kept for the rest
    have keep : ∀ x ∈ (selectFrom (some e) es).skipped,
        (x.2 ∈ last ∨ x.2 ∈ e :: (selectFrom (some e) es).kept) ∧ before x.2 x.1 = true ∧
          x.1.start < x.2.stop := by
      intro x hx
      obtain ⟨hk, hin⟩ := ih hes hfirst x hx
      refine ⟨Or.inr ?_, hin⟩
      rcases hk with hk | hk
      · exact Option.mem_some.mp hk ▸ List.mem_cons_self
      · exact List.mem_cons_of_mem e hk
    cases last with
    | none => exact keep
    | some k =>
      simp only [selectFrom]
      split
      · rename_i hlt
        intro x hx
        rcases List.mem_cons.mp hx with rfl | hx
        · exact ⟨Or.inl rfl, hl k rfl e List.mem_cons_self, hlt⟩
        · exact ih hes (fun j hj y hy => hl j hj y (List.mem_cons_of_mem e hy)) x hx
      · exact keep

theorem select_skipped {es : List Edit} {x : Edit × Edit} (hx : x ∈ (select es).skipped) :
    x.2 ∈ (select es).kept ∧ before x.2 x.1 = true ∧ x.1.start < x.2.stop := by
  have hnone : ∀ k ∈ (none : Option Edit), ∀ e ∈ Sorting.sortBy before es, before k e = true :=
    fun k hk => by cases hk
  obtain ⟨hk, hin⟩ := selectFrom_skipped (sorted_pairwise es) hnone x hx
  exact ⟨hk.resolve_left (by simp), hin⟩

/-- A skipped edit starts inside a kept one. -/
theorem skipped_inside {es : List Edit} {x : Edit × Edit} (hx : x ∈ (select es).skipped) :
    x.2 ∈ (select es).kept ∧ x.2.start ≤ x.1.start ∧ x.1.start < x.2.stop := by
  obtain ⟨hk, hbefore, hlt⟩ := select_skipped hx
  exact ⟨hk, start_le_of_before hbefore, hlt⟩

/-- An edit that is not kept comes behind a kept one that it starts inside of. -/
theorem kept_or_behind {es : List Edit} {e : Edit} (he : e ∈ es) :
    e ∈ (select es).kept ∨ ∃ k ∈ (select es).kept, before k e = true ∧ e.start < k.stop := by
  have hmem : e ∈ (select es).kept ++ (select es).skipped.map (·.1) :=
    (selectFrom_perm none _).mem_iff.mpr ((Sorting.mem_sortBy before).mpr he)
  rcases List.mem_append.mp hmem with h | h
  · exact Or.inl h
  · obtain ⟨x, hx, rfl⟩ := List.mem_map.mp h
    exact Or.inr ⟨x.2, select_skipped hx⟩

/-- Kept edits that overlap are one edit. -/
theorem kept_unique {es : List Edit} (hle : ∀ e ∈ es, e.start ≤ e.stop) {a b : Edit} (ha : a ∈ (select es).kept)
    (hb : b ∈ (select es).kept) (hab : a.start < b.stop) (hba : b.start < a.stop) : a = b := by
  by_contra hne
  have hpair : a ≠ b → a.stop ≤ b.start ∨ b.stop ≤ a.start :=
    (List.Pairwise.forall_of_forall_of_flip (R := fun x y => x ≠ y → x.stop ≤ y.start ∨ y.stop ≤ x.start)
      (fun x _ h => absurd rfl h) ((kept_apart hle).imp fun h _ => Or.inl h)
      ((kept_apart hle).imp fun h _ => Or.inr h)) ha hb
  rcases hpair hne with h | h <;> omega

/-- Edits that insert at one place are all kept, in the order they are given, unless a kept edit replaces what stands
around that place. -/
theorem kept_insertions {es : List Edit} (hle : ∀ e ∈ es, e.start ≤ e.stop) (p : Nat) :
    (select es).kept.filter (fun e => e.range = (p, p)) =
      if ∃ k ∈ (select es).kept, k.start < p ∧ p < k.stop then [] else es.filter fun e => e.range = (p, p) := by
  have hrange : ∀ {e : Edit}, e.range = (p, p) → e.start = p ∧ e.stop = p := fun h => Prod.mk.inj h
  split
  · rename_i h
    obtain ⟨k, hk, hstart, hstop⟩ := h
    refine List.filter_eq_nil_iff.mpr fun e he hp => ?_
    obtain ⟨hes, hee⟩ := hrange (of_decide_eq_true hp)
    obtain rfl : k = e := kept_unique hle hk he (by omega) (by omega)
    omega
  · rename_i h
    have hskipped : ((select es).skipped.map (·.1)).filter (fun e => e.range = (p, p)) = [] := by
      refine List.filter_eq_nil_iff.mpr fun e he hp => ?_
      obtain ⟨x, hx, rfl⟩ := List.mem_map.mp he
      obtain ⟨hes, hee⟩ := hrange (of_decide_eq_true hp)
      obtain ⟨hk, hbefore, hlt⟩ := select_skipped hx
      rw [before_iff] at hbefore
      exact h ⟨x.2, hk, by omega, by omega⟩
    have hcount := ((selectFrom_perm none (Sorting.sortBy before es)).filter fun e => e.range = (p, p)).length_eq
    rw [List.filter_append, ← select, hskipped, List.append_nil] at hcount
    rw [← (sorts_sortBy es).stable]
    exact ((selectFrom_sublist none _).filter _).eq_of_length hcount

/-! ## Making edits -/

/-- What edits splice is what they give from left to right. -/
theorem Spliced.eq_forward {t : Text} {i : Nat} {es : List Edit} {s u : Text} (h : Spliced i es s u)
    (hs : s = t.drop i) :
    u = forward t i es := by
  induction h with
  | done i s => exact hs
  | @edit i e es gap cut rest u hstart hstop _ ih =>
    have hgap : Text.slice t i e.start = gap := by
      rw [Text.slice, ← hs, hstart, Nat.add_sub_cancel_left, List.append_assoc, List.take_left]
    have hrest : rest = t.drop e.stop := by
      have hlen : e.stop = i + (gap ++ cut).length := by rw [List.length_append]; omega
      rw [hlen, ← List.drop_drop, ← hs, List.drop_left]
    rw [forward, hgap, ih hrest]

theorem replaceAll_error {size : Nat} {es : List Edit} {t : Text} :
    (∃ i j, replaceAll size es t = .error (.outside i j)) ↔ ∃ e ∈ es, size < e.stop := by
  induction es generalizing t with
  | nil => simp [replaceAll]
  | cons e es ih =>
    rw [replaceAll]
    split
    · rename_i h
      exact ⟨fun _ => ⟨e, List.mem_cons_self, h⟩, fun _ => ⟨e.start, e.stop, rfl⟩⟩
    · rename_i h
      rw [ih, List.exists_mem_cons_iff, or_iff_right h]

theorem apply_ok {t : Text} {es : List Edit} (hle : ∀ e ∈ es, e.start ≤ e.stop)
    (ht : ∀ k ∈ (select es).kept, k.stop ≤ t.length) : apply t es = .ok (forward t 0 (select es).kept) := by
  obtain ⟨u, hu, hspliced⟩ := apply_spliced (fun e he => hle e (mem_of_kept he)) ht
  rw [apply_kept hle] at hu
  rw [select_kept hle] at hspliced
  rw [hu, hspliced.eq_forward rfl]

/-- Applying edits, told from left to right. The kept edits are among the sorted ones and apart, and every other one
starts inside a kept one. Edits can be applied exactly if the kept ones lie within the text, and then the gaps of the
text and the new texts follow each other, several insertions at one place in the order they are given. Edits of
different ranges may come in any order, and selecting among kept edits keeps them all. -/
theorem apply_forward (t : Text) (es : List Edit) (hle : ∀ e ∈ es, e.start ≤ e.stop) :
    (∃ sorted, Sorts es sorted ∧ (select es).kept.Sublist sorted) ∧
    (select es).kept.Pairwise (fun a b => a.stop ≤ b.start) ∧
    ((select es).kept ++ (select es).skipped.map (·.1)).Perm es ∧
    (∀ x ∈ (select es).skipped, x.2 ∈ (select es).kept ∧ x.2.start ≤ x.1.start ∧ x.1.start < x.2.stop) ∧
    ((∃ i j, apply t es = .error (.outside i j)) ↔ ∃ k ∈ (select es).kept, t.length < k.stop) ∧
    ((∀ k ∈ (select es).kept, k.stop ≤ t.length) → apply t es = .ok (forward t 0 (select es).kept)) ∧
    (∀ p, (select es).kept.filter (fun e => e.range = (p, p)) =
      if ∃ k ∈ (select es).kept, k.start < p ∧ p < k.stop then [] else es.filter fun e => e.range = (p, p)) ∧
    ((es.map range).Nodup → ∀ es', es'.Perm es → (select es').kept = (select es).kept ∧
      apply t es' = apply t es) ∧
    (select (select es).kept).kept = (select es).kept := by
  have hsorts := sorts_sortBy es
  refine ⟨⟨_, hsorts, selectFrom_sublist none _⟩, kept_apart hle, (selectFrom_perm none _).trans hsorts.perm,
    fun x hx => skipped_inside hx, ?_, apply_ok hle, kept_insertions hle, fun hdistinct es' hperm => ?_,
      select_kept hle⟩
  · rw [apply, replaceAll_error]
    simp only [List.mem_reverse]
  · have hselect := select_of_perm hdistinct hperm
    exact ⟨by rw [hselect], by rw [apply, hselect, apply]⟩

/-- Two insertions at one place, a deletion that starts there, an edit inside that one, and an insertion where it
stops. -/
theorem apply_forward_touching :
    let t : Text := "abcdef".toList
    let es : List Edit :=
      [⟨1, 4, "bcd".toList, []⟩, ⟨4, 4, [], ['z']⟩, ⟨1, 1, [], ['x']⟩, ⟨2, 3, ['c'], ['w']⟩,
      ⟨1, 1, [], ['y']⟩]
    (∀ e ∈ es, e.start ≤ e.stop) ∧ apply t es = .ok "axyzef".toList := by
  intro t es
  have hle : ∀ e ∈ es, e.start ≤ e.stop := by decide
  obtain ⟨-, -, -, -, -, hok, -⟩ := apply_forward t es hle
  have hkept : (select es).kept =
      [⟨1, 1, [], ['x']⟩, ⟨1, 1, [], ['y']⟩, ⟨1, 4, "bcd".toList, []⟩, ⟨4, 4, [], ['z']⟩] := by decide
  refine ⟨hle, ?_⟩
  rw [hok (by rw [hkept]; decide), hkept]
  decide

end ClassTidy.Edit
