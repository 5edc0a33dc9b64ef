/-
  ClassTidy.Proofs.NestedEdits — which of several nested edits is kept.

  Class strings can stand inside each other, and then so do the edits that sort them. An
  edit that starts inside another one is skipped, so as long as no two edits start at the
  same place the outermost ones are kept. Of edits that start together, however, the one that
  stops first is gone through first: it is kept, all longer ones start inside of it and are
  skipped, and edits further on inside of those are kept again.

  `shortest` are the edits that stop first among those of their start. Kept edits do not
  overlap, so every kept edit is one of these (`shortest_of_kept`).

  Proved (`kept_nested`): the kept edits are the outermost ones of the shortest, and they are
  the outermost of all exactly if no outermost edit shares its start with another one.
-/
import Mathlib.Data.Finset.Max
import ClassTidy.Proofs.ForwardEdits

namespace ClassTidy.Edit

/-- What `a` replaces is part of what `b` replaces. -/
def Within (a b : Edit) : Prop := b.start ≤ a.start ∧ a.stop ≤ b.stop

instance (a b : Edit) : Decidable (Within a b) := inferInstanceAs (Decidable (_ ∧ _))

/-- Edits that replace something, no two of them the same range, and any two of them apart or one within the other. -/
structure Nested (es : List Edit) : Prop where
  filled : ∀ e ∈ es, e.start < e.stop
  distinct : (es.map range).Nodup
  nested : ∀ a ∈ es, ∀ b ∈ es, a.stop ≤ b.start ∨ b.stop ≤ a.start ∨ Within a b ∨ Within b a

/-- An edit that is within no other one. -/
def Outermost (es : List Edit) (e : Edit) : Prop := e ∈ es ∧ ∀ f ∈ es, Within e f → f = e

/-- The edits that no edit of the same start stops before. -/
def shortest (es : List Edit) : List Edit := es.filter fun e => ∀ f ∈ es, f.start = e.start → e.stop ≤ f.stop

theorem mem_shortest {es : List Edit} {e : Edit} :
    e ∈ shortest es ↔ e ∈ es ∧ ∀ f ∈ es, f.start = e.start → e.stop ≤ f.stop := by
  rw [shortest, List.mem_filter, decide_eq_true_eq]

/-! ## Kept edits -/

/-- Of edits that start together only one that stops first is kept. -/
theorem shortest_of_kept {es : List Edit} (hfilled : ∀ e ∈ es, e.start < e.stop) {e : Edit}
    (he : e ∈ (select es).kept) :
    e ∈ shortest es := by
  have hle : ∀ x ∈ es, x.start ≤ x.stop := fun x hx => (hfilled x hx).le
  have hes := mem_of_kept he
  have hlen := hfilled e hes
  refine mem_shortest.mpr ⟨hes, fun f hf hstart => ?_⟩
  have hflen := hfilled f hf
  rcases kept_or_behind hf with hk | ⟨k, hk, hbefore, hlt⟩
  · rw [kept_unique hle he hk (by omega) (by omega)]
  · -- the kept edit that `f` comes behind overlaps `e`, so it is `e`
    have hkstart := start_le_of_before hbefore
    obtain rfl : e = k := kept_unique hle he hk (by omega) (by omega)
    rw [before_iff] at hbefore
    omega

/-! ## Nested edits -/

namespace Nested

variable {es : List Edit} {a b e : Edit}

theorem le (h : Nested es) : ∀ x ∈ es, x.start ≤ x.stop := fun x hx => (h.filled x hx).le

theorem eq_of_range (h : Nested es) (ha : a ∈ es) (hb : b ∈ es) (hstart : a.start = b.start)
    (hstop : a.stop = b.stop) :
    a = b :=
  List.inj_on_of_nodup_map h.distinct ha hb (Prod.ext hstart hstop)

/-- An edit that starts inside another one, and not with it, is within that one. -/
theorem within (h : Nested es) (ha : a ∈ es) (hb : b ∈ es) (hstart : b.start < a.start) (hstop : a.start < b.stop) :
    Within a b := by
  have hfilled := h.filled a ha
  rcases h.nested a ha b hb with hab | hba | hw | hw
  · omega
  · omega
  · exact hw
  · have := hw.1
    omega

/-- Among the shortest edits, one that comes behind another and starts inside of it is within that one. -/
theorem within_of_behind (h : Nested es) (ha : a ∈ shortest es) (hb : b ∈ shortest es) (hbefore : before b a = true)
    (hlt : a.start < b.stop) : Within a b := by
  obtain ⟨hamem, hshort⟩ := mem_shortest.mp ha
  obtain ⟨hbmem, -⟩ := mem_shortest.mp hb
  rw [before_iff] at hbefore
  rcases hbefore with hstart | ⟨hstart, -⟩
  · exact h.within hamem hbmem hstart hlt
  · exact ⟨hstart.le, hshort b hbmem hstart⟩

theorem kept_iff (h : Nested es) : e ∈ (select es).kept ↔ Outermost (shortest es) e := by
  constructor
  · intro he
    have hlen := h.filled e (mem_of_kept he)
    refine ⟨shortest_of_kept h.filled he, fun f hf hw => ?_⟩
    obtain ⟨hstart, hstop⟩ := hw
    have hfmem := (mem_shortest.mp hf).1
    rcases kept_or_behind hfmem with hk | ⟨k, hk, hbefore, hlt⟩
    · exact kept_unique h.le hk he (by omega) (by omega)
    · -- `e` is within `f` and `f` within a kept edit, which is `e` again
      obtain ⟨hkstart, hkstop⟩ := h.within_of_behind hf (shortest_of_kept h.filled hk) hbefore hlt
      obtain rfl : k = e := kept_unique h.le hk he (by omega) (by omega)
      exact h.eq_of_range hfmem (mem_of_kept hk) (by omega) (by omega)
  · rintro ⟨he, houter⟩
    rcases kept_or_behind (mem_shortest.mp he).1 with hk | ⟨k, hk, hbefore, hlt⟩
    · exact hk
    · have hkshort := shortest_of_kept h.filled hk
      rwa [← houter k hkshort (h.within_of_behind he hkshort hbefore hlt)]

/-- Every edit is within an outermost one. -/
theorem exists_outermost (h : Nested es) (he : e ∈ es) : ∃ o, Outermost es o ∧ Within e o := by
  have hself : e ∈ es.toFinset.filter (Within e) :=
    Finset.mem_filter.mpr ⟨List.mem_toFinset.mpr he, Nat.le_refl _, Nat.le_refl _⟩
  obtain ⟨o, ho, hlongest⟩ :=
    (es.toFinset.filter (Within e)).exists_max_image (fun f => f.stop - f.start) ⟨e, hself⟩
  obtain ⟨homem, hwithin⟩ := Finset.mem_filter.mp ho
  rw [List.mem_toFinset] at homem
  refine ⟨o, ⟨homem, fun f hf hw => ?_⟩, hwithin⟩
  have hlength := hlongest f
    (Finset.mem_filter.mpr ⟨List.mem_toFinset.mpr hf, hw.1.trans hwithin.1, hwithin.2.trans hw.2⟩)
  have hfilled := h.filled o homem
  obtain ⟨hstart, hstop⟩ := hw
  exact h.eq_of_range hf homem (by omega) (by omega)

/-- An outermost edit that starts alone is an outermost one of the shortest. -/
theorem outermost_shortest (he : Outermost es e) (halone : ∀ f ∈ es, f.start = e.start → f = e) :
    Outermost (shortest es) e := by
  refine ⟨mem_shortest.mpr ⟨he.1, fun f hf hstart => ?_⟩, fun f hf hw => he.2 f (mem_shortest.mp hf).1 hw⟩
  rw [halone f hf hstart]

theorem kept_outermost_iff (h : Nested es) :
    (∀ e, e ∈ (select es).kept ↔ Outermost es e) ↔ ∀ e, Outermost es e →
    ∀ f ∈ es, f.start = e.start → f = e := by
  constructor
  · intro hkept e he f hf hstart
    have hshort := (mem_shortest.mp (shortest_of_kept h.filled ((hkept e).mpr he))).2 f hf hstart
    exact he.2 f hf ⟨hstart.le, hshort⟩
  · intro halone e
    refine ⟨fun he => ?_, fun he => h.kept_iff.mpr (outermost_shortest he (halone e he))⟩
    -- the outermost edit around `e` is one of the shortest, and so it is `e`
    obtain ⟨o, ho, hw⟩ := h.exists_outermost (mem_of_kept he)
    have heq : o = e := (h.kept_iff.mp he).2 o (outermost_shortest ho (halone o ho)).1 hw
    exact heq ▸ ho

end Nested

/-- Of nested edits those are kept, in order, that stop first among the edits of their start and are within no other
such edit. They are the edits that are within no other edit at all exactly if none of these starts together with
another one. -/
theorem kept_nested (es : List Edit) (h : Nested es) :
    (select es).kept.Pairwise (fun a b => a.stop ≤ b.start) ∧
    (∀ e, e ∈ (select es).kept ↔ Outermost (shortest es) e) ∧
    ((∀ e, e ∈ (select es).kept ↔ Outermost es e) ↔ ∀ e, Outermost es e →
      ∀ f ∈ es, f.start = e.start → f = e) :=
  ⟨kept_apart h.le, fun _ => h.kept_iff, h.kept_outermost_iff⟩

/-- Two edits that start together and one further on within the longer of them: the longer one, which is the only
outermost edit, is skipped, and the others are kept. -/
theorem kept_nested_same_start :
    let outer : Edit := ⟨0, 10, "abcdefghij".toList, []⟩
    let inner : Edit := ⟨0, 4, "abcd".toList, []⟩
    let later : Edit := ⟨5, 8, "fgh".toList, []⟩
    Nested [later, outer, inner] ∧ (∀ e, Outermost [later, outer, inner] e ↔ e = outer) ∧
      (select [later, outer, inner]).kept = [inner, later] ∧
      ¬ ∀ e, e ∈ (select [later, outer, inner]).kept ↔ Outermost [later, outer, inner] e := by
  intro outer inner later
  have hnested : Nested [later, outer, inner] := ⟨by decide, by decide, by decide⟩
  have houter : Outermost [later, outer, inner] outer := ⟨by decide, by decide⟩
  obtain ⟨-, -, hiff⟩ := kept_nested [later, outer, inner] hnested
  refine ⟨hnested, fun e => ⟨fun he => ?_, fun he => he ▸ houter⟩, by decide, fun hall => ?_⟩
  · have hin : Within e outer := by
      have hmem : ∀ x ∈ [later, outer, inner], Within x outer := by decide
      exact hmem e he.1
    exact (he.2 outer (by decide) hin).symm
  · have hsame : inner = outer := hiff.mp hall outer houter inner (by decide) rfl
    exact absurd hsame (by decide)

end ClassTidy.Edit
