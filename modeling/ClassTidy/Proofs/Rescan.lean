/-
  ClassTidy.Proofs.Rescan — the class strings of a document after its edits were made.

  The document before and after is one list of pieces, with a hole for each edit that was
  made (`exists_pieces`). If the rules of the language are fences and all class strings
  found before are quiet, a class string found after is either the new filling of a hole,
  which is the canonical form of the old one, or has no hole in it. In that case it was
  found before, as it is; and if it were not in its canonical form there would have been
  an edit for it, made where it stands, so that a hole would stand there
  (`rescans_of_quiet`).

  A hole has to stand between marks, and a class string is looked for by its text alone, so
  it can be found in front of the fence. Without blanks in the opening that happens to
  single classes only, which are in their canonical form (`between_of_spans`).
-/
import ClassTidy.Proofs.Fencings
import ClassTidy.Proofs.Quiet
import ClassTidy.Proofs.ServiceEdits

namespace ClassTidy

open Piece (fill chars)

/-! ## Edits as holes -/

namespace Fencing

variable {F : Fencing}

/-- A mark stands in front of an offset. -/
def behind (F : Fencing) (t : Text) : Nat → Bool
  | 0 => false
  | i + 1 => t[i]?.any fun c => decide (c ∈ F.marks)

theorem Between.behind {t : Text} {i j : Nat} (h : F.Between t i j) : F.behind t i = true := by
  obtain ⟨k, rfl, c, hc, hget⟩ := h.front
  simp [Fencing.behind, hget, hc]

theorem framed_chars (F : Fencing) (k : Bool) (s : Text) : Framed F k (chars s) := by
  induction s generalizing k with
  | nil => trivial
  | cons c s ih => exact ih _

/-- Characters in front of pieces leave them as they are. -/
theorem framed_append {t s rest : Text} {ps : List Piece} {i : Nat} (ht : t.drop i = s ++ rest)
    (h : Framed F (F.behind t (i + s.length)) ps) : Framed F (F.behind t i) (chars s ++ ps) := by
  induction s generalizing i with
  | nil => exact h
  | cons c s ih =>
    have hget : t[i]? = some c := by
      rw [← List.head?_drop, ht]; rfl
    have hnext : t.drop (i + 1) = s ++ rest := by rw [← List.drop_drop, ht]; rfl
    have hrest := ih hnext (by rwa [show i + 1 + s.length = i + (c :: s).length by simp; omega])
    rw [show F.behind t (i + 1) = decide (c ∈ F.marks) by simp [Fencing.behind, hget]] at hrest
    exact hrest

/-- A calm text that stands in a document has no mark at its end. -/
theorem behind_calm {t w rest : Text} {i : Nat} (hw : F.Calm w) (ht : t.drop i = w ++ rest) :
    F.behind t (i + w.length) = false := by
  obtain ⟨v, c, rfl⟩ := (List.eq_nil_or_concat' w).resolve_left hw.ne_nil
  have hget : t[i + v.length]? = some c := by
    rw [← List.getElem?_drop, ht]
    simp
  have hc := (hw.plain c (by simp)).1
  rw [show i + (v ++ [c]).length = i + v.length + 1 by simp; omega]
  simp [Fencing.behind, hget, hc]

/-- An edit that fills a hole: what it replaces and what it puts there are calm, and marks stand around it. -/
structure Fills (F : Fencing) (t : Text) (e : Edit) : Prop where
  old : Text.slice t e.start e.stop = e.old
  oldCalm : F.Calm e.old
  newCalm : F.Calm e.new
  between : F.Between t e.start e.stop

/-- A document and what edits make of it, as pieces. -/
theorem exists_pieces {doc t u : Text} {i : Nat} {es : List Edit} (h : Edit.Spliced i es t u) (hdoc : doc.drop i = t)
    (hes : ∀ e ∈ es, F.Fills doc e) :
    ∃ ps, fill false ps = t ∧ fill true ps = u ∧ Framed F (F.behind doc i) ps ∧
      (∀ old new, .hole old new ∈ ps → ∃ e ∈ es, e.old = old ∧ e.new = new) ∧
      ∀ e ∈ es, ∃ pre post, ps = pre ++ .hole e.old e.new :: post ∧ i + (fill false pre).length = e.start := by
  induction h with
  | done i t =>
    refine ⟨chars t, by simp, by simp, F.framed_chars _ t, fun old new hmem => ?_, fun e he => by cases he⟩
    obtain ⟨c, -, hc⟩ := List.mem_map.mp hmem
    cases hc
  | edit i e gap cut hstart hstop hrest ih =>
    rename_i es t u
    have hf := hes e List.mem_cons_self
    have hcut : doc.drop e.start = cut ++ t := by
      rw [hstart, ← List.drop_drop, hdoc, List.append_assoc, List.drop_left]
    have hback : doc.drop e.stop = t := by rw [hstop, ← List.drop_drop, hcut, List.drop_left]
    obtain rfl : e.old = cut := by
      rw [← hf.old, Text.slice, hcut, hstop, Nat.add_sub_cancel_left, List.take_left]
    obtain ⟨ps, hold, hnew, hframed, hholes, hplaces⟩ := ih hback fun x hx => hes x (List.mem_cons_of_mem e hx)
    rw [hstop, behind_calm hf.oldCalm hcut] at hframed
    -- a mark follows, and it is a character of the pieces
    have hhead : ∀ p ∈ ps.head?, ∃ c ∈ F.marks, p = .char c := by
      intro p hp
      obtain ⟨ps, rfl⟩ := List.head?_eq_some_iff.mp hp
      cases p with
      | hole old new => cases hframed.1
      | char c =>
        obtain ⟨d, hd, hget⟩ := hf.between.back
        rw [← List.head?_drop, hback, ← hold] at hget
        obtain rfl : c = d := Option.some.inj hget
        exact ⟨c, hd, rfl⟩
    refine ⟨chars gap ++ .hole e.old e.new :: ps, by simp [Piece.text, hold], by simp [Piece.text, hnew],
      framed_append (by rw [hdoc, List.append_assoc]) ?_, fun old new hmem => ?_, fun x hx => ?_⟩
    · rw [← hstart]
      exact ⟨hf.between.behind, hf.oldCalm, hf.newCalm, hhead, hframed⟩
    · rcases List.mem_append.mp hmem with hmem | hmem
      · obtain ⟨c, -, hc⟩ := List.mem_map.mp hmem
        cases hc
      · rcases List.mem_cons.mp hmem with hsame | hmem
        · obtain ⟨rfl, rfl⟩ := Piece.hole.inj hsame
          exact ⟨e, List.mem_cons_self, rfl, rfl⟩
        · obtain ⟨x, hx, hxe⟩ := hholes old new hmem
          exact ⟨x, List.mem_cons_of_mem e hx, hxe⟩
    · rcases List.mem_cons.mp hx with rfl | hx
      · exact ⟨chars gap, ps, rfl, by simp [hstart]⟩
      · obtain ⟨pre, post, rfl, hpre⟩ := hplaces x hx
        refine ⟨chars gap ++ .hole e.old e.new :: pre, post, by simp, ?_⟩
        simp only [Piece.fill_append, Piece.fill_chars, Piece.fill_cons, Piece.text, List.length_append]
        simp only [Bool.false_eq_true, if_false]
        omega

/-! ## Content without marks -/

/-- Content without marks is one hole, or has none. -/
theorem content_cases {k b : Bool} {pre content post : List Piece} (h : Framed F k (pre ++ content ++ post))
    (hplain : ∀ c ∈ fill b content, c ∉ F.marks) :
    (∃ old new, content = [.hole old new]) ∨ ∀ old new, .hole old new ∉ content := by
  by_cases hhole : ∃ old new, .hole old new ∈ content
  · obtain ⟨old, new, hmem⟩ := hhole
    obtain ⟨xs, ys, rfl⟩ := List.append_of_mem hmem
    left
    -- a mark stands on both sides, so nothing else can be in the content
    have hright : ys = [] := by
      cases ys with
      | nil => rfl
      | cons p ys =>
        rw [show pre ++ (xs ++ .hole old new :: p :: ys) ++ post =
          pre ++ xs ++ .hole old new :: p :: (ys ++ post) by simp] at h
        obtain ⟨_, -, -, -, hhead, -⟩ := h.append_right
        obtain ⟨c, hc, rfl⟩ := hhead p rfl
        exact absurd hc (hplain c (by simp))
    have hleft : xs = [] := by
      rcases List.eq_nil_or_concat' xs with e | ⟨xs, p, rfl⟩
      · exact e
      · rw [show pre ++ (xs ++ [p] ++ .hole old new :: ys) ++ post =
          pre ++ xs ++ p :: .hole old new :: (ys ++ post) by simp] at h
        obtain ⟨k', hp⟩ := h.append_right
        cases p with
        | char c =>
          have hc : c ∈ F.marks := by simpa using hp.1
          exact absurd hc (hplain c (by simp))
        | hole o n => cases hp.2.2.2.2.1
    exact ⟨old, new, by rw [hleft, hright]; rfl⟩
  · right
    exact fun old new hmem => hhole ⟨old, new, hmem⟩

theorem fill_of_no_hole {content : List Piece} (h : ∀ old new, .hole old new ∉ content) (b b' : Bool) :
    fill b content = fill b' content := by
  induction content with
  | nil => rfl
  | cons p ps ih =>
    cases p with
    | char c => simp [ih fun old new hmem => h old new (List.mem_cons_of_mem _ hmem)]
    | hole old new => exact absurd List.mem_cons_self (h old new)

/-- Content that is not blank was not blank before, if its holes were not. -/
theorem isBlankOnly_fill {content : List Piece}
    (hholes : ∀ old new, .hole old new ∈ content → Text.isBlankOnly old = false)
    (h : Text.isBlankOnly (fill true content) = false) : Text.isBlankOnly (fill false content) = false := by
  by_cases hhole : ∃ old new, .hole old new ∈ content
  · obtain ⟨old, new, hmem⟩ := hhole
    have hold := hholes old new hmem
    obtain ⟨xs, ys, rfl⟩ := List.append_of_mem hmem
    simp only [Text.isBlankOnly, Piece.fill_append, Piece.fill_cons, Piece.text, List.all_append, Bool.false_eq_true,
      if_false] at hold ⊢
    rw [hold]
    simp
  · rwa [fill_of_no_hole (fun old new hmem => hhole ⟨old, new, hmem⟩) false true]

/-- Two pieces that start at one offset are the same. -/
theorem same_place {k b : Bool} {ps pre pre' post post' : List Piece} (h : Framed F k ps) (hps : ps = pre ++ post)
    (hps' : ps = pre' ++ post') (hlen : (fill b pre).length = (fill b pre').length) : pre = pre' := by
  have hnil : ∀ a c : List Piece, Framed F k (a ++ c) →
      (fill b a).length = (fill b (a ++ c)).length → c = [] := by
    intro a c hac e
    by_contra hne
    obtain ⟨k', hc⟩ := hac.append_right
    have := List.length_pos_iff.mpr (hc.fill_ne_nil (b := b) hne)
    simp only [Piece.fill_append, List.length_append] at e
    omega
  rcases List.append_eq_append_iff.mp (hps.symm.trans hps') with ⟨c, rfl, -⟩ | ⟨c, rfl, -⟩
  · rw [hps', List.append_assoc] at h
    have := hnil pre c (by rw [← List.append_assoc] at h; exact h.append_left) hlen
    rw [this, List.append_nil]
  · rw [hps, List.append_assoc] at h
    have := hnil pre' c (by rw [← List.append_assoc] at h; exact h.append_left) hlen.symm
    rw [this, List.append_nil]

end Fencing

/-! ## Spans of both fillings -/

namespace Span

variable {F : Fencing} {rules : List Rule} {names : List Text}

theorem ofRules_covered (h : F.Covers rules) (t : Text) :
    ∃ ss, ofRules t rules = .ok ss ∧
      ∀ x, x ∈ ss ↔ ∃ r ∈ rules, ∃ f ∈ F.fences, r.pattern = f.pattern ∧ x ∈ f.spans t := by
  induction rules with
  | nil => exact ⟨[], rfl, fun x => by simp⟩
  | cons r rs ih =>
    obtain ⟨hg, f, hf, hp⟩ := h r List.mem_cons_self
    have hfirst := Fence.spans_fence (F.sound f hf).toExact hp hg t
    obtain ⟨ss, hss, hmem⟩ := ih fun r' hr' => h r' (List.mem_cons_of_mem r hr')
    refine ⟨f.spans t ++ ss, by rw [ofRules, hfirst]; simp only [hss], fun x => ?_⟩
    rw [List.mem_append, hmem]
    constructor
    · rintro (hx | ⟨r', hr', hx⟩)
      · exact ⟨r, List.mem_cons_self, f, hf, hp, hx⟩
      · exact ⟨r', List.mem_cons_of_mem r hr', hx⟩
    · rintro ⟨r', hr', f', hf', hp', hx⟩
      rcases List.mem_cons.mp hr' with rfl | hr'
      · have hsame := Fence.spans_fence (F.sound f' hf').toExact hp' hg t
        exact Or.inl (Except.ok.inj (hfirst.symm.trans hsame) ▸ hx)
      · exact Or.inr ⟨r', hr', f', hf', hp', hx⟩

theorem find_covered (h : F.Covers rules) (t : Text) (names : List Text) : ∃ ss, find t rules names = .ok ss := by
  obtain ⟨ss, hss, -⟩ := ofRules_covered h t
  exact ⟨merge ss (ofCalls t names), by rw [find, hss]⟩

/-- A class string of one filling is, in the other, the class string of the same pieces. -/
theorem find_fill (hc : F.Covers rules) (hn : ∀ name ∈ names, ∀ c ∈ name, c ∉ F.marks) {k b : Bool}
    {ps : List Piece} (hf : Framed F k ps) {us : List Span} (hus : find (fill b ps) rules names = .ok us) {x : Span}
    (hx : x ∈ us) {b' : Bool} {ss : List Span} (hss : find (fill b' ps) rules names = .ok ss) :
    ∃ pre content post, ps = pre ++ content ++ post ∧ x.classes = fill b content ∧
      (Text.isBlankOnly (fill b' content) = false → ∃ y ∈ ss, y.classes = fill b' content ∧
        (F.Calm (fill b' content) → F.Between (fill b' ps) y.classStart y.classStop →
          y.classStart = (fill b' pre).length)) := by
  obtain ⟨found, hfound, hmem⟩ := ofRules_covered hc (fill b ps)
  obtain ⟨found', hfound', hmem'⟩ := ofRules_covered hc (fill b' ps)
  rw [find, hfound] at hus
  have hplaced := placed_of_find hss
  rw [find, hfound'] at hss
  obtain rfl := Except.ok.inj hus
  obtain rfl := Except.ok.inj hss
  -- before merging, the same pieces are found
  obtain ⟨pre, content, post, hps, hclasses, hother⟩ : ∃ pre content post, ps = pre ++ content ++ post ∧
      x.classes = fill b content ∧ (Text.isBlankOnly (fill b' content) = false →
        ∃ y, (y ∈ found' ∨ y ∈ ofCalls (fill b' ps) names) ∧ y.classes = fill b' content ∧
          (F.Calm (fill b' content) → F.Between (fill b' ps) y.classStart (y.classStart + y.classes.length) →
            y.classStart = (fill b' pre).length)) := by
    rcases mem_of_merge hx with hx | hx
    · obtain ⟨r, hr, f, hfm, hp, hx⟩ := (hmem x).mp hx
      obtain ⟨pre, content, post, hps, hclasses, hall⟩ := Fence.spans_fill (F.sound f hfm) hfm hf hx
      refine ⟨pre, content, post, hps, hclasses, fun hblank => ?_⟩
      obtain ⟨y, hy, hyc, hplace⟩ := hall b' hblank
      exact ⟨y, Or.inl ((hmem' y).mpr ⟨r, hr, f, hfm, hp, hy⟩), hyc, fun hcalm =>
        hplace (fun c hc => (hcalm.plain c hc).1) (hcalm.lead f hfm)⟩
    · obtain ⟨pre, content, post, hps, hclasses, hall⟩ := calls_fill hn hf hx
      refine ⟨pre, content, post, hps, hclasses, fun hblank => ?_⟩
      obtain ⟨y, hy, hyc, hplace⟩ := hall b' hblank
      exact ⟨y, Or.inr hy, hyc, fun _ _ => hplace⟩
  refine ⟨pre, content, post, hps, hclasses, fun hblank => ?_⟩
  obtain ⟨y, hy, hyc, hplace⟩ := hother hblank
  obtain ⟨z, hz, hkey⟩ := exists_merge hy
  have hyp : Placed (fill b' ps) y := by
    rcases hy with hy | hy
    · exact placed_of_rules hfound' y hy
    · exact placed_of_calls y hy
  obtain ⟨hstart, hsame⟩ := hyp.classes_eq (hplaced z hz) hkey
  refine ⟨z, hz, hsame.trans hyc, fun hcalm hbetween => ?_⟩
  rw [(hplaced z hz).stopEq, hstart, hsame] at hbetween
  rw [hstart]
  exact hplace hcalm hbetween

end Span

/-! ## Class strings between marks -/

/-- What begins in an opening and holds no mark lies in front of the fence. -/
theorem Fence.Sound.mem_opening {f : Fence} {marks s g m q t v : Text} (hs : f.Sound marks)
    (hr : f.opening.Reads s g m q) (hv : ∀ c ∈ v, c ∉ marks) {j : Nat} (hj : j < s.length)
    (h : Text.Stands (s ++ t) j v) :
    ∀ c ∈ v, c ∈ f.lead ++ g ++ m := by
  obtain ⟨rest, hrest⟩ := h
  have hq : ∀ c ∈ q, c ∈ marks := hr.mark hs.marked
  have heq : s = f.lead ++ g ++ m ++ q := hr.eq
  by_cases hin : j ≤ (f.lead ++ g ++ m).length
  · rw [heq, List.append_assoc _ q t, List.drop_append_of_le_length hin] at hrest
    intro c hc
    rcases List.append_eq_append_iff.mp hrest with ⟨z, hz, -⟩ | ⟨z, hz, hback⟩
    · exact List.mem_of_mem_drop (by rw [hz]; exact List.mem_append_left z hc)
    · obtain ⟨d, ds, rfl⟩ := List.exists_cons_of_ne_nil (hs.fence_ne_nil hr)
      cases z with
      | nil =>
        rw [List.append_nil] at hz
        exact List.mem_of_mem_drop (hz ▸ hc)
      | cons x z =>
        obtain ⟨rfl, -⟩ := List.cons.inj hback
        exact absurd (hq d List.mem_cons_self) (hv d (by rw [hz]; simp))
  · -- it would begin with a mark
    intro c hc
    exfalso
    obtain ⟨d, w, rfl⟩ := List.exists_cons_of_ne_nil (List.ne_nil_of_mem hc)
    have hget : (s ++ t)[j]? = some d := by rw [← List.head?_drop, ← hrest]; rfl
    rw [List.getElem?_append_left hj, heq, List.getElem?_append_right (by omega)] at hget
    exact hv d List.mem_cons_self (hq d (List.mem_of_getElem? hget))

/-- What a fence matches, in front of a text. -/
theorem Fence.front?_split {f : Fence} (hs : f.Exact) {t : Text} {w n : Nat} {v : Text}
    (h : f.front? t = some (w, n, v)) :
    ∃ s d rest, t = s ++ v ++ d :: rest ∧ s.length = n ∧ (∃ g m q, f.opening.Reads s g m q) ∧
      f.closer.accepts d = true := by
  obtain ⟨hsize, hv, -, hfits, -⟩ := front?_eq_some h
  obtain ⟨s, after, rfl, rfl, hreads⟩ := (Opening.size?_eq_some hs.sharp).mp hsize
  rw [List.drop_left] at hv
  obtain ⟨back, hback⟩ : v <+: after := hv ▸ List.takeWhile_prefix _
  rw [← hback, ← List.drop_drop, List.drop_left, List.drop_left] at hfits
  obtain ⟨closing, rest, hclosing, hpasses⟩ := Text.fits_iff.mp hfits
  obtain ⟨d, tail, hd, -, rfl⟩ := List.forall₂_cons_left_iff.mp hpasses
  exact ⟨s, d, tail ++ rest, by rw [← hback, hclosing]; simp, rfl, hreads, hd⟩

/-- What a fence matches is its opening, the class string and a closing, and the class string is found there or
earlier. -/
theorem Fence.placed_of_front? {f : Fence} (hs : f.Exact) {t : Text} {i w n : Nat} {v : Text}
    (hfront : f.front? (t.drop i) = some (w, n, v)) {x : Span} (hspan : f.span? t (i, n, v) = some x) :
    ∃ j s d rest, t.drop i = s ++ v ++ d :: rest ∧ s.length = n ∧ (∃ g m q, f.opening.Reads s g m q) ∧
      f.closer.accepts d = true ∧
      x.classes = v ∧ x.classStart = i + j ∧ x.classStop = i + j + v.length ∧ j ≤ n ∧
        Text.Stands (s ++ (v ++ d :: rest)) j v := by
  obtain ⟨s, d, rest, hdrop, rfl, hreads, hd⟩ := front?_split hs hfront
  unfold span? at hspan
  split at hspan
  · cases hspan
  obtain ⟨j, hfind, rfl⟩ := Option.map_eq_some_iff.mp hspan
  have hfull : Text.slice t i (f.toMatch (i, s.length, v)).stop =
      s ++ (v ++ d :: rest).take (v.length + f.tail.length + 1) := by
    rw [Text.slice, hdrop, List.append_assoc, show (f.toMatch (i, s.length, v)).stop - i =
      s.length + (v.length + f.tail.length + 1) by simp only [toMatch]; omega, List.take_length_add_append]
  rw [hfull] at hfind
  refine ⟨j, s, d, rest, hdrop, rfl, hreads, hd, rfl, rfl, rfl, ?_, ?_⟩
  · have hbehind : Text.Stands (s ++ (v ++ d :: rest).take (v.length + f.tail.length + 1)) s.length v := by
      rw [Text.Stands, List.drop_left, List.take_append, List.take_of_length_le (by omega)]
      exact List.prefix_append _ _
    obtain ⟨j', hj', hfind'⟩ := hbehind.find? (by simp)
    exact Option.some.inj (hfind.symm.trans hfind') ▸ hj'
  · have hfront : s ++ (v ++ d :: rest).take (v.length + f.tail.length + 1) <+: s ++ (v ++ d :: rest) :=
      (List.prefix_append_right_inj s).mpr (List.take_prefix _ _)
    have hinner := (Text.stands_zero.mpr hfront).inner (Text.find?_stands hfind)
    rwa [Nat.zero_add] at hinner

/-- A class string that a fence finds stands behind its opening, and is looked for from the start of the opening on. -/
theorem Fence.exists_opening {f : Fence} (hs : f.Exact) {t : Text} {x : Span} (hx : x ∈ f.spans t) :
    ∃ i j s d rest, t.drop i = s ++ x.classes ++ d :: rest ∧ (∃ g m q, f.opening.Reads s g m q) ∧
      f.closer.accepts d = true ∧
      x.classStart = i + j ∧ x.classStop = i + j + x.classes.length ∧ j ≤ s.length ∧
      Text.Stands (s ++ (x.classes ++ d :: rest)) j x.classes := by
  obtain ⟨⟨i, n, v⟩, hmem, hspan⟩ := List.mem_filterMap.mp hx
  obtain ⟨k, w, hk, hfront⟩ := Text.mem_sweep hmem
  obtain rfl : i = k := by simpa using hk
  obtain ⟨j, s, d, rest, hdrop, rfl, hreads, hd, rfl, hstart, hstop, hle, hstands⟩ :=
    placed_of_front? hs hfront hspan
  exact ⟨i, j, s, d, rest, hdrop, hreads, hd, hstart, hstop, hle, hstands⟩

/-- A fence without a gap finds its class string between marks, or it is a single class. -/
theorem Fence.Sound.between_of_spans {F : Fencing} {f : Fence} {t : Text} {x : Span} (hs : f.Sound F.marks)
    (hgap : f.gap = none) (hx : x ∈ f.spans t) (hplain : ∀ c ∈ x.classes, c ∉ F.marks) :
    (∀ c ∈ x.classes, ClassList.isSeparator c = false) ∨ F.Between t x.classStart x.classStop := by
  obtain ⟨i, j, s, d, rest, hdrop, ⟨g, m, q, hreads⟩, hd, hstart, hstop, hle, hstands⟩ :=
    exists_opening hs.toExact hx
  have hall : Text.Stands t i (s ++ x.classes ++ d :: rest) := ⟨[], by rw [List.append_nil, hdrop]⟩
  rcases Nat.lt_or_eq_of_le hle with hlt | rfl
  · left
    intro c hc
    rcases List.mem_append.mp (hs.mem_opening hreads hplain hlt hstands c hc) with hin | hin
    · rcases List.mem_append.mp hin with hin | hin
      · exact (hs.lead c hin).2
      · have := hreads.gap c hin
        simp [opening, hgap] at this
    · obtain ⟨p, hp, hpc⟩ := hreads.behind.exists_test hin
      obtain ⟨p', hp', rfl⟩ := List.mem_map.mp hp
      exact (hs.behind p' hp' c hpc).2
  · right
    refine ⟨?_, d, ?_, ?_⟩
    · -- the opening ends with a mark
      obtain ⟨qs, c, rfl⟩ := (List.eq_nil_or_concat' q).resolve_left (hs.fence_ne_nil hreads)
      obtain ⟨front, rfl⟩ : ∃ front, s = front ++ [c] :=
        ⟨f.lead ++ g ++ m ++ qs, by rw [hreads.eq]; simp [opening]⟩
      refine ⟨i + front.length, ?_, c, hreads.mark hs.marked c (by simp), ?_⟩
      · rw [hstart, List.length_append, List.length_singleton, Nat.add_assoc]
      · rw [hall.getElem? (by simp)]
        simp
    · by_contra hno
      have := hs.closes d (hs.content d hno)
      rw [hd] at this
      cases this
    · rw [hstop, Nat.add_assoc, hall.getElem? (by simp)]
      simp

/-- A call finds its class strings between quotes. -/
theorem Span.between_of_calls (F : Fencing) {t : Text} {names : List Text} {x : Span} (hx : x ∈ ofCalls t names) :
    F.Between t x.classStart x.classStop := by
  obtain ⟨hstart, q, hq, hfull, -⟩ := quoted_of_calls hx
  have hp := placed_of_calls x hx
  have hs := hp.full
  rw [hfull] at hs
  refine ⟨⟨x.start, hstart, q, F.quotes q hq, ?_⟩, q, F.quotes q hq, ?_⟩
  · have := hs.getElem? (show 0 < (q :: x.classes ++ [q]).length by simp)
    simpa using this
  · have := hs.getElem? (show x.classes.length + 1 < (q :: x.classes ++ [q]).length by simp)
    rw [hp.stopEq, hstart, show x.start + 1 + x.classes.length = x.start + (x.classes.length + 1) by omega, this]
    simp

/-! ## The second scan -/

namespace Service

variable {s : Service}

/-- The rules of the language are fences, and all class strings that are found are quiet. Where rules let blanks stand
behind the lead, a class string can occur in them, and is then looked for in the wrong place: those that change stand
between marks. -/
structure Quiet (s : Service) (F : Fencing) (table : RankTable) (t language : Text) : Prop where
  rules : ∀ l, s.registry.language? language = some l → F.Covers l.rules
  names : ∀ name ∈ s.settings.functions, ∀ c ∈ name, c ∉ F.marks
  classes : ∀ ss, s.spansIn t language .all = .ok ss → ∀ x ∈ ss, ∀ n ∈ ClassList.words x.classes, F.Quiet n
  settles : ∀ ss, s.spansIn t language .all = .ok ss →
    ∀ x ∈ ss, ClassList.Settles table s.settings.options x.classes
  between : (∀ f ∈ F.fences, f.gap = none) ∨ ∀ ss, s.spansIn t language .all = .ok ss → ∀ x ∈ ss,
    s.normal table x.classes ≠ x.classes → F.Between t x.classStart x.classStop

/-- Every class string found in the new text is the canonical form of one found in the old, and a stable one. -/
def Rescans (s : Service) (table : RankTable) (t language : Text) : Prop :=
  ∀ ss u, s.spansIn t language .all = .ok ss → Edit.apply t (s.editsWith table ss) = .ok u →
    ∃ us, s.spansIn u language .all = .ok us ∧ ∀ x ∈ us, ∃ y ∈ ss,
      x.classes = s.normal table y.classes ∧ ClassList.Settles table s.settings.options y.classes

/-- Where nothing is looked for, nothing is found, or the spans come from rules and calls. -/
theorem spansIn_cases (s : Service) (language : Text) :
    (∀ t, s.spansIn t language .all = .ok []) ∨
      ∃ l, s.registry.language? language = some l ∧
        ∀ t, s.spansIn t language .all = Span.find t l.rules s.settings.functions := by
  unfold spansIn spans
  split
  · cases hl : s.registry.language? language with
    | none => exact Or.inl fun t => rfl
    | some l =>
      refine Or.inr ⟨l, rfl, fun t => ?_⟩
      simp only
      cases Span.find t l.rules s.settings.functions <;> rfl
  · exact Or.inl fun t => rfl

/-- A class string that changes stands between marks. -/
theorem Quiet.between_marks {F : Fencing} {table : RankTable} {t language : Text} (h : s.Quiet F table t language)
    {ss : List Span} (hss : s.spansIn t language .all = .ok ss) {x : Span} (hx : x ∈ ss)
    (hne : s.normal table x.classes ≠ x.classes) : F.Between t x.classStart x.classStop := by
  rcases h.between with hgaps | hall
  · have hplaced := placed_of_spansIn hss x hx
    have hcalm := Fencing.calm_of_words hplaced.filled (h.classes ss hss x hx)
    rcases s.spansIn_cases language with hnone | ⟨l, hl, hfind⟩
    · obtain rfl := Except.ok.inj ((hnone t).symm.trans hss)
      cases hx
    obtain ⟨found, hfound, hmem⟩ := Span.ofRules_covered (h.rules l hl) t
    have hmerge := (hfind t).symm.trans hss
    rw [Span.find, hfound] at hmerge
    obtain rfl := Except.ok.inj hmerge
    rcases Span.mem_of_merge hx with hx' | hx'
    · obtain ⟨r, -, f, hf, -, hx'⟩ := (hmem x).mp hx'
      refine ((F.sound f hf).between_of_spans (hgaps f hf) hx' fun c hc => (hcalm.plain c hc).1).resolve_left
        fun hsep => hne ?_
      exact (h.settles _ hss x hx).normalize_token s.options_hold.1 s.options_hold.2 hsep hcalm.ne_nil
    · exact Span.between_of_calls F hx'
  · exact hall ss hss x hx hne

/-- An edit of a quiet document fills a hole. -/
theorem Quiet.fills {F : Fencing} {table : RankTable} {t language : Text} (h : s.Quiet F table t language)
    {ss : List Span} (hss : s.spansIn t language .all = .ok ss) {e : Edit} (he : e ∈ s.editsWith table ss) :
    F.Fills t e ∧ e.new = s.normal table e.old ∧ Text.isBlankOnly e.old = false := by
  obtain ⟨x, hx, hedit⟩ := List.mem_filterMap.mp he
  have hplaced := placed_of_spansIn hss x hx
  have hwords := h.classes ss hss x hx
  obtain ⟨hne, rfl⟩ := edit?_eq_some hedit
  exact ⟨⟨hplaced.slice_eq, Fencing.calm_of_words hplaced.filled hwords,
    Fencing.calm_normal s.options_hold.1 s.options_hold.2 hplaced.filled hwords (h.settles ss hss x hx),
    h.between_marks hss hx hne⟩, rfl, hplaced.filled⟩

/-- Where a class string changes, a hole stands: an edit that overlaps it is the one for its own place, because no class
string holds a mark. -/
theorem Quiet.hole_at {F : Fencing} {table : RankTable} {t language : Text} (h : s.Quiet F table t language)
    {ss : List Span} (hss : s.spansIn t language .all = .ok ss) {y : Span} (hy : y ∈ ss)
    (hne : s.normal table y.classes ≠ y.classes) {k : Bool} {ps pre post : List Piece} (hf : Framed F k ps)
    (hplaces : ∀ e ∈ (Edit.select (s.editsWith table ss)).kept, ∃ pre post,
      ps = pre ++ .hole e.old e.new :: post ∧ 0 + (fill false pre).length = e.start)
    (hps : ps = pre ++ post) (hstart : y.classStart = (fill false pre).length) :
    ∃ old new rest, post = .hole old new :: rest := by
  obtain ⟨e, he, hes, het⟩ := exists_edit hy hne
  obtain ⟨e', he', hle, hlt⟩ : ∃ e' ∈ (Edit.select (s.editsWith table ss)).kept, e'.start ≤ e.start ∧
      e.start < e'.stop := by
    rcases Edit.kept_or_inside he with hkept | ⟨e', he', hle, hlt⟩
    · have := (placed_of_spansIn hss y hy).start_lt_stop
      exact ⟨e, hkept, Nat.le_refl _, by omega⟩
    · exact ⟨e', he', hle, hlt⟩
  have hfills := (h.fills hss (Edit.mem_of_kept he')).1
  have hsame : e'.start = y.classStart := by
    by_contra hno
    obtain ⟨i, hi, c, hc, hget⟩ := (h.between_marks hss hy hne).front
    have hmem := Text.mem_slice hget (show e'.start ≤ i by omega) (show i < e'.stop by omega)
    rw [hfills.old] at hmem
    exact (hfills.oldCalm.plain c hmem).1 hc
  obtain ⟨pre', post', hps', hpre'⟩ := hplaces e' he'
  obtain rfl : pre = pre' := Fencing.same_place (b := false) hf hps hps' (by omega)
  exact ⟨e'.old, e'.new, post', List.append_cancel_left (hps.symm.trans hps')⟩

/-- A quiet document has, after its edits were made, canonical forms of its class strings for class strings. -/
theorem rescans_of_quiet {F : Fencing} {table : RankTable} {t language : Text} (h : s.Quiet F table t language) :
    s.Rescans table t language := by
  intro ss u hss hu
  rcases s.spansIn_cases language with hnone | ⟨l, hl, hfind⟩
  · exact ⟨[], hnone u, fun x hx => by cases hx⟩
  have hcovers := h.rules l hl
  have hkept : ∀ e ∈ (Edit.select (s.editsWith table ss)).kept, F.Fills t e ∧ e.new = s.normal table e.old ∧
      Text.isBlankOnly e.old = false := fun e he => h.fills hss (Edit.mem_of_kept he)
  have hfits : ∀ e ∈ s.editsWith table ss, e.Fits t table.ranker s.settings.options :=
    fits_of_editsWith (placed_of_spansIn hss)
  obtain ⟨u', hu', hspliced⟩ :=
    Edit.apply_spliced (fun e he => (hfits e he).startLe) fun e he => (hfits e he).stopLe
  obtain rfl : u' = u := Except.ok.inj (hu'.symm.trans hu)
  obtain ⟨ps, rfl, rfl, hframed, hholes, hplaces⟩ := Fencing.exists_pieces hspliced rfl fun e he => (hkept e he).1
  obtain ⟨us, hus⟩ := Span.find_covered hcovers (fill true ps) s.settings.functions
  refine ⟨us, (hfind _).trans hus, fun x hx => ?_⟩
  have hss' : Span.find (fill false ps) l.rules s.settings.functions = .ok ss := (hfind _).symm.trans hss
  obtain ⟨pre, content, post, hps, hxc, hother⟩ := Span.find_fill hcovers h.names hframed hus hx hss'
  have hfilled : Text.isBlankOnly (fill true content) = false := hxc ▸ (Span.placed_of_find hus x hx).filled
  have hblank : Text.isBlankOnly (fill false content) = false := by
    refine Fencing.isBlankOnly_fill (fun old new hmem => ?_) hfilled
    obtain ⟨e, he, rfl, -⟩ := hholes old new (by rw [hps]; simp [hmem])
    exact (hkept e he).2.2
  obtain ⟨y, hy, hyc, hplace⟩ := hother hblank
  have hcalm : F.Calm (fill false content) := by
    rw [← hyc]
    exact Fencing.calm_of_words (placed_of_spansIn hss y hy).filled (h.classes ss hss y hy)
  refine ⟨y, hy, ?_, h.settles ss hss y hy⟩
  rcases Fencing.content_cases (hps ▸ hframed) fun c hc => (hcalm.plain c hc).1 with ⟨old, new, rfl⟩ | hno
  · obtain ⟨e, he, rfl, rfl⟩ := hholes old new (by rw [hps]; simp)
    have hold : fill false [.hole e.old e.new] = e.old := List.append_nil _
    have hnew : fill true [.hole e.old e.new] = e.new := List.append_nil _
    rw [hxc, hyc, hold, hnew]
    exact (hkept e he).2.1
  · rw [hxc, Fencing.fill_of_no_hole hno true false, ← hyc]
    by_contra hne
    have hbetween := h.between_marks hss hy fun e => hne e.symm
    obtain ⟨old, new, rest, hrest⟩ := h.hole_at hss hy (fun e => hne e.symm) hframed hplaces
      (by rw [hps, List.append_assoc]) (hplace hcalm hbetween)
    cases content with
    | nil => cases hblank
    | cons p content =>
      obtain ⟨rfl, -⟩ := List.cons.inj hrest
      exact hno old new List.mem_cons_self

end Service

end ClassTidy
