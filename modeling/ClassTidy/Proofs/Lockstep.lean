/-
  ClassTidy.Proofs.Lockstep — rules, calls and literals read both fillings alike.

  What a fence finds, what a call opens and closes, and where a literal ends: each is the
  same run of pieces however the holes are filled, so the content found in one text is the
  content of the same pieces in the other. A call that begins inside a hole closes inside
  it and has no literals, because the fillings are calm.
-/
import ClassTidy.Proofs.Pieces

namespace ClassTidy

open Piece (fill chars)

/-! ## Openings -/

theorem Text.Passes.exists_test {ps : List (Char → Bool)} {s : Text} (h : Passes ps s) {c : Char} (hc : c ∈ s) :
    ∃ p ∈ ps, p c = true := by
  induction h with
  | nil => cases hc
  | cons hp _ ih =>
    rcases List.mem_cons.mp hc with rfl | hc
    · exact ⟨_, List.mem_cons_self, hp⟩
    · obtain ⟨p, hps, hpc⟩ := ih hc
      exact ⟨p, List.mem_cons_of_mem _ hps, hpc⟩

/-- The part of a text in front of its first mark. -/
theorem takeWhile_plain {marks v rest : Text} (hv : ∀ c ∈ v, c ∉ marks)
    (hrest : ∀ c ∈ rest.head?, c ∈ marks) :
    (v ++ rest).takeWhile (fun c => decide (c ∉ marks)) = v := by
  rw [List.takeWhile_append_of_pos (by simpa using hv)]
  cases rest with
  | nil => simp
  | cons c rest => simp [hrest c rfl]

namespace Opening

/-- Only the fence of an opening holds marks. -/
structure Marked (marks : Text) (o : Opening) : Prop where
  sharp : o.Sharp
  lead : ∀ c ∈ o.lead, c ∉ marks
  gap : ∀ c, o.gap c = true → c ∉ marks
  behind : ∀ p ∈ o.behind, ∀ c, p c = true → c ∉ marks
  fence : ∀ p ∈ o.fence, ∀ c, p c = true → c ∈ marks

variable {F : Fencing} {o : Opening} {marks s gap behind fence : Text} {k b : Bool} {ps : List Piece}

theorem Reads.plain (h : o.Reads s gap behind fence) (hm : o.Marked marks) :
    ∀ c ∈ o.lead ++ gap ++ behind, c ∉ marks := by
  intro c hc
  rcases List.mem_append.mp hc with hc | hc
  · rcases List.mem_append.mp hc with hc | hc
    · exact hm.lead c hc
    · exact hm.gap c (h.gap c hc)
  · obtain ⟨p, hp, hpc⟩ := h.behind.exists_test hc
    exact hm.behind p hp c hpc

theorem Reads.mark (h : o.Reads s gap behind fence) (hm : o.Marked marks) : ∀ c ∈ fence, c ∈ marks := by
  intro c hc
  obtain ⟨p, hp, hpc⟩ := h.fence.exists_test hc
  exact hm.fence p hp c hpc

theorem Reads.tight (h : o.Reads s gap behind fence) (hm : o.Marked marks) : Tight marks s := by
  rw [h.eq]
  exact tight_append (h.plain hm) (h.mark hm)

/-- An opening with a fence that begins a text without marks goes up to the end of it. -/
theorem Reads.eq_plain (h : o.Reads s gap behind fence) (hm : o.Marked marks) (hf : fence ≠ []) {v rest t : Text}
    (hv : ∀ c ∈ v, c ∉ marks) (hrest : ∀ c ∈ rest.head?, c ∈ marks) (e : v ++ rest = s ++ t) :
    v = o.lead ++ gap ++ behind := by
  have hhead : ∀ c ∈ (fence ++ t).head?, c ∈ marks := by
    intro c hc
    obtain ⟨d, ds, rfl⟩ := List.exists_cons_of_ne_nil hf
    obtain rfl : d = c := Option.some.inj hc
    exact h.mark hm d List.mem_cons_self
  rw [h.eq, List.append_assoc (o.lead ++ gap ++ behind)] at e
  rw [← takeWhile_plain hv hrest, e, takeWhile_plain (h.plain hm) hhead]

/-- An opening without a fence that begins a text without marks lies in it. -/
theorem Reads.prefix_plain (h : o.Reads s gap behind []) (hm : o.Marked marks) {v rest t : Text}
    (hv : ∀ c ∈ v, c ∉ marks) (hrest : ∀ c ∈ rest.head?, c ∈ marks) (e : v ++ rest = s ++ t) :
    s <+: v := by
  have hs : ∀ c ∈ s, c ∉ marks := by
    rw [h.eq, List.append_nil]
    exact h.plain hm
  rw [← takeWhile_plain hv hrest, e, List.takeWhile_append_of_pos (by simpa using hs)]
  exact List.prefix_append _ _

theorem size?_fill (hm : o.Marked F.marks) {c : Char} (hf : Framed F k (.char c :: ps)) {n : Nat}
    (h : o.size? (fill b (.char c :: ps)) = some n) :
    ∃ s rest, .char c :: ps = chars s ++ rest ∧ s.length = n ∧ (∃ g m q, o.Reads s g m q) ∧
      ∀ b', o.size? (fill b' (.char c :: ps)) = some n := by
  obtain ⟨s, t, ht, rfl, g, m, q, hreads⟩ := (size?_eq_some hm.sharp).mp h
  obtain ⟨rest, hrest, -⟩ := hf.exists_chars (hreads.tight hm) (fun _ _ _ e => by cases e) ht
  refine ⟨s, rest, hrest, rfl, ⟨g, m, q, hreads⟩, fun b' => ?_⟩
  rw [hrest]
  exact (size?_eq_some hm.sharp).mpr ⟨s, fill b' rest, by simp, rfl, g, m, q, hreads⟩

end Opening

/-! ## Fences -/

/-- A piece that a run of characters goes over, holes included. -/
def Piece.taken (p : Char → Bool) : Piece → Bool
  | .char c => p c
  | .hole _ _ => true

theorem Framed.takeWhile_fill {F : Fencing} {k b : Bool} {ps : List Piece} {p : Char → Bool} (hf : Framed F k ps)
    (hp : ∀ c, c ∉ F.marks → p c = true) : (fill b ps).takeWhile p = fill b (ps.takeWhile (Piece.taken p)) := by
  induction ps generalizing k with
  | nil => rfl
  | cons q ps ih =>
    cases q with
    | char c =>
      have hps : Framed F (decide (c ∈ F.marks)) ps := hf
      cases hc : p c
      · simp [Piece.taken, hc]
      · simp [Piece.taken, hc, ih hps]
    | hole old new =>
      have hcalm := hf.calm_text (b := b)
      rw [Piece.fill_cons, List.takeWhile_append_of_pos fun c hc => hp c (hcalm.plain c hc).1, ih hf.2.2.2.2]
      rfl

namespace Fence

variable {F : Fencing} {f : Fence} {k b : Bool} {ps : List Piece} {c : Char}

theorem Sound.marked {marks : Text} (h : f.Sound marks) : f.opening.Marked marks where
  sharp := h.sharp
  lead c hc := (h.lead c hc).1
  gap := h.gap
  behind p hp := by
    obtain ⟨q, hq, rfl⟩ := List.mem_map.mp hp
    exact fun c hc => (h.behind q hq c hc).1
  fence p hp := by
    obtain ⟨q, hq, rfl⟩ := List.mem_map.mp hp
    exact h.opener q hq

/-- The fence of an opening that was read is not empty. -/
theorem Sound.fence_ne_nil {marks s g m q : Text} (h : f.Sound marks) (hr : f.opening.Reads s g m q) : q ≠ [] := by
  rintro rfl
  have := hr.fence.length_eq
  simp only [opening, Pattern.tests, List.length_map, List.length_nil] at this
  exact h.opens (List.eq_nil_of_length_eq_zero this)

/-- The pieces that the content of a fence takes, and those behind it, which do not begin with a hole. -/
theorem Sound.content_fill (hs : f.Sound F.marks) (hf : Framed F k ps) :
    ∃ content closing, ps = content ++ closing ∧ (∀ old new rest, closing ≠ .hole old new :: rest) ∧
      ∀ b, (fill b ps).takeWhile (fun c => f.content.accepts c) = fill b content := by
  refine ⟨ps.takeWhile (Piece.taken fun c => f.content.accepts c),
    ps.dropWhile (Piece.taken fun c => f.content.accepts c),
    List.takeWhile_append_dropWhile.symm, fun old new rest e => ?_, fun b => hf.takeWhile_fill hs.content⟩
  have hfirst := List.head?_dropWhile_not (Piece.taken fun c => f.content.accepts c) ps
  rw [e] at hfirst
  simp [Piece.taken] at hfirst

/-- The closing of a fence is so many characters. -/
theorem Sound.closing_fill (hs : f.Sound F.marks) (hfm : f ∈ F.fences) (hf : Framed F k ps)
    (hchar : ∀ old new rest, ps ≠ .hole old new :: rest)
    (h : Text.fits (Pattern.tests (f.closer :: f.tail)) (fill b ps) = true) :
    ∃ d tail rest, ps = chars (d :: tail) ++ rest ∧ d ∈ F.marks ∧
      Text.Passes (Pattern.tests (f.closer :: f.tail)) (d :: tail) := by
  obtain ⟨s, t, ht, hpasses⟩ := Text.fits_iff.mp h
  obtain ⟨d, tail, hd, htail, rfl⟩ := List.forall₂_cons_left_iff.mp hpasses
  have hmark : d ∈ F.marks := by
    by_contra hno
    exact absurd hd (Bool.eq_false_iff.mp (hs.closes d (hs.content d hno)))
  cases ps with
  | nil => cases ht
  | cons p ps =>
    cases p with
    | hole old new => exact absurd rfl (hchar old new ps)
    | char c =>
      obtain ⟨rfl, hback⟩ := List.cons.inj ht
      have hps : Framed F (decide (c ∈ F.marks)) ps := hf
      have hback : fill b ps = tail ++ t := hback
      -- no hole begins with what comes behind the closing mark
      have hnext : ∀ old new rest, ps = .hole old new :: rest → ∀ x ∈ tail.head?, x ∈ F.marks := by
        rintro old new rest rfl x hx
        exfalso
        have hcalm := hps.calm_text (b := b)
        obtain ⟨y, ys, hy⟩ := List.exists_cons_of_ne_nil hcalm.ne_nil
        obtain ⟨tail, rfl⟩ := List.head?_eq_some_iff.mp hx
        rw [Piece.fill_cons, hy] at hback
        obtain ⟨rfl, -⟩ := List.cons.inj hback
        obtain ⟨p, qs, hp, -, hq⟩ := List.forall₂_cons_right_iff.mp htail
        obtain ⟨p', ps', hp', rfl, -⟩ := List.map_eq_cons_iff.mp hq
        have hno := hcalm.start f hfm p' (by rw [hp']; rfl) y (by rw [hy]; rfl)
        exact absurd hp (Bool.eq_false_iff.mp hno)
      obtain ⟨rest, rfl, -⟩ := hps.exists_chars (hs.tail tail htail) hnext hback
      exact ⟨c, tail, rest, rfl, hmark, hpasses⟩

/-- What a fence matches in pieces: the opening, the content, and the closing, of which only the content has holes. -/
theorem front?_fill (hs : f.Sound F.marks) (hfm : f ∈ F.fences) (hf : Framed F k (.char c :: ps)) {w n : Nat}
    {v : Text} (h : f.front? (fill b (.char c :: ps)) = some (w, n, v)) :
    ∃ s content d tail rest, .char c :: ps = chars s ++ content ++ chars (d :: tail) ++ rest ∧ s.length = n ∧
      tail.length = f.tail.length ∧ content ≠ [] ∧ v = fill b content ∧ d ∈ F.marks ∧
        (∃ g m q, f.opening.Reads s g m q) ∧
      ∀ b', f.front? (fill b' (.char c :: ps)) =
        some (n + (fill b' content).length + f.tail.length, n, fill b' content) := by
  obtain ⟨hsize, hv, hne, hfits, rfl⟩ := front?_eq_some h
  obtain ⟨s, after, hps, rfl, hreads, hall⟩ := Opening.size?_fill hs.marked hf hsize
  rw [hps] at hf
  obtain ⟨k₁, hafter⟩ := hf.append_right
  obtain ⟨content, closing, rfl, hchar, htake⟩ := hs.content_fill hafter
  obtain ⟨k₂, hclosing⟩ := hafter.append_right
  have hdrop : ∀ b', (fill b' (.char c :: ps)).drop s.length = fill b' (content ++ closing) := fun b' => by simp [hps]
  have hdropc : ∀ b', (fill b' (.char c :: ps)).drop (s.length + (fill b' content).length) = fill b' closing :=
    fun b' => by
    rw [← List.drop_drop, hdrop, Piece.fill_append, List.drop_left]
  rw [hdrop, htake] at hv
  subst hv
  rw [hdropc] at hfits
  obtain ⟨d, tail, rest, rfl, hmark, hpasses⟩ := hs.closing_fill hfm hclosing hchar hfits
  have hne' : content ≠ [] := by
    rintro rfl
    exact hne rfl
  refine ⟨s, content, d, tail, rest, by rw [hps]; simp, rfl, ?_, hne', rfl, hmark, hreads, fun b' => ?_⟩
  · simpa [Pattern.tests] using hpasses.length_eq.symm
  · refine front?_of (hall b') (by rw [hdrop, htake]) (hafter.append_left.fill_ne_nil hne') ?_
    rw [hdropc]
    exact Text.fits_iff.mpr ⟨d :: tail, fill b' rest, by simp, hpasses⟩

theorem steady (hs : f.Sound F.marks) (hfm : f ∈ F.fences) : Steady F f.front? := by
  intro k c ps b x hf h
  obtain ⟨w, n, v⟩ := x
  obtain ⟨s, content, d, tail, rest, hps, rfl, htail, -, -, -, -, hall⟩ := front?_fill hs hfm hf h
  refine ⟨chars s ++ content ++ chars (d :: tail), rest, hps, by simp [chars],
    fun b' => ⟨(s.length, fill b' content), ?_⟩⟩
  rw [hall b']
  simp only [Piece.fill_append, Piece.fill_chars, List.length_append, List.length_cons, htail]
  rfl

/-- Nothing that a fence matches begins in a hole: it would have to hold the lead. -/
theorem front?_inside (hs : f.Sound F.marks) (hfm : f ∈ F.fences) {old new u v : Text}
    (hf : Framed F k (.hole old new :: ps)) (huv : (Piece.hole old new).text b = u ++ v) :
    f.front? (v ++ fill b ps) = none := by
  cases h : f.front? (v ++ fill b ps) with
  | none => rfl
  | some x =>
    exfalso
    obtain ⟨w, n, y⟩ := x
    have hcalm := hf.calm_text (b := b)
    obtain ⟨s, t, ht, -, g, m, q, hreads⟩ := (Opening.size?_eq_some hs.sharp).mp (front?_eq_some h).1
    have hplain : ∀ c ∈ v, c ∉ F.marks :=
      fun c hc => (hcalm.plain c (by rw [huv]; exact List.mem_append_right u hc)).1
    have heq := hreads.eq_plain hs.marked (hs.fence_ne_nil hreads) hplain hf.fill_head ht
    exact hcalm.lead f hfm ⟨u, g ++ m, by rw [huv, heq]; simp [opening]⟩

theorem contained (hs : f.Sound F.marks) (hfm : f ∈ F.fences) : Contained F f.front? := by
  intro k old new ps b hf u v huv _ n a h
  rw [front?_inside hs hfm hf huv] at h
  cases h

/-- A class string between marks is found where it was matched: it holds no mark, so it cannot begin in the opening. -/
theorem Sound.placed (hs : f.Sound F.marks) {t front s g m q v back : Text} (hr : f.opening.Reads s g m q)
    (hv : ∀ c ∈ v, c ∉ F.marks) (hne : v ≠ []) (hlead : ¬ f.lead <:+: v) (ht : t = front ++ s ++ back)
    {j : Nat} (hj : j ≤ s.length) (hstands : Text.Stands (s ++ back) j v)
    (hb : F.Between t (front.length + j) (front.length + j + v.length)) : j = s.length := by
  by_contra hne'
  have hlt : j < s.length := by omega
  obtain ⟨rest, hrest⟩ := hstands
  cases j with
  | zero =>
    -- from the start of the opening it would reach up to the fence
    rw [List.drop_zero] at hrest
    have hhead : ∀ c ∈ rest.head?, c ∈ F.marks := by
      intro c hc
      obtain ⟨d, hd, hget⟩ := hb.back
      rw [ht, List.append_assoc, ← hrest, Nat.add_zero, List.getElem?_append_right (by omega),
        Nat.add_sub_cancel_left,
        List.getElem?_append_right (Nat.le_refl _), Nat.sub_self, ← List.head?_eq_getElem?] at hget
      obtain rfl : d = c := Option.some.inj (hget.symm.trans hc)
      exact hd
    have heq := hr.eq_plain hs.marked (hs.fence_ne_nil hr) hv hhead hrest
    exact hlead ⟨[], g ++ m, by rw [heq]; simp [opening]⟩
  | succ j =>
    -- a mark in front of it means that it begins with one
    obtain ⟨i, hi, c, hc, hget⟩ := hb.front
    obtain rfl : i = front.length + j := by omega
    have hchain := List.isChain_iff_getElem.mp (hr.tight hs.marked) j (by omega)
    have hcj : s[j] = c := by
      rw [ht, List.append_assoc, List.getElem?_append_right (by omega), Nat.add_sub_cancel_left,
        List.getElem?_append_left (by omega), List.getElem?_eq_getElem (by omega)] at hget
      exact Option.some.inj hget
    obtain ⟨d, w, rfl⟩ := List.exists_cons_of_ne_nil hne
    have hd : s[j + 1] = d := by
      have hget := congrArg List.head? hrest
      rw [List.head?_drop, List.getElem?_append_left hlt, List.getElem?_eq_getElem hlt] at hget
      exact (Option.some.inj hget).symm
    rw [hcj, hd] at hchain
    exact hv d List.mem_cons_self (hchain hc)

/-- The class string that a fence finds is the same pieces however holes are filled. -/
theorem spans_fill (hs : f.Sound F.marks) (hfm : f ∈ F.fences) (hf : Framed F k ps) {x : Span}
    (h : x ∈ f.spans (fill b ps)) :
    ∃ pre content post, ps = pre ++ content ++ post ∧ x.classes = fill b content ∧
      ∀ b', Text.isBlankOnly (fill b' content) = false →
        ∃ y ∈ f.spans (fill b' ps), y.classes = fill b' content ∧
        ((∀ c ∈ fill b' content, c ∉ F.marks) → ¬ f.lead <:+: fill b' content →
          F.Between (fill b' ps) y.classStart (y.classStart + y.classes.length) →
            y.classStart = (fill b' pre).length) := by
  obtain ⟨⟨i, n, v⟩, hfound, hx⟩ := List.mem_filterMap.mp h
  cases found_of_sweep (steady hs hfm) (contained hs hfm) hf hfound with
  | inside pre old new post k u w m hps hpost huw hw hi hhit =>
    rw [front?_inside hs hfm hpost huw] at hhit
    cases hhit
  | outside pre c post k m hps hpost hi hhit hall =>
    obtain ⟨s, content, d, tail, rest, hpost', rfl, htail, hne, rfl, hmark, ⟨g, m', q, hreads⟩, hfront⟩ :=
      front?_fill hs hfm hpost hhit
    have hxc : x.classes = fill b content := by
      unfold span? at hx
      split at hx
      · cases hx
      · obtain ⟨j, -, rfl⟩ := Option.map_eq_some_iff.mp hx
        rfl
    refine ⟨pre ++ chars s, content, chars (d :: tail) ++ rest, by rw [hps, hpost']; simp, hxc, fun b' hblank => ?_⟩
    have hmem := hall b' 0 _ _ (hfront b')
    rw [Nat.zero_add] at hmem
    obtain ⟨w, hw⟩ : ∃ w, w = fill b' content := ⟨_, rfl⟩
    rw [← hw] at hmem hblank ⊢
    -- what was matched is the opening, the content and the closing
    have htext : fill b' ps = fill b' pre ++ s ++ (w ++ d :: tail ++ fill b' rest) := by rw [hps, hpost', hw]; simp
    have hfull : Text.slice (fill b' ps) (fill b' pre).length (f.toMatch ((fill b' pre).length, s.length, w)).stop =
        s ++ w ++ d :: tail := by
      rw [htext, Text.slice, List.append_assoc, List.drop_left]
      have hlen : (f.toMatch ((fill b' pre).length, s.length, w)).stop - (fill b' pre).length =
          (s ++ w ++ d :: tail).length := by
        simp only [toMatch, List.length_append, List.length_cons, htail]; omega
      rw [hlen, ← List.append_assoc, ← List.append_assoc]
      exact List.take_left
    have hstands : Text.Stands (s ++ w ++ d :: tail) s.length w := by simp [Text.Stands]
    obtain ⟨j, hj, hfind⟩ := hstands.find? (by simp)
    refine ⟨⟨s ++ w ++ d :: tail, w, (fill b' pre).length, (fill b' pre).length + j,
      (fill b' pre).length + j + w.length, .rule⟩, List.mem_filterMap.mpr ⟨_, hmem, ?_⟩, rfl,
        fun hplain hlead hbetween => ?_⟩
    · unfold span?
      simp only [hblank, Bool.false_eq_true, if_false, hfull, hfind]
      rfl
    · have hne' : w ≠ [] := fun e => by rw [e] at hblank; cases hblank
      have hfront' : Text.Stands (s ++ (w ++ d :: tail ++ fill b' rest)) 0 (s ++ w ++ d :: tail) := by
        rw [Text.stands_zero]
        exact ⟨fill b' rest, by simp⟩
      have hinner := hfront'.inner (Text.find?_stands hfind)
      rw [Nat.zero_add] at hinner
      rw [hs.placed hreads hplain hne' hlead htext hj hinner hbetween]
      simp

end Fence

/-! ## Literals -/

namespace Literal

variable {F : Fencing} {k b : Bool} {ps : List Piece}

theorem body?_cons (q c : Char) (t : Text) : body? q (c :: t) =
    if c = q then some []
    else if c = '\\' then
      match t with
      | [] => none
      | d :: t => if d = '\n' then none else (body? q t).map fun v => c :: d :: v
    else (body? q t).map (c :: ·) := by
  cases t with
  | nil =>
    unfold body?
    split
    · rfl
    · simp
  | cons d t => rw [body?]

/-- A literal goes over a text that has neither its quote nor a backslash. -/
theorem body?_over {q : Char} {w : Text} (hw : ∀ c ∈ w, c ≠ q ∧ c ≠ '\\') (t : Text) :
    body? q (w ++ t) = (body? q t).map (w ++ ·) := by
  induction w with
  | nil => simp
  | cons c w ih =>
    obtain ⟨hq, hb⟩ := hw c List.mem_cons_self
    rw [List.cons_append, body?_cons, if_neg hq, if_neg hb,
      ih fun d hd => hw d (List.mem_cons_of_mem c hd), Option.map_map]
    rfl

/-- A literal in pieces ends with a character, wherever it has holes. -/
theorem body?_fill {q : Char} (hq : q ∈ F.marks) (hf : Framed F k ps) {v : Text} (h : body? q (fill b ps) = some v) :
    ∃ content rest, ps = content ++ .char q :: rest ∧ v = fill b content ∧
      ∀ b', body? q (fill b' ps) = some (fill b' content) := by
  -- a backslash takes a character more, so the induction is on the number of pieces
  induction hn : ps.length using Nat.strong_induction_on generalizing ps k v with
  | _ n ih =>
  subst hn
  cases ps with
  | nil => cases h
  | cons p ps =>
    cases p with
    | hole old new =>
      have hover : ∀ b', body? q (fill b' (.hole old new :: ps)) =
          (body? q (fill b' ps)).map ((Piece.hole old new).text b' ++ ·) := by
        intro b'
        have hcalm := hf.calm_text (b := b')
        exact body?_over (fun c hc => ⟨fun e => (hcalm.plain c hc).1 (e ▸ hq), (hcalm.plain c hc).2⟩) _
      rw [hover] at h
      obtain ⟨w, hw, rfl⟩ := Option.map_eq_some_iff.mp h
      obtain ⟨content, rest, rfl, rfl, hall⟩ := ih ps.length (by simp) hf.2.2.2.2 hw rfl
      exact ⟨.hole old new :: content, rest, rfl, rfl, fun b' => by rw [hover, hall b']; rfl⟩
    | char c =>
      have hcons : ∀ b', body? q (fill b' (.char c :: ps)) = _ := fun b' => body?_cons q c (fill b' ps)
      have hps : Framed F (decide (c ∈ F.marks)) ps := hf
      rw [hcons] at h
      by_cases hcq : c = q
      · subst hcq
        rw [if_pos rfl] at h
        exact ⟨[], ps, rfl, (Option.some.inj h).symm, fun b' => by rw [hcons, if_pos rfl]; rfl⟩
      · rw [if_neg hcq] at h
        by_cases hb : c = '\\'
        · rw [if_pos hb] at h
          cases ps with
          | nil => cases h
          | cons p ps =>
            cases p with
            | hole old new =>
              have hmark : c ∈ F.marks := by simpa using hps.1
              exact absurd hb (F.plain c hmark).2.2
            | char d =>
              have hps : Framed F (decide (d ∈ F.marks)) ps := hps
              have h : (if d = '\n' then none else (body? q (fill b ps)).map fun v => c :: d :: v) = some v := h
              by_cases hd : d = '\n'
              · rw [if_pos hd] at h; cases h
              · rw [if_neg hd] at h
                obtain ⟨w, hw, rfl⟩ := Option.map_eq_some_iff.mp h
                obtain ⟨content, rest, rfl, rfl, hall⟩ :=
                  ih ps.length (by simp only [List.length_cons]; omega) hps hw rfl
                refine ⟨.char c :: .char d :: content, rest, rfl, rfl, fun b' => ?_⟩
                rw [hcons, if_neg hcq, if_pos hb]
                show (if d = '\n' then none else (body? q (fill b' _)).map fun v => c :: d :: v) = _
                rw [if_neg hd, hall b']
                rfl
        · rw [if_neg hb] at h
          obtain ⟨w, hw, rfl⟩ := Option.map_eq_some_iff.mp h
          obtain ⟨content, rest, rfl, rfl, hall⟩ := ih ps.length (by simp) hps hw rfl
          refine ⟨.char c :: content, rest, rfl, rfl, fun b' => ?_⟩
          rw [hcons, if_neg hcq, if_neg hb, hall b']
          rfl

theorem front?_fill {c : Char} (hf : Framed F k (.char c :: ps)) {n : Nat} {q : Char} {v : Text}
    (h : front? (fill b (.char c :: ps)) = some (n, q, v)) :
    ∃ content rest, .char c :: ps = .char c :: content ++ .char c :: rest ∧ v = fill b content ∧
      ∀ b', front? (fill b' (.char c :: ps)) = some ((fill b' content).length + 1, c, fill b' content) := by
  have hcons : ∀ b', front? (fill b' (.char c :: ps)) =
      if isQuote c then (body? c (fill b' ps)).map fun v => (v.length + 1, c, v) else none := fun _ => rfl
  have hps : Framed F (decide (c ∈ F.marks)) ps := hf
  rw [hcons] at h
  by_cases hq : isQuote c = true
  · rw [if_pos hq] at h
    obtain ⟨w, hw, hx⟩ := Option.map_eq_some_iff.mp h
    obtain ⟨-, hx⟩ := Prod.mk.inj hx
    obtain ⟨-, rfl⟩ := Prod.mk.inj hx
    obtain ⟨content, rest, rfl, rfl, hall⟩ := body?_fill (F.quotes c hq) hps hw
    exact ⟨content, rest, rfl, rfl, fun b' => by rw [hcons, if_pos hq, hall b']; rfl⟩
  · rw [if_neg hq] at h; cases h

theorem steady (F : Fencing) : Steady F front? := by
  intro k c ps b x hf h
  obtain ⟨n, q, v⟩ := x
  obtain ⟨content, rest, hps, -, hall⟩ := front?_fill hf h
  refine ⟨.char c :: content ++ [.char c], rest, by rw [hps]; simp, by simp,
    fun b' => ⟨(c, fill b' content), ?_⟩⟩
  rw [hall b']
  simp

theorem front?_plain {marks v : Text} (hq : ∀ c, isQuote c = true → c ∈ marks) (hv : ∀ c ∈ v, c ∉ marks)
    (hne : v ≠ []) (t : Text) : front? (v ++ t) = none := by
  obtain ⟨c, v, rfl⟩ := List.exists_cons_of_ne_nil hne
  exact if_neg fun h => hv c List.mem_cons_self (hq c h)

theorem contained (F : Fencing) : Contained F front? := by
  intro k old new ps b hf u v huv hv n a h
  have hcalm := hf.calm_text (b := b)
  have hplain : ∀ c ∈ v, c ∉ F.marks :=
    fun c hc => (hcalm.plain c (by rw [huv]; exact List.mem_append_right u hc)).1
  rw [front?_plain F.quotes hplain hv] at h
  cases h

/-- A text without marks has no literals. -/
theorem all_plain {marks v : Text} (hq : ∀ c, isQuote c = true → c ∈ marks) (hv : ∀ c ∈ v, c ∉ marks) :
    all v = [] := by
  rw [all, scan_eq_sweep, List.map_eq_nil_iff, List.eq_nil_iff_forall_not_mem]
  intro x hx
  obtain ⟨m, n, -, hhit⟩ := Text.mem_sweep hx
  by_cases hne : v.drop m = []
  · rw [hne] at hhit; cases hhit
  · have := front?_plain hq (fun c hc => hv c (List.mem_of_mem_drop hc)) hne []
    rw [List.append_nil, hhit] at this
    cases this

/-- A literal among pieces has the same pieces for its value, however holes are filled. -/
theorem all_fill (hf : Framed F k ps) {l : Literal} (h : l ∈ all (fill b ps)) :
    ∃ pre content post, ps = pre ++ content ++ post ∧ l.value = fill b content ∧
      ∀ b', ∃ l' ∈ all (fill b' ps), l'.value = fill b' content ∧ l'.start = (fill b' pre).length := by
  rw [all, scan_eq_sweep] at h
  obtain ⟨x, hx, rfl⟩ := List.mem_map.mp h
  cases found_of_sweep (steady F) (contained F) hf hx with
  | outside pre c post k n hps hpost hxe hhit hall =>
    obtain ⟨content, rest, hrest, hv, hfront⟩ := front?_fill hpost hhit
    refine ⟨pre ++ [.char c], content, .char c :: rest, by rw [hps, hrest]; simp, hv, fun b' => ?_⟩
    have hmem := hall b' 0 _ _ (hfront b')
    refine ⟨⟨fill b' content, (fill b' (pre ++ [.char c])).length, c :: fill b' content ++ [c]⟩, ?_, rfl, rfl⟩
    rw [all, scan_eq_sweep]
    refine List.mem_map.mpr ⟨_, hmem, ?_⟩
    simp
  | inside pre old new post k u v n hps hpost huv hv hxe hhit =>
    have hcalm := hpost.calm_text (b := b)
    have hplain : ∀ c ∈ v, c ∉ F.marks :=
      fun c hc => (hcalm.plain c (by rw [huv]; exact List.mem_append_right u hc)).1
    rw [front?_plain F.quotes hplain hv] at hhit
    cases hhit

end Literal

end ClassTidy
