/-
  ClassTidy.Proofs.LeftmostLiterals — which literals a text has.

  Whether a literal begins at a quote is a matter of what follows it alone: a body that the
  quote can hold, and the quote again (`reads_iff`). There is one such body at most, so a
  literal that begins somewhere also ends in one place.

  Lists of literals can then be told without a scan (`Leftmost`): they are in order and apart,
  each stands where it says, and every place where a literal begins lies in one of them. A
  character that begins no literal can be left out of such a text (`leftmost_miss`), and a
  literal in front of it is the first of the list (`leftmost_hit`). These are the steps of the
  scan, so the list is the one that the scan gives.

  Proved (`all_leftmost`): the literals of a text are the one list of that kind.
-/
import ClassTidy.Proofs.Strings

namespace ClassTidy.Literal

open Text (Stands)

/-- Where a literal starts, its quote included. -/
def first (l : Literal) : Nat := l.start - 1

/-- The offset behind a literal, its quote included. -/
def stop (l : Literal) : Nat := l.start + l.value.length + 1

/-- Literals of a text that starts at offset `i`: apart from each other and in order, each where it says, and none
left out that begins outside of them. -/
structure Leftmost (i : Nat) (t : Text) (ls : List Literal) : Prop where
  apart : ls.Pairwise fun a b => a.stop ≤ b.first
  quoted : ∀ l ∈ ls, ∃ k q, l.start = i + k + 1 ∧ isQuote q = true ∧ Body q l.value ∧
    l.full = q :: l.value ++ [q] ∧
    Stands t k l.full
  covered : ∀ k q v, isQuote q = true → Body q v → Stands t k (q :: v ++ [q]) →
    ∃ l ∈ ls, l.first ≤ i + k ∧ i + k < l.stop

/-! ## Where literals begin -/

/-- A literal is read where a body and the quote follow. -/
theorem reads_iff {q : Char} (hq : isQuote q = true) {t v : Text} :
    body? q t = some v ↔ Body q v ∧ v ++ [q] <+: t := by
  constructor
  · intro h
    exact ⟨body_of_read h, Span.body?_prefix h⟩
  · rintro ⟨hv, rest, rfl⟩
    simpa using hv.read (quote_ne_backslash hq) rest

theorem stands_front {q c : Char} {t v : Text} : Stands (c :: t) 0 (q :: v ++ [q]) ↔ q = c ∧ v ++ [q] <+: t := by
  rw [Text.stands_zero, List.cons_append, List.cons_prefix_cons]

/-- Nothing stands behind the end of a text. -/
theorem not_stands_nil {q : Char} {v : Text} {k : Nat} : ¬ Stands [] k (q :: v ++ [q]) := by
  intro h
  have hle := h.le_length (by simp)
  simp at hle

/-- What stands behind a part of a text stands in the rest of it. -/
theorem stands_behind {w t p : Text} {k : Nat} : Stands (w ++ t) (w.length + k) p ↔ Stands t k p := by
  rw [Stands, Stands, ← List.drop_drop, List.drop_left]

/-! ## The steps of the scan -/

theorem leftmost_nil {i : Nat} {ls : List Literal} : Leftmost i [] ls ↔ ls = [] := by
  constructor
  · intro h
    refine List.eq_nil_iff_forall_not_mem.mpr fun l hl => ?_
    obtain ⟨k, q, -, -, -, hfull, hstands⟩ := h.quoted l hl
    rw [hfull] at hstands
    exact not_stands_nil hstands
  · rintro rfl
    exact ⟨.nil, fun l hl => absurd hl List.not_mem_nil, fun k q v _ _ hstands => absurd hstands not_stands_nil⟩

/-- A character that begins no literal can be left out. -/
theorem leftmost_miss {c : Char} {t : Text} (h : isQuote c = true → body? c t = none) {i : Nat} {ls : List Literal} :
    Leftmost i (c :: t) ls ↔ Leftmost (i + 1) t ls := by
  -- a literal of the whole text cannot begin with `c`
  have hfront : ∀ q v, isQuote q = true → Body q v → ¬ Stands (c :: t) 0 (q :: v ++ [q]) := by
    intro q v hq hv hstands
    obtain ⟨rfl, hprefix⟩ := stands_front.mp hstands
    have hread := (reads_iff hq).mpr ⟨hv, hprefix⟩
    rw [h hq] at hread
    cases hread
  constructor
  · intro hl
    refine ⟨hl.apart, fun l hmem => ?_, fun k q v hq hv hstands => ?_⟩
    · obtain ⟨k, q, hk, hq, hv, hfull, hstands⟩ := hl.quoted l hmem
      cases k with
      | zero => exact absurd (hfull ▸ hstands) (hfront q l.value hq hv)
      | succ k => exact ⟨k, q, by omega, hq, hv, hfull, Text.stands_cons.mp hstands⟩
    · obtain ⟨l, hmem, hfirst, hstop⟩ := hl.covered (k + 1) q v hq hv (Text.stands_cons.mpr hstands)
      exact ⟨l, hmem, by omega, by omega⟩
  · intro hl
    refine ⟨hl.apart, fun l hmem => ?_, fun k q v hq hv hstands => ?_⟩
    · obtain ⟨k, q, hk, hq, hv, hfull, hstands⟩ := hl.quoted l hmem
      exact ⟨k + 1, q, by omega, hq, hv, hfull, Text.stands_cons.mpr hstands⟩
    · cases k with
      | zero => exact absurd hstands (hfront q v hq hv)
      | succ k =>
        obtain ⟨l, hmem, hfirst, hstop⟩ := hl.covered k q v hq hv (Text.stands_cons.mp hstands)
        exact ⟨l, hmem, by omega, by omega⟩

/-- Of the literals of a text, the one that begins it is the first, since the place where it begins lies in none
behind it. -/
theorem Leftmost.head {q : Char} (hq : isQuote q = true) {v : Text} (hv : Body q v) {i : Nat} {t : Text}
    {ls : List Literal} (h : Leftmost i (q :: v ++ q :: t) ls) :
    ∃ rest, ls = ⟨v, i + 1, q :: v ++ [q]⟩ :: rest := by
  have hstands : Stands (q :: v ++ q :: t) 0 (q :: v ++ [q]) := Text.stands_zero.mpr ⟨t, by simp⟩
  obtain ⟨l, hmem, hfirst, -⟩ := h.covered 0 q v hq hv hstands
  cases ls with
  | nil => cases hmem
  | cons a rest =>
    obtain ⟨hbehind, -⟩ := List.pairwise_cons.mp h.apart
    obtain ⟨ka, qa, hka, hqa, hbody, hfull, hplace⟩ := h.quoted a List.mem_cons_self
    -- `a` is not behind the literal that begins the text
    have hka0 : ka = 0 := by
      rcases List.mem_cons.mp hmem with rfl | hmem
      · simp only [first] at hfirst
        omega
      · have hle := hbehind l hmem
        simp only [stop] at hle
        omega
    subst hka0
    rw [hfull, List.cons_append, stands_front] at hplace
    obtain ⟨rfl, hprefix⟩ := hplace
    have hread := (reads_iff hq).mpr ⟨hbody, hprefix⟩
    rw [hv.read (quote_ne_backslash hq) t] at hread
    have hvalue : v = a.value := Option.some.inj hread
    refine ⟨rest, ?_⟩
    rw [hvalue, ← hfull, show i + 1 = a.start by omega]

/-- A literal in front of a text is the first of its literals, and the others are those behind it. -/
theorem leftmost_hit {q : Char} (hq : isQuote q = true) {v : Text} (hv : Body q v) {i : Nat} {t : Text}
    {ls : List Literal} :
    Leftmost i (q :: v ++ q :: t) ls ↔
      ∃ rest, ls = ⟨v, i + 1, q :: v ++ [q]⟩ :: rest ∧ Leftmost (i + 1 + v.length + 1) t rest := by
  have hsplit : q :: v ++ q :: t = (q :: v ++ [q]) ++ t := by simp
  have hlen : (q :: v ++ [q]).length = v.length + 2 := by simp
  constructor
  · intro h
    obtain ⟨rest, rfl⟩ := h.head hq hv
    obtain ⟨hbehind, hapart⟩ := List.pairwise_cons.mp h.apart
    rw [hsplit] at h
    refine ⟨rest, rfl, hapart, fun l hmem => ?_, fun k q' v' hq' hv' hstands => ?_⟩
    · obtain ⟨k, q', hk, hq', hbody, hfull, hstands⟩ := h.quoted l (List.mem_cons_of_mem _ hmem)
      have hle := hbehind l hmem
      simp only [stop, first] at hle
      refine ⟨k - (v.length + 2), q', by omega, hq', hbody, hfull, ?_⟩
      rw [show k = (q :: v ++ [q]).length + (k - (v.length + 2)) by omega, stands_behind] at hstands
      exact hstands
    · obtain ⟨l, hmem, hfirst, hstop⟩ :=
        h.covered ((q :: v ++ [q]).length + k) q' v' hq' hv' (stands_behind.mpr hstands)
      rcases List.mem_cons.mp hmem with rfl | hmem
      · simp only [stop] at hstop
        omega
      · exact ⟨l, hmem, by omega, by omega⟩
  · rintro ⟨rest, rfl, h⟩
    rw [hsplit]
    refine ⟨List.pairwise_cons.mpr ⟨fun l hmem => ?_, h.apart⟩, fun l hmem => ?_,
      fun k q' v' hq' hv' hstands => ?_⟩
    · obtain ⟨k, -, hk, -⟩ := h.quoted l hmem
      simp only [stop, first]
      omega
    · rcases List.mem_cons.mp hmem with rfl | hmem
      · exact ⟨0, q, rfl, hq, hv, rfl, Text.stands_zero.mpr (List.prefix_append _ _)⟩
      · obtain ⟨k, q', hk, hq', hbody, hfull, hstands⟩ := h.quoted l hmem
        exact ⟨(q :: v ++ [q]).length + k, q', by omega, hq', hbody, hfull, stands_behind.mpr hstands⟩
    · by_cases hin : k < v.length + 2
      · refine ⟨_, List.mem_cons_self, ?_, ?_⟩
        · simp only [first]
          omega
        · simp only [stop]
          omega
      · rw [show k = (q :: v ++ [q]).length + (k - (v.length + 2)) by omega, stands_behind] at hstands
        obtain ⟨l, hmem, hfirst, hstop⟩ := h.covered _ q' v' hq' hv' hstands
        exact ⟨l, List.mem_cons_of_mem _ hmem, by omega, by omega⟩

/-- The scan gives the one list of literals that leaves none out. -/
theorem eq_scan_iff (i : Nat) (t : Text) (ls : List Literal) : ls = scan 0 i t ↔ Leftmost i t ls := by
  -- a literal takes any number of characters at once, so the induction is on the length of the text
  induction hn : t.length using Nat.strong_induction_on generalizing i t ls with
  | _ n ih =>
  subst hn
  cases t with
  | nil => exact leftmost_nil.symm
  | cons c t =>
    by_cases hq : isQuote c = true
    · cases hread : body? c t with
      | none =>
        rw [scan_unread hread, leftmost_miss fun _ => hread]
        exact ih t.length (by simp) _ _ _ rfl
      | some v =>
        obtain ⟨hv, rest, rfl⟩ := (reads_iff hq).mp hread
        rw [List.append_assoc, List.singleton_append, ← List.cons_append, leftmost_hit hq hv, scan_quoted hq hv]
        have hshort : rest.length < (c :: (v ++ [c] ++ rest)).length := by
          simp only [List.length_cons, List.length_append, List.length_nil]
          omega
        have hrest := fun ls' => ih rest.length hshort (i + 1 + v.length + 1) rest ls' rfl
        constructor
        · rintro rfl
          exact ⟨_, rfl, (hrest _).mp rfl⟩
        · rintro ⟨ls', rfl, hls'⟩
          rw [(hrest ls').mpr hls']
    · rw [scan_pass (by simpa using hq), leftmost_miss fun h => absurd h hq]
      exact ih t.length (by simp) _ _ _ rfl

/-- The literals of a text are in order and apart; each is a quote, a body that the quote can hold and the quote
again, and stands in the text where it says; and no quote outside of them begins a literal. They are the only list of
that kind. -/
theorem all_leftmost (t : Text) (ls : List Literal) :
    ls = all t ↔
      (ls.Pairwise fun a b => a.stop ≤ b.first) ∧
      (∀ l ∈ ls, ∃ q, isQuote q = true ∧ Body q l.value ∧ 0 < l.start ∧ l.full = q :: l.value ++ [q] ∧
        Text.slice t l.first l.stop = l.full) ∧
      (∀ i q v, t[i]? = some q → isQuote q = true →
        (∀ l ∈ ls, ¬ (l.first ≤ i ∧ i < l.stop)) → Body q v →
        ¬ Stands t i (q :: v ++ [q])) := by
  rw [all, eq_scan_iff]
  constructor
  · intro h
    refine ⟨h.apart, fun l hl => ?_, fun i q v _ hq hout hv hstands => ?_⟩
    · obtain ⟨k, q, hk, hq, hv, hfull, hstands⟩ := h.quoted l hl
      refine ⟨q, hq, hv, by omega, hfull, ?_⟩
      have hslice := hstands.slice
      have hlen : k + l.full.length = l.stop := by
        rw [hfull, stop]
        simp
        omega
      rwa [hlen, show k = l.first by rw [first]; omega] at hslice
    · obtain ⟨l, hl, hfirst, hstop⟩ := h.covered i q v hq hv hstands
      exact hout l hl ⟨by omega, by omega⟩
  · rintro ⟨hapart, hquoted, hmissed⟩
    refine ⟨hapart, fun l hl => ?_, fun k q v hq hv hstands => ?_⟩
    · obtain ⟨q, hq, hv, hpos, hfull, hslice⟩ := hquoted l hl
      refine ⟨l.first, q, by rw [first]; omega, hq, hv, hfull, ?_⟩
      rw [← hslice]
      exact Text.stands_slice t l.first l.stop
    · have hget : t[k]? = some q := by
        have := hstands.getElem? (j := 0) (by simp)
        simpa using this
      by_contra hout
      refine hmissed k q v hget hq (fun l hl hin => hout ⟨l, hl, ?_⟩) hv hstands
      omega

end ClassTidy.Literal
