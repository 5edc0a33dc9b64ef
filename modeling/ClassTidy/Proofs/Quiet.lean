/-
  ClassTidy.Proofs.Quiet — class strings that can change places with their canonical forms.

  A class is quiet if it holds no mark and no backslash, closes the parentheses it opens,
  and can be taken neither for the lead of a rule nor for the end of a closing. A class
  string of quiet classes is calm (`calm_join`): what holds of each class holds across the
  gaps between them. Sorting and dropping repeats leave classes as they are, so that the
  canonical form of such a class string is calm as well (`calm_normal`).
-/
import ClassTidy.Proofs.Calls
import ClassTidy.Proofs.Canonical

namespace ClassTidy

open ClassList (isSeparator isGap joinParts)

/-- A class that cannot be mistaken for something else, wherever it stands in a class string. -/
structure Fencing.Quiet (F : Fencing) (n : Text) : Prop where
  plain : ∀ c ∈ n, c ∉ F.marks ∧ c ≠ '\\'
  level : level 0 n = some 0
  lead : ∀ f ∈ F.fences, ¬ f.lead <:+: n
  start : ∀ f ∈ F.fences, ∀ p ∈ f.tail.head?, ∀ c ∈ n.head?, p.accepts c = false

/-! ## Across gaps -/

theorem infix_of_append_cons {p a b : Text} {c : Char} (h : p <:+: a ++ c :: b) (hc : c ∉ p) :
    p <:+: a ∨ p <:+: b := by
  obtain ⟨u, v, e⟩ := h
  rcases List.append_eq_append_iff.mp e with ⟨w, rfl, -⟩ | ⟨w, hup, hcv⟩
  · exact Or.inl ⟨u, w, rfl⟩
  · cases w with
    | nil => exact Or.inl ⟨u, [], by simpa using hup⟩
    | cons d w =>
      obtain ⟨rfl, rfl⟩ := List.cons.inj hcv
      -- the character stands in `p` or before it
      rcases List.append_eq_append_iff.mp hup with ⟨z, -, hp⟩ | ⟨z, -, hz⟩
      · exact absurd (by rw [hp]; simp) hc
      · cases z with
        | nil => exact absurd (by rw [← show c :: w = p from hz]; exact List.mem_cons_self) hc
        | cons d z =>
          obtain ⟨-, rfl⟩ := List.cons.inj hz
          exact Or.inr ⟨z, v, by simp⟩

theorem infix_of_append_gap {p g : Text} (hp : ∀ c ∈ p, isSeparator c = false) (hne : p ≠ [])
    (hg : ∀ c ∈ g, isSeparator c = true) {b : Text} (h : p <:+: g ++ b) : p <:+: b := by
  induction g with
  | nil => exact h
  | cons c g ih =>
    have hc : c ∉ p := fun hc => by
      have := hg c List.mem_cons_self
      rw [hp c hc] at this; cases this
    rcases infix_of_append_cons (a := []) h hc with h | h
    · exact absurd (List.infix_nil.mp h) hne
    · exact ih (fun d hd => hg d (List.mem_cons_of_mem c hd)) h

/-- What has no separator and occurs in a class string occurs in a class. -/
theorem infix_joinParts {p : Text} (hp : ∀ c ∈ p, isSeparator c = false) (hne : p ≠ []) {ns gs : List Text}
    (hg : ∀ g ∈ gs, isGap g = true) (hlen : ns.length ≤ gs.length + 1) (h : p <:+: joinParts ns gs) :
    ∃ n ∈ ns, p <:+: n := by
  induction ns generalizing gs with
  | nil => exact absurd (List.infix_nil.mp h) hne
  | cons n ns ih =>
    cases gs with
    | nil =>
      obtain rfl : ns = [] := List.eq_nil_of_length_eq_zero (by simpa using hlen)
      exact ⟨n, List.mem_cons_self, by simpa [joinParts] using h⟩
    | cons g gs =>
      have hsep := ClassList.gap_separators (hg g List.mem_cons_self)
      obtain ⟨c, g, rfl⟩ := List.exists_cons_of_ne_nil (ClassList.gap_ne_nil (hg g List.mem_cons_self))
      have hc : c ∉ p := fun hc => by
        have := hsep c List.mem_cons_self
        rw [hp c hc] at this; cases this
      rw [joinParts, List.append_assoc, List.cons_append] at h
      rcases infix_of_append_cons h hc with h | h
      · exact ⟨n, List.mem_cons_self, h⟩
      · obtain ⟨m, hm, hin⟩ := ih (fun x hx => hg x (List.mem_cons_of_mem _ hx)) (by simpa using hlen)
          (infix_of_append_gap hp hne (fun d hd => hsep d (List.mem_cons_of_mem c hd)) h)
        exact ⟨m, List.mem_cons_of_mem n hm, hin⟩

theorem level_plain {w : Text} (h : ∀ c ∈ w, c ≠ '(' ∧ c ≠ ')') : level 0 w = some 0 := by
  induction w with
  | nil => rfl
  | cons c w ih =>
    obtain ⟨hopen, hclose⟩ := h c List.mem_cons_self
    rw [level_cons, if_neg hopen, if_neg hclose]
    exact ih fun d hd => h d (List.mem_cons_of_mem c hd)

theorem level_gap {g : Text} (hg : ∀ c ∈ g, isSeparator c = true) : level 0 g = some 0 := by
  refine level_plain fun c hc => ?_
  have hsep := hg c hc
  constructor <;> rintro rfl <;> cases hsep

theorem level_joinParts {ns gs : List Text} (hg : ∀ g ∈ gs, isGap g = true)
    (hn : ∀ n ∈ ns, level 0 n = some 0) :
    level 0 (joinParts ns gs) = some 0 := by
  induction ns generalizing gs with
  | nil => rfl
  | cons n ns ih =>
    have hfirst := hn n List.mem_cons_self
    have hns : ∀ m ∈ ns, level 0 m = some 0 := fun m hm => hn m (List.mem_cons_of_mem n hm)
    cases gs with
    | nil => rw [joinParts, level_append, hfirst, Option.bind_some, ih hg hns]
    | cons g gs =>
      rw [joinParts, level_append, level_append, hfirst, Option.bind_some,
        level_gap (ClassList.gap_separators (hg g List.mem_cons_self)), Option.bind_some,
        ih (fun x hx => hg x (List.mem_cons_of_mem g hx)) hns]

namespace Fencing

variable {F : Fencing}

/-- A separator is nothing that anything begins or ends with. -/
theorem separator_plain (F : Fencing) {c : Char} (hc : isSeparator c = true) : c ∉ F.marks ∧ c ≠ '\\' := by
  refine ⟨fun hmark => ?_, fun e => by subst e; cases hc⟩
  have := (F.plain c hmark).1
  rw [ClassList.blank_of_separator hc] at this
  cases this

/-- A class string of quiet classes is calm. -/
theorem calm_join {l : ClassList} (hl : l.Filled) (h : ∀ n ∈ l.tokens, n ≠ [] → F.Quiet n) : F.Calm l.join := by
  obtain ⟨w, hw, hwne⟩ := hl.word
  have hcount : l.tokens.length ≤ l.gaps.length + 1 := by rcases hl.wellFormed.count with e | e <;> omega
  refine ⟨fun e => ?_, fun c hc => ?_, ?_, fun f hf hlead => ?_, fun f hf p hp c hc => ?_⟩
  · obtain ⟨c, hc⟩ := List.exists_mem_of_ne_nil w hwne
    have : c ∈ l.join := ClassList.mem_joinParts hw hc
    rw [e] at this; cases this
  · rcases ClassList.mem_of_joinParts hc with ⟨n, hn, hcn⟩ | ⟨g, hg, hcg⟩
    · exact (h n hn (List.ne_nil_of_mem hcn)).plain c hcn
    · exact F.separator_plain (ClassList.gap_separators (hl.wellFormed.gaps g hg) c hcg)
  · refine level_joinParts hl.wellFormed.gaps fun n hn => ?_
    by_cases hne : n = []
    · subst hne; rfl
    · exact (h n hn hne).level
  · have hs := F.sound f hf
    obtain ⟨n, hn, hin⟩ := infix_joinParts (fun c hc => (hs.lead c hc).2) hs.leads hl.wellFormed.gaps hcount hlead
    have hne : n ≠ [] := fun e => hs.leads (List.infix_nil.mp (e ▸ hin))
    exact (h n hn hne).lead f hf hin
  · rcases hl.start with ⟨n, ns, htok, hn⟩ | ⟨n, ns, g, gs, rfl, -⟩
    · rw [ClassList.join, htok, ClassList.joinParts_head? hn] at hc
      exact (h n (by rw [htok]; exact List.mem_cons_self) hn).start f hf p hp c hc
    · have hg := hl.wellFormed.gaps g List.mem_cons_self
      obtain ⟨d, g, rfl⟩ := List.exists_cons_of_ne_nil (ClassList.gap_ne_nil hg)
      obtain rfl : d = c := Option.some.inj hc
      exact (F.sound f hf).stop p hp d (ClassList.gap_separators hg d List.mem_cons_self)

/-- A class string that is not blank and has quiet classes is calm. -/
theorem calm_of_words {t : Text} (ht : Text.isBlankOnly t = false) (h : ∀ n ∈ ClassList.words t, F.Quiet n) :
    F.Calm t := by
  have hne : t ≠ [] := fun e => by rw [e] at ht; cases ht
  have := calm_join (F := F) (ClassList.filled_split hne (ClassList.not_gap ht)) fun n hn hnne =>
    h n (List.mem_filter.mpr ⟨hn, by simpa using hnne⟩)
  rwa [ClassList.join_split] at this

/-- The canonical form of such a class string is calm. -/
theorem calm_normal {table : RankTable} {o : ClassList.Options} (hf : o.holdFirst = false) (hl : o.holdLast = false)
    {t : Text} (ht : Text.isBlankOnly t = false) (h : ∀ n ∈ ClassList.words t, F.Quiet n)
    (hs : ClassList.Settles table o t) :
    F.Calm (table.normalize o t) := by
  rcases hs.cases hf hl with hfix | ⟨-, l, hcanonical, hjoin, htokens⟩
  · rw [ClassList.fixed?_of_not_gap (ClassList.not_gap ht) hfix]
    exact calm_of_words ht h
  · rw [hjoin]
    exact calm_join hcanonical.toFilled fun n hn hne =>
      h n (List.mem_filter.mpr ⟨htokens n hn, by simpa using hne⟩)

end Fencing

end ClassTidy
