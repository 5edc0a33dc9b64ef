/-
  ClassTidy.Proofs.Sweep — going through a text from left to right.

  Rules, calls and literals are all found in one way: at each offset it is asked what is in
  front, and what is found is passed over before the next is looked for. `Text.sweep` is
  that way on its own. Calls (`callsFrom_eq_sweep`) and literals (`scan_eq_sweep`) are
  sweeps; the matches of rules are in `ClassTidy.Proofs.Fence`.

  Rules and calls both begin with an opening: a word, a run of blanks that may be missing,
  and more characters, of which the first is no blank. So there is one way at most to read
  an opening (`Opening.size?_eq_some`).
-/
import Mathlib.Data.List.Forall2
import Mathlib.Data.List.TakeWhile
import ClassTidy.Span.Call

namespace ClassTidy

namespace Text

variable {α : Type}

/-- What is found in a text that starts at offset `i`, after `skip` more characters, each with its offset; `hit?`
looks at the front of a text and says how many characters it takes behind the first. -/
def sweep (hit? : Text → Option (Nat × α)) (skip i : Nat) : Text → List (Nat × α)
  | [] => []
  | c :: t =>
    match skip with
    | n + 1 => sweep hit? n (i + 1) t
    | 0 =>
      match hit? (c :: t) with
      | some (n, a) => (i, a) :: sweep hit? n (i + 1) t
      | none => sweep hit? 0 (i + 1) t

variable {hit? : Text → Option (Nat × α)}

theorem sweep_skip (n i : Nat) (t : Text) : sweep hit? n i t = sweep hit? 0 (i + n) (t.drop n) := by
  induction t generalizing n i with
  | nil => simp [sweep]
  | cons c t ih =>
    cases n with
    | zero => rfl
    | succ n => rw [sweep, ih, List.drop_succ_cons, show i + 1 + n = i + (n + 1) by omega]

theorem sweep_miss {c : Char} {t : Text} (h : hit? (c :: t) = none) (i : Nat) :
    sweep hit? 0 i (c :: t) = sweep hit? 0 (i + 1) t := by simp only [sweep, h]

theorem sweep_hit {c : Char} {t : Text} {n : Nat} {a : α} (h : hit? (c :: t) = some (n, a)) (i : Nat) :
    sweep hit? 0 i (c :: t) = (i, a) :: sweep hit? 0 (i + 1 + n) (t.drop n) := by
  simp only [sweep, h]
  rw [sweep_skip]

/-- What a sweep finds is in front of the rest of the text. -/
theorem mem_sweep {k i : Nat} {t : Text} {x : Nat × α} (h : x ∈ sweep hit? k i t) :
    ∃ m n, x.1 = i + m ∧ hit? (t.drop m) = some (n, x.2) := by
  induction t generalizing k i with
  | nil => cases h
  | cons c t ih =>
    have later : ∀ k', x ∈ sweep hit? k' (i + 1) t → ∃ m n, x.1 = i + m ∧
        hit? ((c :: t).drop m) = some (n, x.2) := by
      intro k' hx
      obtain ⟨m, n, hm, hhit⟩ := ih hx
      exact ⟨m + 1, n, by omega, hhit⟩
    cases k with
    | succ k => exact later k h
    | zero =>
      unfold sweep at h
      simp only at h
      split at h
      · rename_i n a hhit
        rcases List.mem_cons.mp h with rfl | h
        · exact ⟨0, n, rfl, hhit⟩
        · exact later n h
      · exact later 0 h

/-- Going over a part of a text in which nothing that is found goes beyond it. -/
theorem sweep_over {w t : Text}
    (h : ∀ a b, w = a ++ b → b ≠ [] → ∀ n x, hit? (b ++ t) = some (n, x) → n < b.length) {k : Nat}
    (hk : k ≤ w.length) (i : Nat) : ∃ inner, sweep hit? k i (w ++ t) = inner ++ sweep hit? 0 (i + w.length) t ∧
      ∀ y ∈ inner, ∃ a b n, w = a ++ b ∧ b ≠ [] ∧ y.1 = i + a.length ∧ hit? (b ++ t) = some (n, y.2) := by
  induction w generalizing k i with
  | nil =>
    obtain rfl : k = 0 := by simpa using hk
    exact ⟨[], rfl, fun y hy => absurd hy List.not_mem_nil⟩
  | cons c w ih =>
    have hw : ∀ a b, w = a ++ b → b ≠ [] → ∀ n x, hit? (b ++ t) = some (n, x) → n < b.length :=
      fun a b e => h (c :: a) b (by rw [e, List.cons_append])
    -- what is found behind `c` is one character further on here
    have later : ∀ k' ≤ w.length, ∃ inner, sweep hit? k' (i + 1) (w ++ t) =
      inner ++ sweep hit? 0 (i + (c :: w).length) t ∧
        ∀ y ∈ inner, ∃ a b n, c :: w = a ++ b ∧ b ≠ [] ∧ y.1 = i + a.length ∧
          hit? (b ++ t) = some (n, y.2) := by
      intro k' hk'
      obtain ⟨inner, hinner, hmem⟩ := ih hw hk' (i + 1)
      refine ⟨inner, by rw [hinner, List.length_cons, show i + 1 + w.length = i + (w.length + 1) by omega],
        fun y hy => ?_⟩
      obtain ⟨a, b, n, rfl, hb, hy, hhit⟩ := hmem y hy
      exact ⟨c :: a, b, n, rfl, hb, by rw [hy, List.length_cons]; omega, hhit⟩
    cases k with
    | succ k => exact later k (by simpa using hk)
    | zero =>
      cases hhit : hit? (c :: (w ++ t)) with
      | none =>
        rw [List.cons_append, sweep_miss hhit]
        exact later 0 (Nat.zero_le _)
      | some found =>
        obtain ⟨n, x⟩ := found
        have hn : n < (c :: w).length := h [] (c :: w) rfl (List.cons_ne_nil c w) n x hhit
        obtain ⟨inner, hinner, hmem⟩ := later n (Nat.le_of_lt_succ hn)
        refine ⟨(i, x) :: inner, ?_, fun y hy => ?_⟩
        · simp only [List.cons_append, sweep, hhit, hinner]
        · rcases List.mem_cons.mp hy with rfl | hy
          · exact ⟨[], c :: w, n, rfl, List.cons_ne_nil c w, rfl, hhit⟩
          · exact hmem y hy

/-- The characters in front of a text pass tests, one each. -/
def fits : List (Char → Bool) → Text → Bool
  | [], _ => true
  | _ :: _, [] => false
  | p :: ps, c :: t => p c && fits ps t

/-- A text passes tests, one for each character. -/
abbrev Passes (ps : List (Char → Bool)) (s : Text) : Prop := List.Forall₂ (fun p c => p c = true) ps s

theorem Passes.split {ps qs : List (Char → Bool)} {s : Text} (h : Passes (ps ++ qs) s) :
    ∃ a b, s = a ++ b ∧ Passes ps a ∧ Passes qs b := by
  have ha := List.forall₂_take ps.length h
  have hb := List.forall₂_drop ps.length h
  rw [List.take_left] at ha
  rw [List.drop_left] at hb
  exact ⟨_, _, (List.take_append_drop ps.length s).symm, ha, hb⟩

theorem fits_iff {ps : List (Char → Bool)} {t : Text} :
    fits ps t = true ↔ ∃ s rest, t = s ++ rest ∧ Passes ps s := by
  induction ps generalizing t with
  | nil => exact ⟨fun _ => ⟨[], t, rfl, .nil⟩, fun _ => by simp [fits]⟩
  | cons p ps ih =>
    cases t with
    | nil =>
      refine ⟨fun h => by simp [fits] at h, ?_⟩
      rintro ⟨s, rest, e, hs⟩
      obtain ⟨rfl, -⟩ := List.append_eq_nil_iff.mp e.symm
      cases hs
    | cons c t =>
      rw [fits, Bool.and_eq_true, ih]
      constructor
      · rintro ⟨hc, s, rest, rfl, hs⟩
        exact ⟨c :: s, rest, rfl, .cons hc hs⟩
      · rintro ⟨s, rest, e, hs⟩
        cases hs with
        | cons hc hs =>
          obtain ⟨rfl, rfl⟩ := List.cons.inj e
          exact ⟨hc, _, rest, rfl, hs⟩

end Text

/-! ## Openings -/

/-- What begins a rule's match or a call: a word, a run of blanks, characters that come behind it, and the fence. -/
structure Opening where
  lead : Text
  gap : Char → Bool
  behind : List (Char → Bool)
  fence : List (Char → Bool)

namespace Opening

/-- How far an opening in front of a text goes. -/
def size? (o : Opening) (t : Text) : Option Nat :=
  if o.lead.isPrefixOf t then
    let rest := t.drop o.lead.length
    let blanks := rest.takeWhile o.gap
    if Text.fits (o.behind ++ o.fence) (rest.drop blanks.length) then
      some (o.lead.length + blanks.length + (o.behind ++ o.fence).length)
    else none
  else none

/-- The parts of a text that is an opening. -/
structure Reads (o : Opening) (s gap behind fence : Text) : Prop where
  eq : s = o.lead ++ gap ++ behind ++ fence
  gap : ∀ c ∈ gap, o.gap c = true
  behind : Text.Passes o.behind behind
  fence : Text.Passes o.fence fence

/-- What comes behind the blanks does not begin with a blank. -/
def Sharp (o : Opening) : Prop := ∃ p ps, o.behind ++ o.fence = p :: ps ∧ ∀ c, p c = true → o.gap c = false

variable {o : Opening}

/-- An opening is in front of a text exactly if it can be taken apart so, and there is one way at most. -/
theorem size?_eq_some (h : o.Sharp) {t : Text} {n : Nat} :
    o.size? t = some n ↔ ∃ s rest, t = s ++ rest ∧ s.length = n ∧ ∃ g m q, o.Reads s g m q := by
  unfold size?
  constructor
  · intro e
    split at e
    · rename_i hlead
      simp only at e
      split at e
      · rename_i hfits
        obtain ⟨front, rfl⟩ := List.isPrefixOf_iff_prefix.mp hlead
        rw [List.drop_left] at hfits e
        obtain ⟨s, rest, hs, hpasses⟩ := Text.fits_iff.mp hfits
        obtain ⟨m, q, rfl, hm, hq⟩ := hpasses.split
        refine ⟨o.lead ++ front.takeWhile o.gap ++ m ++ q, rest, ?_, ?_, front.takeWhile o.gap, m, q, rfl,
          fun c hc => List.mem_takeWhile_imp hc, hm, hq⟩
        · have : front = front.takeWhile o.gap ++ (m ++ q ++ rest) := by
            rw [← hs]
            exact (List.prefix_iff_eq_append.mp (List.takeWhile_prefix _)).symm
          simpa using this
        · rw [← Option.some.inj e, hpasses.length_eq]
          simp [Nat.add_assoc]
      · cases e
    · cases e
  · rintro ⟨s, rest, rfl, rfl, g, m, q, rfl, hgap, hm, hq⟩
    have hlead : o.lead.isPrefixOf (o.lead ++ g ++ m ++ q ++ rest) = true :=
      List.isPrefixOf_iff_prefix.mpr ⟨g ++ m ++ q ++ rest, by simp⟩
    have hpasses : Text.Passes (o.behind ++ o.fence) (m ++ q) := List.rel_append hm hq
    have hdrop : (o.lead ++ g ++ m ++ q ++ rest).drop o.lead.length = g ++ (m ++ q ++ rest) := by simp
    have hstop : (m ++ q ++ rest).takeWhile o.gap = [] := by
      obtain ⟨p, ps, hps, hsharp⟩ := h
      rw [hps] at hpasses
      cases hmq : m ++ q with
      | nil => rw [hmq] at hpasses; cases hpasses
      | cons c s =>
        rw [hmq] at hpasses
        cases hpasses with
        | cons hc _ => simp [hsharp c hc]
    have hblanks : (g ++ (m ++ q ++ rest)).takeWhile o.gap = g := by
      rw [List.takeWhile_append_of_pos hgap, hstop, List.append_nil]
    have hfits : Text.fits (o.behind ++ o.fence) (m ++ q ++ rest) = true :=
      Text.fits_iff.mpr ⟨m ++ q, rest, rfl, hpasses⟩
    simp only [hlead, if_true, hdrop, hblanks, List.drop_left, hfits, hpasses.length_eq]
    simp [Nat.add_assoc]

end Opening

/-! ## Calls and literals -/

namespace Span

/-- How a call to a name begins. -/
def callOpening (name : Text) : Opening := ⟨name, Text.isBlank, [(· == '(')], []⟩

theorem callOpening_sharp (name : Text) : (callOpening name).Sharp :=
  ⟨_, [], rfl, fun c hc => by rw [eq_of_beq hc]; rfl⟩

theorem opens?_eq (name t : Text) : opens? name t = (callOpening name).size? t := by
  unfold opens? Opening.size? callOpening
  split
  · simp only [List.append_nil, List.length_singleton]
    generalize (t.drop name.length).drop _ = rest
    cases rest with
    | nil => rfl
    | cons c rest =>
      by_cases hc : c = '('
      · subst hc; rfl
      · have : Text.fits [(· == '(')] (c :: rest) = false := by simp [Text.fits, hc]
        simp [this, hc]
  · rfl

/-- The opening of a call in front of a text: how many characters come before the parenthesis. -/
def call? (names : List Text) (t : Text) : Option (Nat × Nat) := (firstOpening? names t).map fun n => (n - 1, n - 1)

theorem callsFrom_eq_sweep (names : List Text) (skip i : Nat) (t : Text) :
    callsFrom names skip i t = (Text.sweep (call? names) skip i t).map fun x => x.1 + x.2 := by
  induction t generalizing skip i with
  | nil => rfl
  | cons c t ih =>
    cases skip with
    | succ n => exact ih n (i + 1)
    | zero =>
      cases h : firstOpening? names (c :: t) with
      | none =>
        have : call? names (c :: t) = none := by rw [call?, h]; rfl
        simp only [callsFrom, h, Text.sweep, this, ih]
      | some n =>
        have : call? names (c :: t) = some (n - 1, n - 1) := by rw [call?, h]; rfl
        obtain ⟨name, -, hopen⟩ := List.exists_of_findSome?_eq_some h
        have hn : 0 < n := by
          unfold opens? at hopen
          simp only at hopen
          split at hopen
          · split at hopen
            · have := Option.some.inj hopen; omega
            · cases hopen
          · cases hopen
        simp only [callsFrom, h, Text.sweep, this, ih, List.map_cons]
        rw [Nat.add_sub_assoc hn]

end Span

namespace Literal

/-- The literal in front of a text: its quote and its value. -/
def front? : Text → Option (Nat × Char × Text)
  | [] => none
  | c :: t => if isQuote c then (body? c t).map fun v => (v.length + 1, c, v) else none

theorem scan_eq_sweep (skip i : Nat) (t : Text) :
    scan skip i t = (Text.sweep front? skip i t).map fun x => ⟨x.2.2, x.1 + 1, x.2.1 :: x.2.2 ++ [x.2.1]⟩ := by
  induction t generalizing skip i with
  | nil => rfl
  | cons c t ih =>
    cases skip with
    | succ n => exact ih n (i + 1)
    | zero =>
      by_cases hq : isQuote c = true
      · cases hb : body? c t <;> simp [scan, Text.sweep, front?, hq, hb, ih]
      · simp [scan, Text.sweep, front?, hq, ih]

end Literal

end ClassTidy
