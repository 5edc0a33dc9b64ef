/-
  ClassTidy.Proofs.Matching — where patterns match.

  Most patterns here match in one way at most: a run of characters is followed by something
  that none of its characters can begin, so the shorter runs that matching tries as well are
  all in vain (`runFrom_found`), and characters in a row are there or not (`walk_ones`).

  What such a pattern matches at an offset is then what some function sees in front of the
  text from there on. If it never matches nothing, its matches in a text are a sweep with
  that function (`Sweeps.allMatches_eq`), wherever its searches start and stop.
-/
import ClassTidy.Proofs.Sweep
import ClassTidy.Pattern.Matcher

namespace ClassTidy

open Pattern (CharTest Node Trail Outcome Next)

namespace Pattern

/-! ## Single steps -/

/-- The tests as functions. -/
def tests (ps : List CharTest) : List (Char → Bool) := ps.map fun p c => p.accepts c

variable {t : Text}

theorem passes_iff (p : CharTest) (t : Text) (i : Nat) : p.passes t.toArray i = Text.fits (tests [p]) (t.drop i) := by
  have hget : t.toArray[i]? = (t.drop i).head? := by rw [List.getElem?_toArray, List.head?_drop]
  unfold CharTest.passes
  rw [hget]
  cases t.drop i <;> simp [tests, Text.fits]

theorem countPassing_eq (p : CharTest) (t : Text) (i n : Nat) (h : t.length ≤ i + n) :
    countPassing t.toArray p i n = ((t.drop i).takeWhile fun c => p.accepts c).length := by
  induction n generalizing i with
  | zero =>
    rw [List.drop_eq_nil_of_le (by omega)]
    rfl
  | succ n ih =>
    rw [countPassing, passes_iff, ih (i + 1) (by omega), ← List.drop_drop]
    cases t.drop i with
    | nil => simp [tests, Text.fits]
    | cons c rest => cases hc : p.accepts c <;> simp [tests, Text.fits, hc]

theorem passes_cons {rest : Text} {c : Char} {i : Nat} (h : t.drop i = c :: rest) (p : CharTest) :
    p.passes t.toArray i = p.accepts c := by
  rw [passes_iff, h]
  simp [tests, Text.fits]

theorem passes_nil {i : Nat} (h : t.drop i = []) (p : CharTest) : p.passes t.toArray i = false := by
  rw [passes_iff, h]
  rfl

/-! ## Runs -/

/-- Nothing is accepted there, whatever was noted. -/
def Fails (next : Next) (i : Nat) : Prop := ∀ s r, next i s ≠ .found r

theorem tryDown_fails {a : Array Char} {looping : Bool} {follower : Option Nat} {next : Next} {i least n : Nat}
    (h : ∀ m ≤ n, Fails next (i + m)) (s : Trail) (r : Trail) :
    tryDown a looping follower next i least n s ≠ .found r := by
  induction n generalizing s with
  | zero =>
    have h0 := h 0 (Nat.le_refl 0)
    unfold tryDown
    split
    · exact Outcome.noConfusion
    · simp only
      split
      · exact Outcome.noConfusion
      · cases hn : next (i + 0) (s.goTo (i + 0)) with
        | found r' => exact absurd hn (h0 _ _)
        | lost s' => exact Outcome.noConfusion
  | succ n ih =>
    have hn := h (n + 1) (Nat.le_refl _)
    have hrest := ih fun m hm => h m (by omega)
    unfold tryDown
    split
    · exact Outcome.noConfusion
    · simp only
      split
      · exact hrest s
      · cases hnext : next (i + (n + 1)) (s.goTo (i + (n + 1))) with
        | found r' => exact absurd hnext (hn _ _)
        | lost s' => exact hrest _

/-- If nothing is accepted behind fewer characters, only the whole run counts. -/
theorem tryDown_found {a : Array Char} {looping : Bool} {follower : Option Nat} {next : Next} {i least n : Nat}
    (hn : least ≤ n) (h : ∀ m < n, Fails next (i + m))
    (hf : ruledOut a follower (i + n) = true → Fails next (i + n)) (s r : Trail) :
    tryDown a looping follower next i least n s = .found r ↔ next (i + n) (s.goTo (i + n)) = .found r := by
  have hwhole : ∀ rest : Trail → Outcome, (∀ s', rest s' ≠ .found r) →
      ((if ruledOut a follower (i + n) then Outcome.lost s
        else (next (i + n) (s.goTo (i + n))).orElse fun s' => .lost (s'.back looping s)).orElse rest = .found r ↔
      next (i + n) (s.goTo (i + n)) = .found r) := by
    intro rest hrest
    cases hr : ruledOut a follower (i + n) with
    | true => exact ⟨fun e => absurd e (hrest s), fun e => absurd e (hf hr _ _)⟩
    | false =>
      cases hnext : next (i + n) (s.goTo (i + n)) with
      | found r' => exact Iff.rfl
      | lost s' => exact ⟨fun e => absurd e (hrest _), fun e => by cases e⟩
  unfold tryDown
  rw [if_neg (by omega)]
  cases n with
  | zero =>
    rw [← hwhole Outcome.lost fun _ => Outcome.noConfusion]
    simp only
    split
    · rfl
    · cases next (i + 0) (s.goTo (i + 0)) <;> rfl
  | succ m => exact hwhole _ fun s' => tryDown_fails (fun k hk => h k (by omega)) s' r

/-- A greedy run that stops where its test fails. -/
theorem runFrom_found {p : CharTest} {looping : Bool} {follower : Option Nat} {next : Next} (least : Nat)
    (hp : ∀ i, p.passes t.toArray i = true → Fails next i)
    (hf : ∀ i, ruledOut t.toArray follower i = true → Fails next i) (i : Nat) (s r : Trail) :
    runFrom t.toArray looping .greedy least none p follower next i s = .found r ↔
      let n := ((t.drop i).takeWhile fun c => p.accepts c).length
      least ≤ n ∧ next (i + n) (s.goTo (i + n)) = .found r := by
  have hle := (List.takeWhile_prefix (fun c => p.accepts c) (l := t.drop i)).length_le
  have hinside : ∀ m < ((t.drop i).takeWhile fun c => p.accepts c).length, Fails next (i + m) := by
    intro m hm
    refine hp _ ?_
    have hget : (t.drop (i + m)).head? = some ((t.drop i).takeWhile fun c => p.accepts c)[m] := by
      rw [List.head?_drop, ← List.getElem?_drop]
      exact List.prefix_iff_getElem?.mp (List.takeWhile_prefix _) m hm
    have hpass : p.accepts ((t.drop i).takeWhile fun c => p.accepts c)[m] = true :=
      List.mem_takeWhile_imp (p := fun c => p.accepts c) (List.getElem_mem hm)
    obtain ⟨rest, hrest⟩ := List.head?_eq_some_iff.mp hget
    rw [passes_iff, hrest]
    simp [tests, Text.fits, hpass]
  simp only [List.length_drop] at hle
  unfold runFrom
  simp only [List.size_toArray, countPassing_eq p t i (t.length - i) (by omega)]
  generalize hn : ((t.drop i).takeWhile fun c => p.accepts c).length = n at hle hinside
  by_cases hleast : least ≤ n
  · rw [if_neg (by omega), if_neg (by omega), tryDown_found hleast hinside (hf _)]
    have hgo : ∀ j, ((if p.isSlow then (s.goTo i).goTo (i + n) else s.goTo i).goTo j) = s.goTo j := by
      intro j; split <;> rfl
    rw [hgo]
    exact ⟨fun h => ⟨hleast, h⟩, fun h => h.2⟩
  · refine ⟨fun e => ?_, fun e => absurd e.1 hleast⟩
    split at e
    · cases e
    · rw [if_pos (by omega)] at e; cases e

/-! ## Choices -/

theorem Outcome.orElse_found {o : Outcome} {f : Trail → Outcome} {r : Trail} :
    o.orElse f = .found r ↔ o = .found r ∨ ∃ s, o = .lost s ∧ f s = .found r := by
  cases o <;> simp [Outcome.orElse]

section

variable {a b : Node} {looping : Bool} {i : Nat} {next : Next}

theorem walk_choice_blocked (h : a.blocked t.toArray i = true) (s : Trail) :
    (Node.choice a b).walk t.toArray looping i s next = b.walk t.toArray looping i s next := by
  rw [Node.walk, if_pos h]

theorem walk_choice_found (h : a.blocked t.toArray i = false) (s r : Trail) :
    (Node.choice a b).walk t.toArray looping i s next = .found r ↔
      a.walk t.toArray looping i (s.goTo i) next = .found r ∨
        ∃ s', a.walk t.toArray looping i (s.goTo i) next = .lost s' ∧
          b.walk t.toArray looping i (s'.back looping s) next = .found r := by
  rw [Node.walk, if_neg (by rw [h]; exact Bool.false_ne_true), Outcome.orElse_found]

end

/-! ## Characters in a row -/

/-- Single characters, and then `n`. -/
def Node.ones (n : Node) : List CharTest → Node
  | [] => n
  | p :: ps => .seq (.one p) (ones n ps)

/-- Single characters to the end. -/
def Node.lastOnes (p : CharTest) : List CharTest → Node
  | [] => .one p
  | q :: qs => .seq (.one p) (lastOnes q qs)

theorem fits_cons (p : CharTest) (ps : List CharTest) (t : Text) (i : Nat) :
    Text.fits (tests (p :: ps)) (t.drop i) = (p.passes t.toArray i && Text.fits (tests ps) (t.drop (i + 1))) := by
  rw [passes_iff, ← List.drop_drop]
  cases t.drop i <;> simp [tests, Text.fits]

theorem walk_ones (n : Node) (ps : List CharTest) (looping : Bool) (i : Nat) (s : Trail) (next : Next) :
    (n.ones ps).walk t.toArray looping i s next =
      if Text.fits (tests ps) (t.drop i) then n.walk t.toArray looping (i + ps.length) s next else .lost s := by
  induction ps generalizing i with
  | nil => simp [Node.ones, tests, Text.fits]
  | cons p ps ih =>
    rw [Node.ones, Node.walk, Node.walk, fits_cons]
    cases p.passes t.toArray i with
    | true =>
      simp only [if_true, ih, Bool.true_and, List.length_cons, show i + (ps.length + 1) = i + 1 + ps.length by omega]
    | false => simp

theorem walk_lastOnes (p : CharTest) (ps : List CharTest) (looping : Bool) (i : Nat) (s : Trail) (next : Next) :
    (Node.lastOnes p ps).walk t.toArray looping i s next =
      if Text.fits (tests (p :: ps)) (t.drop i) then next (i + ps.length + 1) s else .lost s := by
  induction ps generalizing p i with
  | nil =>
    rw [Node.lastOnes, Node.walk, fits_cons]
    simp [tests, Text.fits]
  | cons q ps ih =>
    rw [Node.lastOnes, Node.walk, Node.walk, fits_cons]
    cases p.passes t.toArray i with
    | true =>
      simp only [if_true, ih, Bool.true_and, List.length_cons,
        show i + (ps.length + 1) + 1 = i + 1 + ps.length + 1 by omega]
    | false => simp

theorem fits_lead (s t : Text) : Text.fits (tests (s.map fun c => .char c.toNat false)) t = s.isPrefixOf t := by
  induction s generalizing t with
  | nil => cases t <;> rfl
  | cons c s ih =>
    cases t with
    | nil => rfl
    | cons d t =>
      have hc : (CharTest.char c.toNat false).accepts d = (c == d) := by
        rw [Bool.eq_iff_iff]
        simp only [CharTest.accepts, Bool.false_bne, beq_iff_eq]
        exact ⟨fun h => (Char.toNat_inj.mp h).symm, fun h => by rw [h]⟩
      have := ih t
      simp only [tests, List.map_cons, List.map_map] at this ⊢
      simp only [Text.fits, hc, this, List.isPrefixOf_cons_cons]

/-! ## All matches -/

/-- The match at an offset is what the walk from there ends with. -/
theorem matchAt?_of {p : Pattern} {i : Nat} {found : Option Trail}
    (h : ∀ r, p.root.walk t.toArray false i ⟨[], i⟩ accept = .found r ↔ found = some r) :
    p.matchAt? t.toArray i false = found.map fun r => ⟨i, r.reach, r.notes⟩ := by
  have haccept : (fun j s => if false && j == i then .lost s else .found (s.goTo j)) = accept := rfl
  rw [matchAt?, haccept]
  cases hwalk : p.root.walk t.toArray false i ⟨[], i⟩ accept with
  | found r => rw [(h r).mp hwalk]; rfl
  | lost s =>
    cases found with
    | none => rfl
    | some r =>
      rw [(h r).mpr rfl] at hwalk; cases hwalk

/-- A pattern that matches at an offset what `hit?` sees in front of the text from there on, and never matches
nothing. -/
structure Sweeps {α : Type} (p : Pattern) (hit? : Text → Option (Nat × α)) (toMatch : Nat × α → Match) :
    Prop where
  matchAt : ∀ (t : Text) (i : Nat), (if p.start.allows t.toArray i then p.matchAt? t.toArray i false else none) =
    (hit? (t.drop i)).map fun x => toMatch (i, x.2)
  start : ∀ x, (toMatch x).start = x.1
  stop : ∀ {t : Text} {n : Nat} {a : α}, hit? t = some (n, a) → ∀ i, (toMatch (i, a)).stop = i + n + 1
  within : ∀ {t : Text} {n : Nat} {a : α}, hit? t = some (n, a) → n + 1 ≤ t.length ∧ p.least ≤ n + 1

namespace Sweeps

variable {α : Type} {p : Pattern} {hit? : Text → Option (Nat × α)} {toMatch : Nat × α → Match}

/-- What a search from an offset on finds is the first that a sweep finds. -/
def FirstOf (hit? : Text → Option (Nat × α)) (toMatch : Nat × α → Match) (t : Text) (i : Nat) :
    Option Match → Prop
  | none => Text.sweep hit? 0 i (t.drop i) = []
  | some m => ∃ x, m = toMatch x ∧ i ≤ m.start ∧ m.start < m.stop ∧
      Text.sweep hit? 0 i (t.drop i) = x :: Text.sweep hit? 0 m.stop (t.drop m.stop)

/-- Where nothing is in front, the search goes on behind the next character. -/
theorem FirstOf.later {i : Nat} {m : Option Match} (hnone : hit? (t.drop i) = none)
    (h : FirstOf hit? toMatch t (i + 1) m) : FirstOf hit? toMatch t i m := by
  have hsame : Text.sweep hit? 0 i (t.drop i) = Text.sweep hit? 0 (i + 1) (t.drop (i + 1)) := by
    rw [← List.drop_drop]
    cases hd : t.drop i with
    | nil => rfl
    | cons c rest => exact Text.sweep_miss (hd ▸ hnone) i
  cases m with
  | none => exact hsame.trans h
  | some m =>
    obtain ⟨x, hm, hx, hstop, hsweep⟩ := h
    exact ⟨x, hm, by omega, hstop, hsame.trans hsweep⟩

/-- In less than the least number of characters nothing is found. -/
theorem sweep_short (h : p.Sweeps hit? toMatch) (i : Nat) {t : Text} (ht : t.length < p.least) :
    Text.sweep hit? 0 i t = [] := by
  induction t generalizing i with
  | nil => rfl
  | cons c t ih =>
    have hnone : hit? (c :: t) = none := by
      cases hf : hit? (c :: t) with
      | none => rfl
      | some x =>
        have := h.within (a := x.2) hf
        omega
    rw [Text.sweep_miss hnone]
    exact ih (i + 1) (by simp only [List.length_cons] at ht; omega)

/-- The positions that are tried leave out none at which the least number of characters fits. -/
theorem scan?_firstOf (h : p.Sweeps hit? toMatch) (t : Text) (fuel i : Nat) (hi : t.length < i + fuel + (p.least - 1)) :
    FirstOf hit? toMatch t i (p.scan? t.toArray fuel i false) := by
  induction fuel generalizing i with
  | zero =>
    show Text.sweep hit? 0 i (t.drop i) = []
    by_cases hlen : t.length ≤ i
    · rw [List.drop_eq_nil_of_le hlen]
      rfl
    · exact h.sweep_short i (by rw [List.length_drop]; omega)
  | succ fuel ih =>
    rw [Pattern.scan?, h.matchAt t i]
    cases hf : hit? (t.drop i) with
    | none => exact (ih (i + 1) (by omega)).later hf
    | some x =>
      obtain ⟨n, a⟩ := x
      have hstop := h.stop hf i
      refine ⟨(i, a), rfl, (h.start (i, a)).ge, by rw [h.start, hstop]; omega, ?_⟩
      cases hd : t.drop i with
      | nil =>
        have := (h.within hf).1
        rw [hd] at this
        simp at this
      | cons c rest =>
        rw [hd] at hf
        rw [Text.sweep_hit hf, show rest = t.drop (i + 1) by rw [← List.drop_drop, hd]; rfl, List.drop_drop, hstop,
          show i + 1 + n = i + n + 1 by omega]

theorem search?_firstOf (h : p.Sweeps hit? toMatch) (t : Text) (i : Nat) :
    FirstOf hit? toMatch t i (p.search? t.toArray i false) := by
  unfold Pattern.search?
  rw [List.size_toArray]
  split
  · rename_i hshort
    exact h.sweep_short i (by rwa [List.length_drop])
  · rw [Bool.false_and]
    refine h.scan?_firstOf t _ i ?_
    unfold Pattern.lastStart
    rw [List.size_toArray]
    split
    · split <;> omega
    · omega

theorem matchesFrom_eq (h : p.Sweeps hit? toMatch) (t : Text) (fuel i : Nat) (hi : t.length < i + fuel) :
    p.matchesFrom t.toArray fuel i false = (Text.sweep hit? 0 i (t.drop i)).map toMatch := by
  induction fuel generalizing i with
  | zero =>
    rw [List.drop_eq_nil_of_le (by omega)]
    rfl
  | succ fuel ih =>
    have hfirst := h.search?_firstOf t i
    unfold Pattern.matchesFrom
    cases hm : p.search? t.toArray i false with
    | none =>
      rw [hm] at hfirst
      rw [show Text.sweep hit? 0 i (t.drop i) = [] from hfirst]
      rfl
    | some m =>
      rw [hm] at hfirst
      obtain ⟨x, rfl, hstart, hstop, hsweep⟩ := hfirst
      simp only [hsweep, List.map_cons, show ((toMatch x).stop == (toMatch x).start) = false by
        simp only [beq_eq_false_iff_ne]; omega]
      rw [ih _ (by omega)]

/-- The matches in a text are what a sweep over it finds. -/
theorem allMatches_eq (h : p.Sweeps hit? toMatch) (t : Text) :
    p.allMatches t = (Text.sweep hit? 0 0 t).map toMatch := by
  rw [Pattern.allMatches, h.matchesFrom_eq t _ 0 (by omega), List.drop_zero]

end Sweeps

end Pattern

end ClassTidy
