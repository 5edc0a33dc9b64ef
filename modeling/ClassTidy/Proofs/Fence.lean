/-
  ClassTidy.Proofs.Fence — rules that look for a class string between fences.

  A fence is a pattern of one shape: an opening, a run of characters in a group, and a
  closing that none of these characters can begin. All built-in rules have it
  (`ClassTidy.Proofs.Fencings`). Matching tries shorter runs as well, and none of them is
  followed by the closing, so a fence matches in one way at most, which `front?` says
  without a walk (`matchAt?_eq`). The matches in a text are then a sweep over it
  (`Pattern.Sweeps`), and so are the spans of the rule (`spans_fence`).
-/
import ClassTidy.Proofs.Matching
import ClassTidy.Proofs.Slice
import ClassTidy.Span.Rule

namespace ClassTidy

open Pattern (CharTest Node Trail Outcome Next tests)

/-! ## Fences -/

/-- A pattern for what stands between an opening and a closing. -/
structure Fence where
  lead : Text
  /-- What may be repeated behind the lead. -/
  gap : Option CharTest
  behind : List CharTest
  opener : List CharTest
  content : CharTest
  closer : CharTest
  tail : List CharTest
  deriving DecidableEq, Repr

namespace Fence

def opening (f : Fence) : Opening :=
  ⟨f.lead, fun c => f.gap.any fun p => p.accepts c, tests f.behind, tests f.opener⟩

/-- The plain character that tests begin with. -/
def follower : List CharTest → Option Nat
  | .char n false :: _ => some n
  | _ => none

/-- The nodes behind the gap. -/
def inner (f : Fence) : Node :=
  Node.ones (.seq (.group 1 (.run .greedy 1 none f.content none)) (Node.lastOnes f.closer f.tail))
    (f.behind ++ f.opener)

/-- The nodes behind the lead. -/
def outer (f : Fence) : Node :=
  match f.gap with
  | none => f.inner
  | some p => .seq (.run .greedy 0 none p (follower (f.behind ++ f.opener))) f.inner

def pattern (f : Fence) : Pattern where
  root := Node.ones f.outer (f.lead.map fun c => .char c.toNat false)
  groups := 1
  least := f.lead.length + (f.behind ++ f.opener).length + f.tail.length + 2
  start := .plain

/-- A fence that matches in one way at most. -/
structure Exact (f : Fence) : Prop where
  sharp : f.opening.Sharp
  closes : ∀ c, f.content.accepts c = true → f.closer.accepts c = false

/-- What the fence matches in front of a text: the number of characters behind the first, the length of the opening, and
the content. -/
def front? (f : Fence) (t : Text) : Option (Nat × Nat × Text) :=
  match f.opening.size? t with
  | none => none
  | some n =>
    let v := (t.drop n).takeWhile fun c => f.content.accepts c
    if !v.isEmpty && Text.fits (tests (f.closer :: f.tail)) (t.drop (n + v.length)) then
      some (n + v.length + f.tail.length, n, v)
    else none

variable {f : Fence} {t : Text}

theorem front?_eq_some {w n : Nat} {v : Text} (h : f.front? t = some (w, n, v)) :
    f.opening.size? t = some n ∧ v = ((t.drop n).takeWhile fun c => f.content.accepts c) ∧ v ≠ [] ∧
      Text.fits (tests (f.closer :: f.tail)) (t.drop (n + v.length)) = true ∧ w = n + v.length + f.tail.length := by
  unfold front? at h
  split at h
  · cases h
  · rename_i m hm
    simp only at h
    split at h
    · rename_i hcond
      obtain ⟨rfl, hrest⟩ := Prod.mk.inj (Option.some.inj h)
      obtain ⟨rfl, rfl⟩ := Prod.mk.inj hrest
      rw [Bool.and_eq_true, Bool.not_eq_true', List.isEmpty_eq_false_iff] at hcond
      exact ⟨hm, rfl, hcond.1, hcond.2, rfl⟩
    · cases h

theorem front?_of {n : Nat} {v : Text} (hn : f.opening.size? t = some n)
    (hv : v = (t.drop n).takeWhile fun c => f.content.accepts c) (hne : v ≠ [])
    (hfits : Text.fits (tests (f.closer :: f.tail)) (t.drop (n + v.length)) = true) :
    f.front? t = some (n + v.length + f.tail.length, n, v) := by
  subst hv
  unfold front?
  rw [hn]
  simp only
  rw [if_pos]
  rw [Bool.and_eq_true, Bool.not_eq_true', List.isEmpty_eq_false_iff]
  exact ⟨hne, hfits⟩

/-! ## One match -/

/-- From behind the gap: the rest of the opening, the content and the closing. -/
theorem inner_found (h : f.Exact) (i : Nat) (s r : Trail) (next : Next) :
    f.inner.walk t.toArray false i s next = .found r ↔
      Text.fits (tests (f.behind ++ f.opener)) (t.drop i) = true ∧
        let a := i + (f.behind ++ f.opener).length
        let n := ((t.drop a).takeWhile fun c => f.content.accepts c).length
        1 ≤ n ∧ Text.fits (tests (f.closer :: f.tail)) (t.drop (a + n)) = true ∧
          next (a + n + f.tail.length + 1) (((s.note 0 a).goTo (a + n)).note 1 (a + n)) = .found r := by
  have hp : ∀ j, f.content.passes t.toArray j = true → Pattern.Fails
      (fun j s => if Text.fits (tests (f.closer :: f.tail)) (t.drop j) then next (j + f.tail.length + 1) (s.note 1 j)
        else .lost (s.note 1 j)) j := by
    intro j hj s r
    have hno : Text.fits (tests (f.closer :: f.tail)) (t.drop j) = false := by
      rw [Pattern.fits_cons]
      rw [Pattern.passes_iff] at hj ⊢
      cases hd : t.drop j with
      | nil => simp [tests, Text.fits]
      | cons c rest =>
        have hc : f.content.accepts c = true := by simpa [hd, tests, Text.fits] using hj
        simp [tests, Text.fits, h.closes c hc]
    simp [hno]
  rw [inner, Pattern.walk_ones]
  cases hfits : Text.fits (tests (f.behind ++ f.opener)) (t.drop i) with
  | false => simp
  | true =>
    simp only [if_true, Node.walk, Pattern.walk_lastOnes, true_and]
    rw [Pattern.runFrom_found 1 hp (fun j hj => by cases hj)]
    refine and_congr_right fun _ => ?_
    constructor
    · intro e
      split at e
      · rename_i hclose
        exact ⟨hclose, e⟩
      · cases e
    · rintro ⟨hclose, e⟩
      rw [if_pos hclose]
      exact e

/-- Where the nodes behind the gap were set out from makes no difference. -/
theorem inner_goTo (h : f.Exact) (i k : Nat) (s r : Trail) (next : Next) :
    f.inner.walk t.toArray false i (s.goTo k) next = .found r ↔ f.inner.walk t.toArray false i s next = .found r := by
  rw [inner_found h, inner_found h]
  rfl

/-- The gap ends where what comes behind it begins. -/
theorem outer_found (h : f.Exact) (i : Nat) (s r : Trail) (next : Next) :
    f.outer.walk t.toArray false i s next = .found r ↔
      f.inner.walk t.toArray false (i + ((t.drop i).takeWhile f.opening.gap).length) s next = .found r := by
  unfold outer
  cases hg : f.gap with
  | none =>
    have hempty : (t.drop i).takeWhile f.opening.gap = [] := by
      cases t.drop i with
      | nil => rfl
      | cons c rest => simp [opening, hg]
    rw [hempty]
    rfl
  | some p =>
    have hsame : f.opening.gap = fun c => p.accepts c := by funext c; simp [opening, hg]
    obtain ⟨q, qs, hq, hsharp⟩ := h.sharp
    obtain ⟨p', ps, hb, rfl⟩ : ∃ p' ps, f.behind ++ f.opener = p' :: ps ∧ q = fun c => p'.accepts c := by
      simp only [opening, tests, ← List.map_append] at hq
      obtain ⟨p', ps, hb, hp', -⟩ := List.map_eq_cons_iff.mp hq
      exact ⟨p', ps, hb, hp'.symm⟩
    have hfails : ∀ k, p'.passes t.toArray k = false →
        Pattern.Fails (fun j s => f.inner.walk t.toArray false j s next) k := by
      intro k hk s r
      rw [Ne, inner_found h, hb, Pattern.fits_cons, hk]
      simp
    have hp : ∀ k, p.passes t.toArray k = true →
        Pattern.Fails (fun j s => f.inner.walk t.toArray false j s next) k := by
      intro k hk
      refine hfails k ?_
      rw [Pattern.passes_iff] at hk ⊢
      cases hd : t.drop k with
      | nil => rfl
      | cons c rest =>
        have hc : p.accepts c = true := by simpa [hd, tests, Text.fits] using hk
        have hno : p'.accepts c = false := by
          rw [Bool.eq_false_iff]
          intro hyes
          have hgap := hsharp c hyes
          rw [hsame] at hgap
          simp [hc] at hgap
        simp [tests, Text.fits, hno]
    have hf : ∀ k, Pattern.ruledOut t.toArray (follower (f.behind ++ f.opener)) k = true →
        Pattern.Fails (fun j s => f.inner.walk t.toArray false j s next) k := by
      intro k hk
      refine hfails k ?_
      rw [hb] at hk
      unfold follower at hk
      split at hk
      · rename_i n rest heq
        obtain ⟨rfl, -⟩ := List.cons.inj heq
        simpa [Pattern.ruledOut] using hk
      · cases hk
    simp only [Node.walk]
    rw [Pattern.runFrom_found 0 hp hf, hsame]
    simp only [Nat.zero_le, true_and]
    exact inner_goTo h _ _ s r next

/-- The opening in front of what follows an offset. -/
theorem opening_size? (f : Fence) (t : Text) (i : Nat) :
    let g := ((t.drop (i + f.lead.length)).takeWhile f.opening.gap).length
    f.opening.size? (t.drop i) =
      if f.lead.isPrefixOf (t.drop i) = true ∧
        Text.fits (tests (f.behind ++ f.opener)) (t.drop (i + f.lead.length + g)) = true
      then some (f.lead.length + g + (f.behind ++ f.opener).length) else none := by
  have hb : f.opening.behind ++ f.opening.fence = tests (f.behind ++ f.opener) := by simp [opening, tests]
  unfold Opening.size?
  simp only [hb, List.drop_drop, show f.opening.lead = f.lead from rfl]
  split
  · rename_i hlead
    simp only [hlead, true_and, tests, List.length_map]
  · rename_i hlead
    rw [if_neg fun hboth => hlead hboth.1]

/-- The walk finds what is in front of the text, and nothing else. -/
theorem walk_found (h : f.Exact) (t : Text) (i : Nat) (r : Trail) (next : Next) :
    f.pattern.root.walk t.toArray false i ⟨[], i⟩ next = .found r ↔
      ∃ w n v, f.front? (t.drop i) = some (w, n, v) ∧
        next (i + w + 1) ⟨[some (i + n), some (i + n + v.length)], i + n + v.length⟩ = .found r := by
  have hsize := f.opening_size? t i
  simp only at hsize
  rw [pattern, Pattern.walk_ones, Pattern.fits_lead, List.length_map]
  by_cases hlead : f.lead.isPrefixOf (t.drop i) = true
  · rw [if_pos hlead, outer_found h, inner_found h]
    generalize ((t.drop (i + f.lead.length)).takeWhile f.opening.gap).length = g at hsize ⊢
    by_cases hfits : Text.fits (tests (f.behind ++ f.opener)) (t.drop (i + f.lead.length + g)) = true
    · rw [if_pos ⟨hlead, hfits⟩] at hsize
      obtain ⟨n, hn⟩ : ∃ n, n = f.lead.length + g + (f.behind ++ f.opener).length := ⟨_, rfl⟩
      rw [← hn] at hsize
      simp only [hfits, true_and, show i + f.lead.length + g + (f.behind ++ f.opener).length = i + n by omega]
      constructor
      · rintro ⟨hone, hclose, hnext⟩
        refine ⟨_, n, (t.drop (i + n)).takeWhile fun c => f.content.accepts c,
          front?_of hsize (by rw [List.drop_drop]) (List.ne_nil_of_length_pos hone) ?_, ?_⟩
        · rwa [List.drop_drop, ← Nat.add_assoc]
        · rw [← Nat.add_assoc, ← Nat.add_assoc]
          exact hnext
      · rintro ⟨w, m, v, hfront, hnext⟩
        obtain ⟨hm, hv, hne, hclose, rfl⟩ := front?_eq_some hfront
        obtain rfl : n = m := Option.some.inj (hsize.symm.trans hm)
        rw [List.drop_drop] at hv
        rw [List.drop_drop, ← Nat.add_assoc] at hclose
        rw [← Nat.add_assoc, ← Nat.add_assoc] at hnext
        rw [← hv]
        exact ⟨List.length_pos_iff.mpr hne, hclose, hnext⟩
    · rw [if_neg fun hboth => hfits hboth.2] at hsize
      exact ⟨fun e => absurd e.1 hfits, fun ⟨w, n, v, hfront, _⟩ => by
        rw [(front?_eq_some hfront).1] at hsize; cases hsize⟩
  · rw [if_neg fun hboth => hlead hboth.1] at hsize
    rw [if_neg hlead]
    exact ⟨fun e => (by cases e), fun ⟨w, n, v, hfront, _⟩ => by
      rw [(front?_eq_some hfront).1] at hsize; cases hsize⟩

/-- The match that a sweep found: where it starts, the length of the opening and the content. -/
def toMatch (f : Fence) (x : Nat × Nat × Text) : Match :=
  ⟨x.1, x.1 + (x.2.1 + x.2.2.length + f.tail.length) + 1, [some (x.1 + x.2.1), some (x.1 + x.2.1 + x.2.2.length)]⟩

theorem matchAt?_eq (h : f.Exact) (t : Text) (i : Nat) :
    f.pattern.matchAt? t.toArray i false = (f.front? (t.drop i)).map fun x => f.toMatch (i, x.2) := by
  have hfound : ∀ r, f.pattern.root.walk t.toArray false i ⟨[], i⟩ Pattern.accept = .found r ↔
      (f.front? (t.drop i)).map (fun x => (⟨(f.toMatch (i, x.2)).notes, (f.toMatch (i, x.2)).stop⟩ : Trail)) =
        some r := by
    intro r
    rw [walk_found h, Option.map_eq_some_iff]
    constructor
    · rintro ⟨w, n, v, hfront, e⟩
      obtain ⟨-, -, -, -, rfl⟩ := front?_eq_some hfront
      exact ⟨(_, n, v), hfront, Outcome.found.inj e⟩
    · rintro ⟨⟨w, n, v⟩, hfront, rfl⟩
      obtain ⟨-, -, -, -, rfl⟩ := front?_eq_some hfront
      exact ⟨_, n, v, hfront, rfl⟩
  rw [Pattern.matchAt?_of hfound, Option.map_map]
  rfl

/-! ## All matches -/

theorem front?_length {w n : Nat} {v : Text} (h : f.front? t = some (w, n, v)) :
    w + 1 ≤ t.length ∧ f.pattern.least ≤ w + 1 := by
  obtain ⟨hsize, -, hne, hfits, rfl⟩ := front?_eq_some h
  obtain ⟨s, rest, hs, hpasses⟩ := Text.fits_iff.mp hfits
  have hlen := congrArg List.length hs
  have hclosing := hpasses.length_eq
  have hpos := List.length_pos_iff.mpr hne
  have hn : f.lead.length + (f.behind ++ f.opener).length ≤ n := by
    have heq := f.opening_size? t 0
    simp only [List.drop_zero] at heq
    rw [hsize] at heq
    split at heq
    · have := Option.some.inj heq; omega
    · cases heq
  simp only [tests, List.length_map, List.length_cons, List.length_drop, List.length_append] at hlen hclosing
  simp only [pattern]
  omega

theorem sweeps (h : f.Exact) : f.pattern.Sweeps f.front? f.toMatch where
  matchAt t i := by rw [show f.pattern.start = .plain from rfl, Pattern.Start.allows, if_pos rfl, matchAt?_eq h]
  start _ := rfl
  stop hf i := by
    obtain ⟨-, -, -, -, rfl⟩ := front?_eq_some hf
    rfl
  within hf := front?_length hf

/-- The matches of a fence in a text are what a sweep over it finds. -/
theorem allMatches_eq (h : f.Exact) (t : Text) : f.pattern.allMatches t = (Text.sweep f.front? 0 0 t).map f.toMatch :=
  (sweeps h).allMatches_eq t

/-! ## Spans -/

/-- The span of what a sweep found, if it is not blank. -/
def span? (f : Fence) (t : Text) (x : Nat × Nat × Text) : Option Span :=
  if Text.isBlankOnly x.2.2 then none
  else
    let full := Text.slice t x.1 (f.toMatch x).stop
    (Text.find? x.2.2 full).map fun j => ⟨full, x.2.2, x.1, x.1 + j, x.1 + j + x.2.2.length, .rule⟩

theorem group?_toMatch (i n : Nat) (v : Text) : (f.toMatch (i, n, v)).group? 1 = some (i + n, i + n + v.length) := by
  simp [Match.group?, toMatch, Pattern.Notes.range?, Pattern.Notes.ends?]

theorem span?_toMatch {r : Rule} (hp : r.pattern = f.pattern) (hg : r.group = 1) {i n : Nat} {v : Text}
    (h : f.front? (t.drop i) = some (n + v.length + f.tail.length, n, v)) :
    r.span? t (f.toMatch (i, n, v)) = f.span? t (i, n, v) := by
  obtain ⟨-, hv, -, -, -⟩ := front?_eq_some h
  have hidle : r.isIdle = false := by simp [Rule.isIdle, hp, hg, pattern]
  have hclasses : Text.slice t (i + n) (i + n + v.length) = v := by
    rw [List.drop_drop] at hv
    rw [Text.slice, Nat.add_sub_cancel_left, hv]
    exact (List.prefix_iff_eq_take.mp (List.takeWhile_prefix _)).symm
  unfold Rule.span? span?
  simp only [hidle, Bool.false_eq_true, if_false, hg, group?_toMatch, hclasses]
  split
  · rfl
  · show (match Text.find? v (Text.slice t i (f.toMatch (i, n, v)).stop) with
      | none => none
      | some j => some _) = Option.map _ (Text.find? v (Text.slice t i (f.toMatch (i, n, v)).stop))
    cases Text.find? v (Text.slice t i (f.toMatch (i, n, v)).stop) <;> rfl

/-- The spans that a fence finds. -/
def spans (f : Fence) (t : Text) : List Span := (Text.sweep f.front? 0 0 t).filterMap (f.span? t)

/-- The spans of a rule that is a fence. -/
theorem spans_fence {r : Rule} (h : f.Exact) (hp : r.pattern = f.pattern) (hg : r.group = 1) (t : Text) :
    r.spans t = .ok (f.spans t) := by
  have hwhole : ((Text.sweep f.front? 0 0 t).map f.toMatch).any (fun m => m.isTorn 1) = false := by
    rw [List.any_eq_false]
    intro m hm
    obtain ⟨x, -, rfl⟩ := List.mem_map.mp hm
    simp [Match.isTorn, toMatch, Pattern.Notes.ends?]
  rw [Rule.spans, hp, allMatches_eq h, Rule.spansOf, hp, show f.pattern.groups = 1 from rfl, hwhole,
    if_neg Bool.false_ne_true, List.filterMap_map]
  refine congrArg _ (List.filterMap_congr fun x hx => ?_)
  obtain ⟨m, w, hm, hfront⟩ := Text.mem_sweep hx
  obtain ⟨i, n, v⟩ := x
  obtain rfl : i = m := by simpa using hm
  obtain ⟨-, -, -, -, rfl⟩ := front?_eq_some hfront
  exact span?_toMatch hp hg hfront

end Fence

end ClassTidy
