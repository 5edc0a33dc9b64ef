/-
  ClassTidy.Proofs.LiteralPattern — literals as the matches of a pattern.

  The pattern of a literal is a quote, a run of characters that are neither the quote nor a
  backslash, any number of pairs with such a run behind each, and the quote again, once for
  each of the two quotes. It matches in one way at most: a run ends at a quote or a
  backslash, a pair begins with a backslash, and so what can follow is told by the next
  character. Going over the pairs from the left is what `body?` does (`iterate_found`).

  Proved (`all_eq_matches`): the pattern as it is written can be read, and its matches in a
  text are the literals of the text, the value being the group of the quote.
-/
import ClassTidy.Pattern.Reader
import ClassTidy.Proofs.Fencings
import ClassTidy.Proofs.Lockstep
import ClassTidy.Proofs.SpanPlaces

namespace ClassTidy

open Pattern (CharTest Node Trail Outcome Next Fails)

/-! ## Repeats without bounds -/

namespace Pattern

/-- What is accepted does not depend on the position that the walk set out from. -/
def Blind (next : Next) : Prop := ∀ i k s r, next i (s.goTo k) = .found r ↔ next i s = .found r

/-- One step of a greedy repeat: another iteration, and if it leads to nothing, what follows. -/
theorem iterate_step {body : Nat → Trail → Next → Outcome} {looping : Bool} {next : Next} {fuel count i : Nat}
    {last : Option Nat} (hlast : last ≠ some i) (s r : Trail) :
    iterate body looping false 0 none next (fuel + 1) count last i s = .found r ↔
      let again := body i (s.goTo i) fun j s => iterate body looping false 0 none next fuel (count + 1) (some i) j s
      again = .found r ∨ (∀ r', again ≠ .found r') ∧ next i (s.goTo i) = .found r := by
  have hmore : (last != some i) = true := bne_iff_ne.mpr hlast
  simp only [iterate, Nat.not_lt_zero, if_false, Bool.true_and, hmore, if_true, Bool.false_eq_true]
  generalize body i (s.goTo i) _ = again
  cases again with
  | found r' => simp [Outcome.orElse]
  | lost s' =>
    -- the iteration that failed has left nothing behind
    rw [Outcome.orElse, show (s'.back true (s.goTo i)).goTo i = s.goTo i from rfl]
    simp [Outcome.orElse_found]

theorem iterate_blind {body : Nat → Trail → Next → Outcome} {looping : Bool} {next : Next} (hnext : Blind next)
    (fuel count : Nat) (last : Option Nat) : Blind (iterate body looping false 0 none next fuel count last) := by
  intro i k s r
  cases fuel with
  | zero => exact hnext i k s r
  | succ fuel => exact Iff.rfl

end Pattern

namespace Literal

/-! ## The pattern -/

/-- The pattern of a literal, as it is written. -/
def written : Text := "\"([^\"\\\\]*(?:\\\\.[^\"\\\\]*)*)\"|'([^'\\\\]*(?:\\\\.[^'\\\\]*)*)'".toList

/-- Characters that stand for themselves between two quotes `q`. -/
def plain (q : Char) : CharTest := oneOf true [q, '\\']

/-- A pair, and the characters up to the next one. -/
def pair (q : Char) : Node :=
  .seq (.one (oneOf false ['\\'])) (.seq (.one (.any false)) (.run .greedy 0 none (plain q) none))

def content (q : Char) : Node := .seq (.run .greedy 0 none (plain q) none) (.rep .greedy 0 none (pair q))

def quoted (q : Char) (number : Nat) : Node :=
  .seq (.one (oneOf false [q])) (.seq (.group number (content q)) (.one (oneOf false [q])))

def pattern : Pattern where
  root := .choice (quoted '"' 1) (.choice (quoted '\'' 2) .never)
  groups := 2
  least := 2
  start := .among (oneOf false ['"', '\''])

theorem pattern_read : Pattern.read written = .ok pattern := by
  have hread : (Pattern.read written).toOption = some pattern := by decide +kernel
  cases h : Pattern.read written with
  | ok p =>
    rw [h] at hread
    exact congrArg _ (Option.some.inj hread)
  | error e =>
    rw [h] at hread
    cases hread

/-! ## Between the quotes -/

variable {t : Text} {q : Char} {next : Next}

theorem plain_accepts (q c : Char) : (plain q).accepts c = true ↔ c ≠ q ∧ c ≠ '\\' := by
  rw [plain, oneOf_accepts]
  simp

/-- Nothing is accepted where a character stands for itself. -/
def Sharp (q : Char) (t : Text) (next : Next) : Prop := ∀ j, (plain q).passes t.toArray j = true → Fails next j

/-- A pair is followed by what comes behind its run. -/
theorem pair_found (hsharp : Sharp q t next) (hblind : Pattern.Blind next) (i : Nat) (s r : Trail) :
    (pair q).walk t.toArray true i s next = .found r ↔ ∃ d rest, t.drop i = '\\' :: d :: rest ∧ d ≠ '\n' ∧
      next (i + 2 + (rest.takeWhile fun c => (plain q).accepts c).length) s = .found r := by
  simp only [pair, Node.walk]
  cases hd : t.drop i with
  | nil => simp [Pattern.passes_nil hd]
  | cons c rest =>
    rw [Pattern.passes_cons hd, oneOf_accepts]
    by_cases hc : c = '\\'
    · subst hc
      have hd' : t.drop (i + 1) = rest := by rw [← List.drop_drop, hd]; rfl
      cases rest with
      | nil => simp [Pattern.passes_nil hd']
      | cons d rest =>
        have hd'' : t.drop (i + 1 + 1) = rest := by rw [← List.drop_drop, hd']; rfl
        have hany : (CharTest.any false).passes t.toArray (i + 1) = (d != '\n') := Pattern.passes_cons hd' _
        rw [hany]
        by_cases hline : d = '\n'
        · simp [hline]
        · simp only [List.mem_singleton, decide_true, Bool.false_bne, bne_iff_ne, ne_eq, hline,
            not_false_eq_true, if_true]
          rw [Pattern.runFrom_found 0 hsharp (fun j hj => by cases hj), hd'']
          simp [hblind _ _ s r, hline]
    · simp [hc]

/-- Where a character stands for itself, a repeat of pairs has nothing to begin with and nothing to end with. -/
theorem iterate_fails (hsharp : Sharp q t next) (looping : Bool) (fuel count : Nat) (last : Option Nat) :
    Sharp q t (Pattern.iterate ((pair q).walk t.toArray true) looping false 0 none next fuel count last) := by
  intro j hj s r
  have hnext := hsharp j hj
  have hpair : ∀ s k r, (pair q).walk t.toArray true j s k ≠ .found r := by
    intro s k r hfound
    have hno : (oneOf false ['\\']).passes t.toArray j = false := by
      cases hd : t.drop j with
      | nil => exact Pattern.passes_nil hd _
      | cons c rest =>
        rw [Pattern.passes_cons hd, plain_accepts] at hj
        rw [Pattern.passes_cons hd, oneOf_accepts]
        simpa using hj.2
    simp only [pair, Node.walk, hno] at hfound
    cases hfound
  cases fuel with
  | zero => exact hnext s r
  | succ fuel =>
    by_cases hlast : last = some j
    · subst hlast
      simp only [Pattern.iterate, Nat.not_lt_zero, if_false, bne_self_eq_false, Bool.and_false, Bool.false_eq_true]
      rw [Ne, Pattern.Outcome.orElse_found]
      rintro (h | ⟨_, -, h⟩)
      · exact hnext _ _ h
      · cases h
    · rw [Ne, Pattern.iterate_step hlast]
      rintro (h | ⟨-, h⟩)
      · exact hpair _ _ _ h
      · exact hnext _ _ h

theorem drop_run (p : Char → Bool) (t : Text) : t.drop (t.takeWhile p).length = t.dropWhile p := by
  conv => lhs; arg 2; rw [← List.takeWhile_append_dropWhile (p := p) (l := t)]
  exact List.drop_left

/-- A value goes on over characters that stand for themselves. -/
theorem body?_run (q : Char) (t : Text) : body? q t =
    (body? q (t.drop (t.takeWhile fun c => (plain q).accepts c).length)).map
      ((t.takeWhile fun c => (plain q).accepts c) ++ ·) := by
  have hsplit := List.takeWhile_append_dropWhile (p := fun c => (plain q).accepts c) (l := t)
  have hplain : ∀ c ∈ t.takeWhile fun c => (plain q).accepts c, c ≠ q ∧ c ≠ '\\' := fun c hc =>
    (plain_accepts q c).mp (List.mem_takeWhile_imp (p := fun c => (plain q).accepts c) hc)
  rw [drop_run, ← body?_over hplain, hsplit]

/-- A pair and the run behind it are part of the value. -/
theorem body?_pair (hq : q ≠ '\\') (d : Char) (t : Text) : body? q ('\\' :: d :: t) =
    if d = '\n' then none
    else (body? q (t.drop (t.takeWhile fun c => (plain q).accepts c).length)).map fun v =>
      '\\' :: d :: ((t.takeWhile fun c => (plain q).accepts c) ++ v) := by
  rw [body?, if_neg hq.symm, if_pos rfl, body?_run q t, Option.map_map]
  rfl

/-- Behind a run there is no character that stands for itself. -/
theorem not_plain_behind (q : Char) (t : Text) (i : Nat) :
    (plain q).passes t.toArray (i + ((t.drop i).takeWhile fun c => (plain q).accepts c).length) = false := by
  have hhead := List.head?_dropWhile_not (fun c => (plain q).accepts c) (t.drop i)
  rw [← drop_run, List.drop_drop] at hhead
  cases hd : t.drop (i + ((t.drop i).takeWhile fun c => (plain q).accepts c).length) with
  | nil => exact Pattern.passes_nil hd _
  | cons c rest =>
    rw [hd] at hhead
    rw [Pattern.passes_cons hd]
    exact hhead

/-- From the end of a run on, the pairs that a repeat takes are what is left of the value. -/
theorem iterate_found (hq : q ≠ '\\') (hsharp : Sharp q t next) (hblind : Pattern.Blind next)
    (hquote : ∀ i s r, next i s = .found r → ∃ rest, t.drop i = q :: rest) (looping : Bool) (fuel count : Nat)
    (last : Option Nat) (i : Nat) (s r : Trail) (hfuel : t.length < i + fuel) (hlast : ∀ k ∈ last, k < i)
    (hrun : (plain q).passes t.toArray i = false) :
    Pattern.iterate ((pair q).walk t.toArray true) looping false 0 none next fuel count last i s = .found r ↔
      ∃ v, body? q (t.drop i) = some v ∧ next (i + v.length) s = .found r := by
  induction fuel generalizing count last i s with
  | zero =>
    have hnil : t.drop i = [] := List.drop_eq_nil_of_le (by omega)
    refine ⟨fun h => ?_, fun ⟨v, hv, _⟩ => ?_⟩
    · obtain ⟨rest, hrest⟩ := hquote i s r h
      rw [hnil] at hrest; cases hrest
    · rw [hnil] at hv; cases hv
  | succ fuel ih =>
    have hne : last ≠ some i := fun e => Nat.lt_irrefl i (hlast i e)
    have hpair := pair_found (iterate_fails hsharp looping fuel (count + 1) (some i))
      (Pattern.iterate_blind hblind fuel (count + 1) (some i)) i (s.goTo i)
    rw [Pattern.iterate_step hne]
    simp only [Ne, hpair, hblind _ _ s]
    cases hd : t.drop i with
    | nil =>
      have hend : ∀ r, next i s ≠ .found r := fun r h => by
        obtain ⟨rest, hrest⟩ := hquote i s r h
        rw [hd] at hrest; cases hrest
      simp [hend, body?]
    | cons c rest =>
      have hc : c = q ∨ c = '\\' := by
        rw [Pattern.passes_cons hd, Bool.eq_false_iff, Ne, plain_accepts] at hrun
        tauto
      rcases hc with rfl | rfl
      · simp [body?_cons, hq]
      · have hend : ∀ r, next i s ≠ .found r := fun r h => by
          obtain ⟨rest', hrest⟩ := hquote i s r h
          rw [hd] at hrest
          exact hq (List.cons.inj hrest).1.symm
        cases rest with
        | nil => simp [hend, body?_cons, hq.symm]
        | cons d rest =>
          obtain rfl : t.drop (i + 2) = rest := by rw [← List.drop_drop, hd]; rfl
          simp only [hend, and_false, or_false, body?_pair hq]
          by_cases hline : d = '\n'
          · simp [hline]
          · have hstop := not_plain_behind q t (i + 2)
            generalize hr : (t.drop (i + 2)).takeWhile (fun c => (plain q).accepts c) = run at hstop ⊢
            have hagain := ih (count + 1) (some i) (i + 2 + run.length) (s.goTo i) (by omega)
              (fun k hk => by obtain rfl := Option.some.inj hk; omega) hstop
            have hlen : ∀ v, i + ('\\' :: d :: (run ++ v)).length = i + 2 + run.length + v.length := fun v => by
              simp only [List.length_cons, List.length_append]; omega
            rw [if_neg hline, List.drop_drop]
            simp only [Option.map_eq_some_iff]
            constructor
            · rintro ⟨d', rest', e, -, hfound⟩
              obtain ⟨rfl, rfl⟩ : d = d' ∧ t.drop (i + 2) = rest' := by simpa using e
              obtain ⟨v, hv, hnext⟩ := hagain.mp (hr ▸ hfound)
              refine ⟨_, ⟨v, hv, rfl⟩, ?_⟩
              rwa [hlen, ← hblind _ i]
            · rintro ⟨_, ⟨v, hv, rfl⟩, hnext⟩
              rw [hlen, ← hblind _ i] at hnext
              exact ⟨d, _, rfl, hline, hr ▸ hagain.mpr ⟨v, hv, hnext⟩⟩

/-- The value is what the nodes between the quotes match. -/
theorem content_found (hq : q ≠ '\\') (hsharp : Sharp q t next) (hblind : Pattern.Blind next)
    (hquote : ∀ i s r, next i s = .found r → ∃ rest, t.drop i = q :: rest) (i : Nat) (s r : Trail) :
    (content q).walk t.toArray false i s next = .found r ↔
      ∃ v, body? q (t.drop i) = some v ∧ next (i + v.length) s = .found r := by
  have hrun := not_plain_behind q t i
  have hbody := body?_run q (t.drop i)
  rw [List.drop_drop] at hbody
  have hpairs : Sharp q t fun j s => Pattern.iterate ((pair q).walk t.toArray true) false false 0 none next
      (0 + (t.toArray.size - j) + 2) 0 none j s :=
    fun j hj s r => iterate_fails hsharp false (0 + (t.toArray.size - j) + 2) 0 none j hj s r
  simp only [content, Node.walk]
  rw [Pattern.runFrom_found 0 hpairs (fun j hj => by cases hj)]
  generalize (t.drop i).takeWhile (fun c => (plain q).accepts c) = run at hrun hbody
  simp only [Nat.zero_le, true_and]
  rw [iterate_found hq hsharp hblind hquote false _ 0 none _ _ r (by rw [List.size_toArray]; omega)
    (fun k hk => by cases hk) hrun, hbody]
  simp only [hblind _ _ s r, Option.map_eq_some_iff]
  constructor
  · rintro ⟨v, hv, hnext⟩
    exact ⟨run ++ v, ⟨v, hv, rfl⟩, by rwa [List.length_append, ← Nat.add_assoc]⟩
  · rintro ⟨_, ⟨v, hv, rfl⟩, hnext⟩
    rw [List.length_append, ← Nat.add_assoc] at hnext
    exact ⟨v, hv, hnext⟩

/-! ## One literal -/

/-- The end of a literal: its value is noted, and the quote follows. -/
def closing (t : Text) (q : Char) (number : Nat) (next : Next) : Next := fun j s =>
  if (oneOf false [q]).passes t.toArray j then next (j + 1) (s.note (2 * (number - 1) + 1) j)
  else .lost (s.note (2 * (number - 1) + 1) j)

theorem closing_found (number j : Nat) (s r : Trail) : closing t q number next j s = .found r ↔
    (∃ rest, t.drop j = q :: rest) ∧ next (j + 1) (s.note (2 * (number - 1) + 1) j) = .found r := by
  unfold closing
  cases hd : t.drop j with
  | nil => simp [Pattern.passes_nil hd]
  | cons c rest =>
    rw [Pattern.passes_cons hd, oneOf_accepts]
    by_cases hc : c = q <;> simp [hc]

theorem closing_sharp (number : Nat) : Sharp q t (closing t q number next) := by
  intro j hj s r h
  obtain ⟨⟨rest, hd⟩, -⟩ := (closing_found number j s r).mp h
  rw [Pattern.passes_cons hd, plain_accepts] at hj
  exact hj.1 rfl

theorem closing_blind (hnext : Pattern.Blind next) (number : Nat) : Pattern.Blind (closing t q number next) := by
  intro j k s r
  rw [closing_found, closing_found]
  exact and_congr_right fun _ => hnext (j + 1) k (s.note (2 * (number - 1) + 1) j) r

/-- A literal is matched where it is read: behind the quote the value, and the quote behind it. -/
theorem quoted_found (hq : q ≠ '\\') (hnext : Pattern.Blind next) (number i : Nat) (s r : Trail) :
    (quoted q number).walk t.toArray false i s next = .found r ↔ ∃ rest v, t.drop i = q :: rest ∧
    body? q rest = some v ∧
      next (i + (v.length + 1) + 1)
        ((s.note (2 * (number - 1)) (i + 1)).note (2 * (number - 1) + 1) (i + 1 + v.length)) = .found r := by
  have hsharp : Sharp q t (closing t q number next) := closing_sharp number
  have hblind : Pattern.Blind (closing t q number next) := closing_blind hnext number
  have hquote : ∀ j s r, closing t q number next j s = .found r → ∃ rest, t.drop j = q :: rest := fun j s r h =>
    ((closing_found number j s r).mp h).1
  rw [quoted, Node.walk, Node.walk]
  cases hd : t.drop i with
  | nil => simp [Pattern.passes_nil hd]
  | cons c rest =>
    rw [Pattern.passes_cons hd, oneOf_accepts]
    by_cases hc : c = q
    · subst hc
      obtain rfl : t.drop (i + 1) = rest := by rw [← List.drop_drop, hd]; rfl
      simp only [List.mem_singleton, decide_true, Bool.false_bne, if_true]
      have hwalk := content_found hq hsharp hblind hquote (i + 1) (s.note (2 * (number - 1)) (i + 1)) r
      simp only [closing_found] at hwalk
      refine hwalk.trans ⟨?_, ?_⟩
      · rintro ⟨v, hv, -, hfound⟩
        refine ⟨_, v, rfl, hv, ?_⟩
        rwa [show i + (v.length + 1) + 1 = i + 1 + v.length + 1 by omega]
      · rintro ⟨rest, v, e, hv, hfound⟩
        obtain rfl := (List.cons.inj e).2
        obtain ⟨rest, hrest⟩ := Span.body?_prefix hv
        refine ⟨v, hv, ⟨rest, ?_⟩, ?_⟩
        · rw [← List.drop_drop, ← hrest, List.append_assoc, List.drop_left]
          rfl
        · rwa [show i + 1 + v.length + 1 = i + (v.length + 1) + 1 by omega]
    · simp [hc]

theorem blocked_quoted {c : Char} {rest : Text} {i : Nat} (hd : t.drop i = c :: rest) (q : Char) (number : Nat) :
    (quoted q number).blocked t.toArray i = !decide (c = q) := by
  have hstart : (quoted q number).plainStart? = some (oneOf false [q]) := rfl
  rw [Node.blocked, hstart]
  simp only [Pattern.passes_cons hd, oneOf_accepts, List.mem_singleton, Bool.false_bne]

/-- At a quote only the literal in this quote is looked for. -/
theorem choice_found {rest : Text} {i : Nat} (hd : t.drop i = q :: rest) (hq : q ≠ '\\') (hnext : Pattern.Blind next)
    {other : Node} (hother : Fails (fun i s => other.walk t.toArray false i s next) i) (number : Nat) (s r : Trail) :
    (Node.choice (quoted q number) other).walk t.toArray false i s next = .found r ↔ ∃ v, body? q rest = some v ∧
      next (i + (v.length + 1) + 1) (((s.goTo i).note (2 * (number - 1)) (i + 1)).note (2 * (number - 1) + 1)
        (i + 1 + v.length)) = .found r := by
  have hblocked : (quoted q number).blocked t.toArray i = false := by simp [blocked_quoted hd]
  rw [Pattern.walk_choice_found hblocked, quoted_found hq hnext, hd]
  constructor
  · rintro (⟨rest', v, e, h⟩ | ⟨s', -, h⟩)
    · obtain rfl := (List.cons.inj e).2
      exact ⟨v, h⟩
    · exact absurd h (hother (s'.back false s) r)
  · rintro ⟨v, h⟩
    exact Or.inl ⟨rest, v, rfl, h⟩

/-! ## All literals -/

/-- The match of a literal that was found: the offset of its quote, the quote and the value. -/
def toMatch (x : Nat × Char × Text) : Match where
  start := x.1
  stop := x.1 + (x.2.2.length + 1) + 1
  notes :=
    let value := [some (x.1 + 1), some (x.1 + 1 + x.2.2.length)]
    if x.2.1 = '"' then value else none :: none :: value

theorem walk_found {c : Char} {rest : Text} {i : Nat} (hd : t.drop i = c :: rest) (hc : isQuote c = true)
    (hnext : Pattern.Blind next) (r : Trail) :
    pattern.root.walk t.toArray false i ⟨[], i⟩ next = .found r ↔ ∃ v, body? c rest = some v ∧
      next (i + (v.length + 1) + 1) ⟨(toMatch (i, c, v)).notes, i⟩ = .found r := by
  have hnever : Fails (fun i s => Node.never.walk t.toArray false i s next) i := fun s r h => by cases h
  simp only [isQuote, Bool.or_eq_true, beq_iff_eq] at hc
  rw [pattern]
  rcases hc with rfl | rfl
  · refine choice_found hd (by decide) hnext (fun s r => ?_) 1 ⟨[], i⟩ r
    simp only
    rw [Pattern.walk_choice_blocked (by rw [blocked_quoted hd]; rfl)]
    exact hnever s r
  · rw [Pattern.walk_choice_blocked (by rw [blocked_quoted hd]; rfl)]
    exact choice_found hd (by decide) hnext hnever 2 ⟨[], i⟩ r

theorem front?_eq_some {n : Nat} {c : Char} {v : Text} (h : front? t = some (n, c, v)) :
    ∃ rest, t = c :: rest ∧ isQuote c = true ∧ body? c rest = some v ∧ n = v.length + 1 := by
  cases t with
  | nil => cases h
  | cons d rest =>
    rw [front?] at h
    split at h
    · rename_i hd
      obtain ⟨w, hw, e⟩ := Option.map_eq_some_iff.mp h
      obtain ⟨rfl, rfl, rfl⟩ : w.length + 1 = n ∧ d = c ∧ w = v := by simpa using e
      exact ⟨rest, rfl, hd, hw, rfl⟩
    · cases h

theorem sweeps : pattern.Sweeps front? toMatch where
  matchAt t i := by
    cases hd : t.drop i with
    | nil => simp [pattern, Pattern.Start.allows, Pattern.passes_nil hd, front?]
    | cons c rest =>
      have hallows : pattern.start.allows t.toArray i = isQuote c := by
        simp only [pattern, Pattern.Start.allows, Pattern.passes_cons hd, oneOf_accepts]
        simp only [isQuote, List.mem_cons, List.not_mem_nil, or_false, Bool.false_bne, Bool.decide_or]
        rfl
      rw [hallows]
      by_cases hc : isQuote c = true
      · have hfound : ∀ r, pattern.root.walk t.toArray false i ⟨[], i⟩ Pattern.accept = .found r ↔
            (body? c rest).map (fun v => (⟨(toMatch (i, c, v)).notes, i + (v.length + 1) + 1⟩ : Trail)) =
              some r := by
          intro r
          rw [walk_found hd hc fun _ _ _ _ => Iff.rfl, Option.map_eq_some_iff]
          exact exists_congr fun v => and_congr_right fun _ => Outcome.found.injEq _ _ ▸ Iff.rfl
        rw [if_pos hc, front?, if_pos hc, Pattern.matchAt?_of hfound, Option.map_map, Option.map_map]
        rfl
      · simp [front?, hc]
  start _ := rfl
  stop h i := by
    obtain ⟨-, -, -, -, rfl⟩ := front?_eq_some h
    rfl
  within h := by
    obtain ⟨rest, rfl, -, hv, rfl⟩ := front?_eq_some h
    have hle := (Span.body?_prefix hv).length_le
    simp only [pattern, List.length_append, List.length_cons, List.length_nil] at hle ⊢
    omega

/-- The literal of a match. -/
def ofMatch? (t : Text) (m : Match) : Option Literal :=
  (m.group? 1 <|> m.group? 2).map
    fun value => ⟨Text.slice t value.1 value.2, m.start + 1, Text.slice t m.start m.stop⟩

theorem group_toMatch (i : Nat) (c : Char) (v : Text) :
    ((toMatch (i, c, v)).group? 1 <|> (toMatch (i, c, v)).group? 2) = some (i + 1, i + 1 + v.length) := by
  by_cases hc : c = '"' <;> simp [toMatch, hc, Match.group?, Pattern.Notes.range?, Pattern.Notes.ends?]

/-- The pattern as it is written has a match for each literal, in order, and no other. -/
theorem all_eq_matches :
    ∃ p, Pattern.read written = .ok p ∧ ∀ t, (p.allMatches t).map (ofMatch? t) = (all t).map some := by
  refine ⟨pattern, pattern_read, fun t => ?_⟩
  rw [sweeps.allMatches_eq, all, scan_eq_sweep, List.map_map, List.map_map]
  refine List.map_congr_left fun x hx => ?_
  obtain ⟨m, n, hm, hfront⟩ := Text.mem_sweep hx
  obtain ⟨i, c, v⟩ := x
  obtain rfl : i = m := by simpa using hm
  obtain ⟨rest, hd, hc, hv, -⟩ := front?_eq_some hfront
  obtain ⟨rest, rfl⟩ := Span.body?_prefix hv
  have hwhole : Text.Stands t i (c :: v ++ [c]) := ⟨rest, by rw [hd]; simp⟩
  have hvalue : Text.Stands t (i + 1) v := hwhole.inner ⟨[c], by simp⟩
  have hfull := hwhole.slice
  rw [show (c :: v ++ [c]).length = v.length + 1 + 1 by simp, ← Nat.add_assoc] at hfull
  simp only [Function.comp, ofMatch?, group_toMatch, Option.map_some, hvalue.slice]
  rw [show Text.slice t (toMatch (i, c, v)).start (toMatch (i, c, v)).stop = c :: v ++ [c] from hfull]
  rfl

end Literal

end ClassTidy
