/-
  ClassTidy.Proofs.Peeling — the rank of a class behind its variants.

  A name is cut at every colon, and there is one way only to cut it into pieces that hold
  none (`eq_pieces_iff`). Peeling goes through the pieces: a variant is taken off, what is
  left is looked up, and so on. So the first rest that is a class decides, with the offsets
  of all pieces before it (`peel_first`), and nothing is found if each rest that is a class
  has an unknown variant before it (`peel_unknown`).

  The loop itself is told by `Turn`, on the text that is left: a turn takes off a variant
  with its colon and changes no answer (`peel_turn`), so there are no more turns than colons.

  Proved (`rank_exact`): the name as a whole or the first rest that is a class gives the
  rank, if the pieces before it are variants; in all other cases there is none, and the
  empty name has none in any table.
-/
import Mathlib.Algebra.Ring.Int.Defs
import Mathlib.Data.List.Basic
import Mathlib.Data.Nat.Find
import ClassTidy.Rank.Table

namespace ClassTidy

namespace Text

/-! ## Pieces -/

theorem pieces_eq_splitOn (sep : Char) (t : Text) : pieces sep t = t.splitOn sep := by
  induction t with
  | nil => rfl
  | cons c t ih =>
    rw [pieces, ih, List.splitOn_cons_eq_if_modifyHead]
    by_cases hc : c = sep
    · simp [hc]
    · simp only [hc, if_false, beq_iff_eq]
      cases hsplit : t.splitOn sep with
      | nil => exact absurd hsplit (List.splitOn_ne_nil sep t)
      | cons p ps => rfl

theorem join_eq_intercalate (sep : Text) (ts : List Text) : join sep ts = sep.intercalate ts := by
  induction ts with
  | nil => rfl
  | cons t ts ih =>
    cases ts with
    | nil => simp [join]
    | cons u ts => rw [join, ih, List.intercalate_cons_cons]

theorem pieces_ne_nil (sep : Char) (t : Text) : pieces sep t ≠ [] := by
  rw [pieces_eq_splitOn]
  exact List.splitOn_ne_nil sep t

@[simp] theorem join_pieces (sep : Char) (t : Text) : join [sep] (pieces sep t) = t := by
  rw [join_eq_intercalate, pieces_eq_splitOn, List.intercalate_splitOn]

theorem pieces_append {sep : Char} {p : Text} (h : sep ∉ p) (t : Text) :
    pieces sep (p ++ sep :: t) = p :: pieces sep t := by
  rw [pieces_eq_splitOn, pieces_eq_splitOn, List.splitOn_append_cons_self_of_not_mem h]

theorem not_mem_of_pieces {sep : Char} {t p : Text} (h : p ∈ pieces sep t) : sep ∉ p := by
  induction t generalizing p with
  | nil =>
    obtain rfl := List.mem_singleton.mp h
    exact List.not_mem_nil
  | cons c t ih =>
    unfold pieces at h
    by_cases hc : c = sep
    · rw [if_pos hc] at h
      rcases List.mem_cons.mp h with rfl | h
      · exact List.not_mem_nil
      · exact ih h
    · rw [if_neg hc] at h
      cases hp : pieces sep t with
      | nil => exact absurd hp (pieces_ne_nil sep t)
      | cons q qs =>
        rw [hp] at h
        rcases List.mem_cons.mp h with rfl | h
        · have hq : sep ∉ q := ih (by rw [hp]; exact List.mem_cons_self)
          simp [hq, Ne.symm hc]
        · exact ih (by rw [hp]; exact List.mem_cons_of_mem q h)

/-- There is one way to cut a text into pieces that do not hold the separator. -/
theorem eq_pieces_iff {sep : Char} {t : Text} {ps : List Text} :
    ps = pieces sep t ↔ ps ≠ [] ∧ (∀ p ∈ ps, sep ∉ p) ∧ join [sep] ps = t := by
  constructor
  · intro h
    subst h
    exact ⟨pieces_ne_nil sep t, fun p hp => not_mem_of_pieces hp, join_pieces sep t⟩
  · intro ⟨hne, hsep, hjoin⟩
    rw [← hjoin, join_eq_intercalate, pieces_eq_splitOn, List.splitOn_intercalate sep hsep hne]

end Text

namespace RankTable

variable {t : RankTable}

/-! ## The first rest that is a class -/

/-- What is left of a name behind its first `k` pieces. -/
def rest (name : Text) (k : Nat) : Text := Text.join [':'] ((Text.pieces ':' name).drop k)

theorem rest_zero (name : Text) : rest name 0 = name := Text.join_pieces ':' name

/-- Behind the first `k` pieces of a name, which are variants with these offsets, a class is left for the first time. -/
structure FirstClass (t : RankTable) (name : Text) (k : Nat) (base : Int) (offsets : List Int) : Prop where
  inside : k < (Text.pieces ':' name).length
  found : t.classRank? (rest name k) = some base
  least : ∀ j < k, t.classRank? (rest name j) = none
  variants : ((Text.pieces ':' name).take k).map t.variantOffset? = offsets.map some

/-- The first rest that is a class decides. The offset so far is part of the sum, as the induction peels off piece
by piece. -/
theorem peel_first {s : List Text} {k : Nat} {base : Int} {offsets : List Int} (offset : Int) (hk : k + 1 < s.length)
    (hfound : t.classRank? (Text.join [':'] (s.drop (k + 1))) = some base)
    (hleast : ∀ j < k, t.classRank? (Text.join [':'] (s.drop (j + 1))) = none)
    (hvariants : (s.take (k + 1)).map t.variantOffset? = offsets.map some) :
    t.peel offset s = .known (base + (offset + offsets.sum)) := by
  induction s generalizing k offset offsets with
  | nil => simp at hk
  | cons variant s ih =>
    cases s with
    | nil => simp at hk
    | cons piece s =>
      cases offsets with
      | nil => simp at hvariants
      | cons o offsets =>
        simp only [List.take_succ_cons, List.map_cons, List.cons.injEq] at hvariants
        obtain ⟨hvariant, hvariants⟩ := hvariants
        rw [peel, hvariant]
        cases k with
        | zero =>
          have hbase : t.classRank? (Text.join [':'] (piece :: s)) = some base := hfound
          have hnone : offsets = [] := by simpa using hvariants.symm
          simp [hbase, hnone]
        | succ k =>
          have hnext : t.classRank? (Text.join [':'] (piece :: s)) = none := hleast 0 (by omega)
          have hlater : ∀ j < k, t.classRank? (Text.join [':'] ((piece :: s).drop (j + 1))) = none := by
            intro j hj
            exact hleast (j + 1) (by omega)
          simp only [hnext]
          rw [ih (offset + o) (by simpa using hk) hfound hlater hvariants, List.sum_cons, Int.add_assoc]

/-- Nothing is found if each rest that is a class has a piece before it that is no variant. -/
theorem peel_unknown {s : List Text} (offset : Int)
    (h : ∀ k, k + 1 < s.length → (t.classRank? (Text.join [':'] (s.drop (k + 1)))).isSome = true →
      ∃ v ∈ s.take (k + 1), t.variantOffset? v = none) : t.peel offset s = .unknown := by
  induction s generalizing offset with
  | nil => rfl
  | cons variant s ih =>
    cases s with
    | nil => rfl
    | cons piece s =>
      rw [peel]
      cases hvariant : t.variantOffset? variant with
      | none => rfl
      | some o =>
        have hnext : t.classRank? (Text.join [':'] (piece :: s)) = none := by
          by_contra hsome
          obtain ⟨v, hv, hnone⟩ := h 0 (by simp) (Option.isSome_iff_ne_none.mpr hsome)
          obtain rfl : v = variant := by simpa using hv
          rw [hvariant] at hnone
          cases hnone
        simp only [hnext]
        apply ih
        intro k hk hsome
        obtain ⟨v, hv, hnone⟩ := h (k + 1) (by simpa using hk) hsome
        rcases List.mem_cons.mp hv with rfl | hv
        · rw [hvariant] at hnone
          cases hnone
        · exact ⟨v, hv, hnone⟩

theorem rank_of_class {name : Text} (hne : name ≠ []) {n : Int} (h : t.classRank? name = some n) :
    t.rank name = .known n := by
  simp [rank, hne, h]

theorem rank_of_no_class {name : Text} (hne : name ≠ []) (h : t.classRank? name = none) :
    t.rank name = t.peel 0 (Text.pieces ':' name) := by
  simp [rank, hne, h]

theorem FirstClass.rank_eq {name : Text} {k : Nat} {base : Int} {offsets : List Int}
    (h : FirstClass t name k base offsets) (hne : name ≠ []) : t.rank name = .known (base + offsets.sum) := by
  cases k with
  | zero =>
    have hfound := h.found
    have hnone : offsets = [] := by simpa using h.variants.symm
    rw [rest_zero] at hfound
    rw [rank_of_class hne hfound, hnone]
    simp
  | succ k =>
    have hname : t.classRank? name = none := by
      have hzero := h.least 0 (by omega)
      rwa [rest_zero] at hzero
    have hlater : ∀ j < k, t.classRank? (rest name (j + 1)) = none := by
      intro j hj
      exact h.least (j + 1) (by omega)
    rw [rank_of_no_class hne hname, peel_first 0 h.inside h.found hlater h.variants, Int.zero_add]

/-- If some class is left behind variants alone, then so is the first class that is left. -/
theorem exists_firstClass {name : Text} {k : Nat} (hk : k < (Text.pieces ':' name).length)
    (hclass : (t.classRank? (rest name k)).isSome = true)
    (hvariants : ∀ v ∈ (Text.pieces ':' name).take k, (t.variantOffset? v).isSome = true) :
    ∃ j base offsets, FirstClass t name j base offsets := by
  have hex : ∃ j, (t.classRank? (rest name j)).isSome = true := ⟨k, hclass⟩
  have hle : Nat.find hex ≤ k := Nat.find_min' hex hclass
  obtain ⟨base, hbase⟩ := Option.isSome_iff_exists.mp (Nat.find_spec hex)
  refine ⟨Nat.find hex, base, ((Text.pieces ':' name).take (Nat.find hex)).map fun v => (t.variantOffset? v).getD 0,
    by omega, hbase, ?_, ?_⟩
  · intro j hj
    simpa using Nat.find_min hex hj
  · rw [List.map_map]
    apply List.map_congr_left
    intro v hv
    obtain ⟨o, ho⟩ := Option.isSome_iff_exists.mp (hvariants v ((List.take_subset_take_left _ hle) hv))
    simp [ho]

/-- A name has no rank exactly if it is empty, or no class is left behind variants alone. -/
theorem rank_unknown_iff {name : Text} :
    t.rank name = .unknown ↔
      name = [] ∨ ¬ ∃ k < (Text.pieces ':' name).length, (t.classRank? (rest name k)).isSome = true ∧
        ∀ v ∈ (Text.pieces ':' name).take k, (t.variantOffset? v).isSome = true := by
  constructor
  · intro h
    by_contra hcon
    push Not at hcon
    obtain ⟨hne, k, hk, hclass, hvariants⟩ := hcon
    obtain ⟨j, base, offsets, hfirst⟩ := exists_firstClass hk hclass hvariants
    rw [hfirst.rank_eq hne] at h
    cases h
  · intro h
    by_cases hne : name = []
    · subst hne
      rfl
    have hall := h.resolve_left hne
    push Not at hall
    have hname : t.classRank? name = none := by
      by_contra hsome
      have hzero := hall 0 (List.length_pos_iff.mpr (Text.pieces_ne_nil ':' name))
      rw [rest_zero] at hzero
      obtain ⟨v, hv, -⟩ := hzero (Option.isSome_iff_ne_none.mpr hsome)
      cases hv
    rw [rank_of_no_class hne hname]
    apply peel_unknown
    intro k hk hsome
    obtain ⟨v, hv, hno⟩ := hall (k + 1) hk hsome
    exact ⟨v, hv, by simpa using hno⟩

/-- A name has a rank exactly if it is not empty and the first class that is left of it is left behind variants. -/
theorem rank_known_iff {name : Text} {n : Int} :
    t.rank name = .known n ↔ name ≠ [] ∧ ∃ k base offsets, FirstClass t name k base offsets ∧
      n = base + offsets.sum := by
  constructor
  · intro h
    have hsome : t.rank name ≠ .unknown := by
      rw [h]
      simp
    have hex := mt rank_unknown_iff.mpr hsome
    push Not at hex
    obtain ⟨hne, k, hk, hclass, hvariants⟩ := hex
    obtain ⟨j, base, offsets, hfirst⟩ := exists_firstClass hk hclass hvariants
    rw [hfirst.rank_eq hne] at h
    exact ⟨hne, j, base, offsets, hfirst, (Rank.known.inj h).symm⟩
  · intro ⟨hne, k, base, offsets, hfirst, hn⟩
    rw [hfirst.rank_eq hne, hn]

/-! ## The turns of the loop -/

/-- One turn that is not the last: a known variant and its colon are taken off, and what is left is no class. -/
inductive Turn (t : RankTable) : Int × Text → Int × Text → Prop
  | peel {variant left : Text} {offset o : Int} (colon : ':' ∉ variant) (known : t.variantOffset? variant = some o)
      (further : t.classRank? left = none) : Turn t (offset, variant ++ ':' :: left) (offset + o, left)

/-- So many turns, one after the other. -/
inductive Turns (t : RankTable) : Nat → Int × Text → Int × Text → Prop
  | nil (a : Int × Text) : Turns t 0 a a
  | cons {n : Nat} {a b c : Int × Text} (first : Turn t a b) (more : Turns t n b c) : Turns t (n + 1) a c

/-- A turn changes no answer. -/
theorem peel_turn {a b : Int × Text} (h : Turn t a b) :
    t.peel a.1 (Text.pieces ':' a.2) = t.peel b.1 (Text.pieces ':' b.2) := by
  cases h with
  | @peel variant left offset o colon known further =>
    have hjoin := Text.join_pieces ':' left
    simp only [Text.pieces_append colon]
    cases hp : Text.pieces ':' left with
    | nil => exact absurd hp (Text.pieces_ne_nil ':' left)
    | cons p ps =>
      rw [hp] at hjoin
      rw [RankTable.peel, known]
      simp only [hjoin, further]

/-- A turn takes one colon off. -/
theorem count_turn {a b : Int × Text} (h : Turn t a b) : a.2.count ':' = b.2.count ':' + 1 := by
  cases h with
  | peel colon known further => simp [List.count_eq_zero_of_not_mem colon]

theorem peel_turns {n : Nat} {a b : Int × Text} (h : Turns t n a b) :
    n + b.2.count ':' = a.2.count ':' ∧ t.peel a.1 (Text.pieces ':' a.2) = t.peel b.1 (Text.pieces ':' b.2) := by
  induction h with
  | nil a => exact ⟨Nat.zero_add _, rfl⟩
  | cons first more ih =>
    have hcount := count_turn first
    exact ⟨by omega, (peel_turn first).trans ih.2⟩

/-! ## The rank of a name -/

/-- A name has the rank of the first rest that is a class, the name as a whole being the first of them, with the
offsets of the variants before it, exactly if it is not empty and all pieces before that rest are variants. It has
none exactly if it is empty or no class is left behind variants alone. The loop ends: it has no more turns than the
name has colons, and none of them changes the answer. -/
theorem rank_exact (t : RankTable) (name : Text) :
    (∀ s, s = Text.pieces ':' name ↔ s ≠ [] ∧ (∀ p ∈ s, ':' ∉ p) ∧ Text.join [':'] s = name) ∧
    (∀ n, t.rank name = .known n ↔
      name ≠ [] ∧ ∃ k base offsets, FirstClass t name k base offsets ∧ n = base + offsets.sum) ∧
    (t.rank name = .unknown ↔
      name = [] ∨ ¬ ∃ k < (Text.pieces ':' name).length, (t.classRank? (rest name k)).isSome = true ∧
        ∀ v ∈ (Text.pieces ':' name).take k, (t.variantOffset? v).isSome = true) ∧
    (∀ n state, Turns t n (0, name) state →
      n ≤ name.count ':' ∧ t.peel 0 (Text.pieces ':' name) = t.peel state.1 (Text.pieces ':' state.2)) := by
  refine ⟨fun s => Text.eq_pieces_iff, fun n => rank_known_iff, rank_unknown_iff, ?_⟩
  intro n state h
  obtain ⟨hcount, hsame⟩ := peel_turns h
  simp only at hcount
  exact ⟨by omega, hsame⟩

/-- Two variants are peeled off, one of them empty, and a class with a colon in it is found before the class behind
it; behind a piece that is no variant that class is not found. -/
theorem rank_exact_stacked :
    let t : RankTable := ⟨[("a:b".toList, 7), ("b".toList, 1)], [("sm".toList, 100), ([], 5), ("a".toList, 50)]⟩
    let name := "sm::a:b".toList
    FirstClass t name 2 7 [100, 5] ∧ t.rank name = .known 112 ∧ t.rank "sm:c:b".toList = .unknown ∧
      Turns t 1 (0, name) (100, ":a:b".toList) ∧ 1 ≤ name.count ':' := by
  intro t name
  obtain ⟨-, hknown, -, hloop⟩ := rank_exact t name
  obtain ⟨-, -, hunknown, -⟩ := rank_exact t "sm:c:b".toList
  have hfirst : FirstClass t name 2 7 [100, 5] := ⟨by decide, by decide, by decide, by decide⟩
  have hturn : Turn t (0, "sm".toList ++ ':' :: ":a:b".toList) (0 + 100, ":a:b".toList) :=
    .peel (by decide) (by decide) (by decide)
  have hturns : Turns t 1 (0, name) (100, ":a:b".toList) := .cons hturn (.nil _)
  exact ⟨hfirst, (hknown 112).mpr ⟨by decide, 2, 7, [100, 5], hfirst, rfl⟩,
    hunknown.mpr (Or.inr (by decide)), hturns,
    (hloop 1 _ hturns).1⟩

end RankTable

end ClassTidy
