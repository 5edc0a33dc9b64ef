/-
  ClassTidy.Proofs.Positions — where an offset lies.

  Lines start at 0 and behind newlines, nowhere else (`mem_lineStarts`), and the starts are
  in order. Cut at an offset, a text has the starts of its first part at or before the cut
  and all others behind it (`lineStarts_cut`). So the starts up to an offset are the first
  ones, one more than there are newlines before it, and the last of them is where its line
  starts.

  `Brackets starts x lo hi` says that entries get greater than `x` somewhere between the
  places `lo` and `hi`. Where the two meet there is one such place, and it tells the position
  (`Brackets.position_eq`). A turn of a search that halves keeps the brackets, so in a list
  that is in order the search ends at that place (`Brackets.halve`).

  Proved (`position_exact`): the line of an offset is the number of newlines before it, and
  a search that halves finds it; the start of that line and the column add up to the offset,
  with no newline in between; so positions are in the order of their offsets.
-/
import ClassTidy.Document.Lines
import ClassTidy.Proofs.Slice

namespace ClassTidy.Document

/-! ## Where lines start -/

theorem mem_startsBehind {i s : Nat} {t : Text} :
    s ∈ startsBehind i t ↔ ∃ k, t[k]? = some '\n' ∧ s = i + k + 1 := by
  induction t generalizing i with
  | nil => simp [startsBehind]
  | cons c t ih =>
    -- a newline of `c :: t` is `c` or one of `t`, a place further on
    have hsplit : (∃ k, (c :: t)[k]? = some '\n' ∧ s = i + k + 1) ↔
        (c = '\n' ∧ s = i + 1) ∨ ∃ k, t[k]? = some '\n' ∧ s = i + 1 + k + 1 := by
      constructor
      · rintro ⟨k, hk, rfl⟩
        cases k with
        | zero => exact .inl ⟨by simpa using hk, rfl⟩
        | succ k => exact .inr ⟨k, by simpa using hk, by omega⟩
      · rintro (⟨rfl, rfl⟩ | ⟨k, hk, rfl⟩)
        · exact ⟨0, rfl, rfl⟩
        · exact ⟨k + 1, by simpa using hk, by omega⟩
    rw [hsplit, startsBehind, ← ih]
    by_cases hc : c = '\n' <;> simp [hc]

theorem mem_lineStarts {s : Nat} {t : Text} :
    s ∈ lineStarts t ↔ s = 0 ∨ ∃ k, t[k]? = some '\n' ∧ s = k + 1 := by
  simp [lineStarts, mem_startsBehind]

theorem startsBehind_append (i : Nat) (u v : Text) :
    startsBehind i (u ++ v) = startsBehind i u ++ startsBehind (i + u.length) v := by
  induction u generalizing i with
  | nil => rfl
  | cons c u ih =>
    have hlen : i + (c :: u).length = i + 1 + u.length := by
      rw [List.length_cons]
      omega
    rw [List.cons_append, startsBehind, startsBehind, ih, hlen]
    split <;> rfl

theorem length_startsBehind (i : Nat) (t : Text) : (startsBehind i t).length = t.count '\n' := by
  induction t generalizing i with
  | nil => rfl
  | cons c t ih => by_cases hc : c = '\n' <;> simp [startsBehind, hc, ih]

theorem startsBehind_ascending (i : Nat) (t : Text) : (startsBehind i t).Pairwise (· < ·) := by
  induction t generalizing i with
  | nil => exact .nil
  | cons c t ih =>
    rw [startsBehind]
    split
    · refine List.pairwise_cons.mpr ⟨fun s hs => ?_, ih (i + 1)⟩
      obtain ⟨k, -, rfl⟩ := mem_startsBehind.mp hs
      omega
    · exact ih (i + 1)

theorem lineStarts_ascending (t : Text) : (lineStarts t).Pairwise (· < ·) := by
  refine List.pairwise_cons.mpr ⟨fun s hs => ?_, startsBehind_ascending 0 t⟩
  obtain ⟨k, -, rfl⟩ := mem_startsBehind.mp hs
  omega

/-- The starts of a text that is cut: those of its first part, all of them up to the cut, and others behind it. -/
theorem lineStarts_cut (t : Text) (offset : Nat) :
    ∃ others, lineStarts t = lineStarts (t.take offset) ++ others ∧
      (∀ s ∈ lineStarts (t.take offset), s ≤ offset) ∧ ∀ s ∈ others, offset < s := by
  refine ⟨startsBehind (t.take offset).length (t.drop offset), ?_, fun s hs => ?_, fun s hs => ?_⟩
  · have happend := startsBehind_append 0 (t.take offset) (t.drop offset)
    rw [List.take_append_drop, Nat.zero_add] at happend
    rw [lineStarts, happend]
    rfl
  · rcases mem_lineStarts.mp hs with rfl | ⟨k, hk, rfl⟩
    · exact Nat.zero_le offset
    · obtain ⟨hlt, -⟩ := List.getElem?_eq_some_iff.mp hk
      rw [List.length_take] at hlt
      omega
  · obtain ⟨k, hk, rfl⟩ := mem_startsBehind.mp hs
    obtain ⟨hlt, -⟩ := List.getElem?_eq_some_iff.mp hk
    rw [List.length_drop] at hlt
    rw [List.length_take]
    omega

/-! ## Where a list gets greater than an offset -/

/-- Entries before the place `lo` are at most `x`, and those from the place `hi` on are greater. -/
structure Brackets (starts : List Nat) (x : Int) (lo hi : Nat) : Prop where
  le : lo ≤ hi
  le_length : hi ≤ starts.length
  before : ∀ (i s : Nat), starts[i]? = some s → i < lo → (s : Int) ≤ x
  behind : ∀ (i s : Nat), starts[i]? = some s → hi ≤ i → x < (s : Int)

variable {starts : List Nat} {x : Int} {lo hi k : Nat}

theorem brackets_all (starts : List Nat) (x : Int) : Brackets starts x 0 starts.length where
  le := Nat.zero_le _
  le_length := Nat.le_refl _
  before := fun i s _ hi => absurd hi (Nat.not_lt_zero i)
  behind := fun i s hs hi => by
    rw [List.getElem?_eq_none hi] at hs
    cases hs

theorem brackets_append {a b : List Nat} (ha : ∀ s ∈ a, (s : Int) ≤ x) (hb : ∀ s ∈ b, x < (s : Int)) :
    Brackets (a ++ b) x a.length a.length where
  le := Nat.le_refl _
  le_length := by
    rw [List.length_append]
    omega
  before := fun i s hs hi => by
    rw [List.getElem?_append_left hi] at hs
    exact ha s (List.mem_of_getElem? hs)
  behind := fun i s hs hi => by
    rw [List.getElem?_append_right hi] at hs
    exact hb s (List.mem_of_getElem? hs)

/-- The place where brackets meet is the number of entries up to `x`. -/
theorem Brackets.length_filter (h : Brackets starts x k k) :
    (starts.filter fun (s : Nat) => decide ((s : Int) ≤ x)).length = k := by
  have hfirst : (starts.take k).filter (fun (s : Nat) => decide ((s : Int) ≤ x)) = starts.take k := by
    refine List.filter_eq_self.mpr fun s hs => ?_
    obtain ⟨i, hi⟩ := List.mem_iff_getElem?.mp hs
    have hik : i < k := by
      obtain ⟨hlt, -⟩ := List.getElem?_eq_some_iff.mp hi
      rw [List.length_take] at hlt
      omega
    rw [List.getElem?_take_of_lt hik] at hi
    exact decide_eq_true (h.before i s hi hik)
  have hrest : (starts.drop k).filter (fun (s : Nat) => decide ((s : Int) ≤ x)) = [] := by
    refine List.filter_eq_nil_iff.mpr fun s hs => ?_
    obtain ⟨i, hi⟩ := List.mem_iff_getElem?.mp hs
    rw [List.getElem?_drop] at hi
    have hlt := h.behind (k + i) s hi (Nat.le_add_right k i)
    simpa using hlt
  calc (starts.filter fun (s : Nat) => decide ((s : Int) ≤ x)).length
      = ((starts.take k ++ starts.drop k).filter fun (s : Nat) => decide ((s : Int) ≤ x)).length := by
        rw [List.take_append_drop]
    _ = k := by
        rw [List.filter_append, hfirst, hrest, List.append_nil, List.length_take, Nat.min_eq_left h.le_length]

/-- The place where brackets meet tells the position: the line is the one before it. -/
theorem Brackets.position_eq (h : Brackets starts x k k) :
    position starts x = (k - 1, x - (starts.getD (k - 1) 0 : Nat)) := by
  rw [position, h.length_filter]

/-- Looks between the places `lo` and `hi` for the one where entries get greater than `x`, by halving. -/
def halve (starts : List Nat) (x : Int) (lo hi : Nat) : Nat :=
  if lo < hi then
    if x < (starts.getD ((lo + hi) / 2) 0 : Nat) then halve starts x lo ((lo + hi) / 2)
    else halve starts x ((lo + hi) / 2 + 1) hi
  else lo
termination_by hi - lo

theorem ascending_le (hs : starts.Pairwise (· < ·)) {i j s u : Nat} (hi : starts[i]? = some s)
    (hj : starts[j]? = some u) (hij : i ≤ j) : s ≤ u := by
  obtain ⟨hilt, rfl⟩ := List.getElem?_eq_some_iff.mp hi
  obtain ⟨hjlt, rfl⟩ := List.getElem?_eq_some_iff.mp hj
  rcases Nat.eq_or_lt_of_le hij with rfl | hlt
  · exact Nat.le_refl _
  · exact Nat.le_of_lt (List.pairwise_iff_getElem.mp hs i j hilt hjlt hlt)

/-- An entry that is greater than `x` can be the upper bracket. -/
theorem Brackets.lower (hs : starts.Pairwise (· < ·)) (h : Brackets starts x lo hi) {mid s : Nat} (hlo : lo ≤ mid)
    (hmid : starts[mid]? = some s) (hx : x < (s : Int)) : Brackets starts x lo mid := by
  obtain ⟨hlt, -⟩ := List.getElem?_eq_some_iff.mp hmid
  refine ⟨hlo, Nat.le_of_lt hlt, h.before, fun i u hu hi => ?_⟩
  have hle := ascending_le hs hmid hu hi
  omega

/-- The place behind an entry that is at most `x` can be the lower bracket. -/
theorem Brackets.upper (hs : starts.Pairwise (· < ·)) (h : Brackets starts x lo hi) {mid s : Nat} (hhi : mid < hi)
    (hmid : starts[mid]? = some s) (hx : (s : Int) ≤ x) : Brackets starts x (mid + 1) hi := by
  refine ⟨hhi, h.le_length, fun i u hu hi => ?_, h.behind⟩
  have hle := ascending_le hs hu hmid (Nat.le_of_lt_succ hi)
  omega

/-- Between brackets that are apart there is an entry to look at. -/
theorem Brackets.entry (h : Brackets starts x lo hi) (hlt : lo < hi) :
    starts[(lo + hi) / 2]? = some (starts.getD ((lo + hi) / 2) 0) := by
  have hmid : (lo + hi) / 2 < starts.length := by
    have := h.le_length
    omega
  rw [List.getD_eq_getElem?_getD, List.getElem?_eq_getElem hmid, Option.getD_some]

/-- In a list that is in order, the search ends where the brackets meet. -/
theorem Brackets.halve (hs : starts.Pairwise (· < ·)) (h : Brackets starts x lo hi) :
    Brackets starts x (halve starts x lo hi) (halve starts x lo hi) := by
  fun_induction Document.halve starts x lo hi with
  | case1 lo hi hlt hx ih => exact ih (h.lower hs (by omega) (h.entry hlt) hx)
  | case2 lo hi hlt hx ih => exact ih (h.upper hs (by omega) (h.entry hlt) (Int.not_lt.mp hx))
  | case3 lo hi hlt =>
    obtain rfl : lo = hi := Nat.le_antisymm h.le (Nat.not_lt.mp hlt)
    exact h

/-- What a search over all starts finds, less one, is the line. -/
theorem line_eq_halve (hs : starts.Pairwise (· < ·)) (x : Int) :
    (position starts x).1 = halve starts x 0 starts.length - 1 := by
  rw [((brackets_all starts x).halve hs).position_eq]

/-! ## Offsets of a text -/

theorem brackets_lineStarts (t : Text) (offset : Nat) :
    Brackets (lineStarts t) offset ((t.take offset).count '\n' + 1) ((t.take offset).count '\n' + 1) := by
  obtain ⟨others, hcut, hfirst, hothers⟩ := lineStarts_cut t offset
  have hlen : (lineStarts (t.take offset)).length = (t.take offset).count '\n' + 1 := by
    rw [lineStarts, List.length_cons, length_startsBehind]
  rw [hcut, ← hlen]
  exact brackets_append (fun s hs => Int.ofNat_le.mpr (hfirst s hs)) fun s hs => Int.ofNat_lt.mpr (hothers s hs)

/-- The line of an offset is the number of newlines before it; its start lies at or before the offset, and no newline
between. -/
theorem position_lineStarts (t : Text) (offset : Nat) :
    ∃ start column : Nat, position (lineStarts t) offset = ((t.take offset).count '\n', (column : Int)) ∧
      (lineStarts t)[(t.take offset).count '\n']? = some start ∧ start + column = offset ∧
      '\n' ∉ Text.slice t start offset := by
  have hplace := brackets_lineStarts t offset
  have hline : (t.take offset).count '\n' < (lineStarts t).length := hplace.le_length
  obtain ⟨start, hstart⟩ : ∃ start, (lineStarts t)[(t.take offset).count '\n']? = some start :=
    ⟨_, List.getElem?_eq_getElem hline⟩
  have hle : start ≤ offset := Int.ofNat_le.mp (hplace.before _ start hstart (Nat.lt_succ_self _))
  refine ⟨start, offset - start, ?_, hstart, Nat.add_sub_cancel' hle, fun hmem => ?_⟩
  · rw [hplace.position_eq, Nat.add_sub_cancel, List.getD_eq_getElem?_getD, hstart, Option.getD_some,
      Int.ofNat_sub hle]
  · -- a newline there would start a line of its own, between the start of this one and the offset
    obtain ⟨j, hj, hjle, hjlt⟩ := Text.exists_of_mem_slice hmem
    obtain ⟨i, hi⟩ := List.mem_iff_getElem?.mp (mem_lineStarts.mpr (.inr ⟨j, hj, rfl⟩))
    have hlast : i < (t.take offset).count '\n' + 1 := by
      by_contra hnot
      have := hplace.behind i (j + 1) hi (Nat.not_lt.mp hnot)
      omega
    have := ascending_le (lineStarts_ascending t) hi hstart (Nat.le_of_lt_succ hlast)
    omega

/-- On one line the later offset has the greater column, and else it has the later line. -/
theorem position_before (t : Text) {a b : Nat} (hab : a < b) :
    Prod.Lex (· < ·) (· < ·) (position (lineStarts t) a) (position (lineStarts t) b) := by
  obtain ⟨startA, columnA, hA, hstartA, hsumA, -⟩ := position_lineStarts t a
  obtain ⟨startB, columnB, hB, hstartB, hsumB, -⟩ := position_lineStarts t b
  have hcount : (t.take a).count '\n' ≤ (t.take b).count '\n' :=
    (List.take_prefix_take_left (Nat.le_of_lt hab)).sublist.count_le '\n'
  rw [hA, hB, Prod.lex_def]
  rcases Nat.lt_or_eq_of_le hcount with hlt | heq
  · exact .inl hlt
  · rw [heq, hstartB] at hstartA
    obtain rfl : startB = startA := Option.some.inj hstartA
    exact .inr ⟨heq, Int.ofNat_lt.mpr (by omega)⟩

theorem position_before_iff (t : Text) (a b : Nat) :
    Prod.Lex (· < ·) (· < ·) (position (lineStarts t) a) (position (lineStarts t) b) ↔ a < b := by
  refine ⟨fun h => ?_, position_before t⟩
  by_contra hnot
  rw [Prod.lex_def] at h
  rcases Nat.lt_or_eq_of_le (Nat.not_lt.mp hnot) with hlt | rfl
  · have hback := Prod.lex_def.mp (position_before t hlt)
    omega
  · omega

/-- The starts of lines are in order, the first is 0, and the others are the offsets behind newlines. The line of an
offset is the number of newlines before it, which is also what a search by halving finds, less one; the start of that
line and the column, which is not negative, make up the offset, with no newline between the two. So offsets that
differ have positions that differ, in the same order. -/
theorem position_exact (t : Text) :
    (lineStarts t).head? = some 0 ∧ (lineStarts t).Pairwise (· < ·) ∧
    (∀ s, s ∈ lineStarts t ↔ s = 0 ∨ ∃ k, t[k]? = some '\n' ∧ s = k + 1) ∧
    (∀ offset : Int, (position (lineStarts t) offset).1 = halve (lineStarts t) offset 0 (lineStarts t).length - 1) ∧
    (∀ offset : Nat, ∃ start column : Nat,
      position (lineStarts t) offset = ((t.take offset).count '\n', (column : Int)) ∧
      (lineStarts t)[(t.take offset).count '\n']? = some start ∧ start + column = offset ∧
      '\n' ∉ Text.slice t start offset) ∧
    (Function.Injective fun offset : Nat => position (lineStarts t) offset) ∧
    (∀ a b : Nat, Prod.Lex (· < ·) (· < ·) (position (lineStarts t) a) (position (lineStarts t) b) ↔
      a < b) := by
  refine ⟨rfl, lineStarts_ascending t, fun s => mem_lineStarts, line_eq_halve (lineStarts_ascending t),
    position_lineStarts t,
    fun a b hab => ?_, position_before_iff t⟩
  have heq : position (lineStarts t) a = position (lineStarts t) b := hab
  have hbefore : ¬ a < b := by
    rw [← position_before_iff t, heq, position_before_iff]
    exact Nat.lt_irrefl b
  have hbehind : ¬ b < a := by
    rw [← position_before_iff t, heq, position_before_iff]
    exact Nat.lt_irrefl b
  omega

/-- Offsets on a newline, behind it, in an empty line and at the end. -/
example :
    let t := "ab\n\ncd\n".toList
    lineStarts t = [0, 3, 4, 7] ∧
    (List.range 8).map (fun (offset : Nat) => position (lineStarts t) offset) =
      [(0, 0), (0, 1), (0, 2), (1, 0), (2, 0), (2, 1), (2, 2), (3, 0)] := by decide

end ClassTidy.Document
