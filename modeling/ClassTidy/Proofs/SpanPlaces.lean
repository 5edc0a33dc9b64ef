/-
  ClassTidy.Proofs.SpanPlaces — every span lies where it says.

  A span is placed in a document if what was matched stands at its start, the class string
  stands in that where the offsets say, and the class string is not blank. Rules look for a
  class string by its text inside the match, and calls add up the offsets of the
  parenthesis, of the arguments and of the literal; both give placed spans, whatever the
  pattern, the group and the names are. Merging and restricting only leave spans out, and
  merging leaves none out whose class string has no other span.

  Proved (`find_sound`): spans are found in every document, unless a match is torn, and each
  of them lies where it says.
-/
import ClassTidy.Proofs.Slice
import ClassTidy.Proofs.Sorting
import ClassTidy.Span.Find

namespace ClassTidy.Span

open Text (Stands)

/-- A span lies in a document as it says. -/
structure Placed (t : Text) (s : Span) : Prop where
  full : Stands t s.start s.full
  classes : Stands s.full (s.classStart - s.start) s.classes
  startLe : s.start ≤ s.classStart
  stopEq : s.classStop = s.classStart + s.classes.length
  filled : Text.isBlankOnly s.classes = false

namespace Placed

variable {t : Text} {s : Span}

theorem classes_ne_nil (h : Placed t s) : s.classes ≠ [] := by
  intro e
  have := h.filled
  simp [e, Text.isBlankOnly] at this

theorem stands (h : Placed t s) : Stands t s.classStart s.classes := by
  have := h.full.inner h.classes
  rwa [Nat.add_sub_cancel' h.startLe] at this

theorem stop_le (h : Placed t s) : s.classStop ≤ t.length := by
  rw [h.stopEq]; exact h.stands.le_length h.classes_ne_nil

theorem slice_eq (h : Placed t s) : Text.slice t s.classStart s.classStop = s.classes := by
  rw [h.stopEq]; exact h.stands.slice

theorem start_lt_stop (h : Placed t s) : s.classStart < s.classStop := by
  have := List.length_pos_iff.mpr h.classes_ne_nil
  rw [h.stopEq]; omega

end Placed

/-! ## Rules -/

theorem placed_of_span? {t : Text} {r : Rule} {m : Match} {s : Span} (h : r.span? t m = some s) : Placed t s := by
  unfold Rule.span? at h
  split at h
  · cases h
  · split at h
    · cases h
    · rename_i a b _
      simp only at h
      split at h
      · cases h
      · rename_i hblank
        split at h
        · cases h
        · rename_i i hi
          obtain rfl := Option.some.inj h
          refine ⟨Text.stands_slice _ _ _, ?_, Nat.le_add_right _ _, rfl, by simpa using hblank⟩
          rw [Nat.add_sub_cancel_left]
          exact Text.find?_stands hi

/-- The spans of the matches of rules, rule by rule. -/
def ofMatches (t : Text) (rules : List Rule) : List Span :=
  rules.flatMap fun r => (r.pattern.allMatches t).filterMap (r.span? t)

/-- A match of one of the rules has a group that ends before it begins. -/
def Torn (t : Text) (rules : List Rule) : Prop :=
  ∃ r ∈ rules, ∃ m ∈ r.pattern.allMatches t, m.isTorn r.pattern.groups = true

/-- A rule gives the spans of all its matches, unless one of them is torn. -/
theorem rule_cases (t : Text) (r : Rule) :
    (r.spans t = .error .tornGroup ∧ ∃ m ∈ r.pattern.allMatches t, m.isTorn r.pattern.groups = true) ∨
      (r.spans t = .ok ((r.pattern.allMatches t).filterMap (r.span? t)) ∧
        ∀ m ∈ r.pattern.allMatches t, ¬ m.isTorn r.pattern.groups = true) := by
  unfold Rule.spans Rule.spansOf
  split
  · rename_i h
    exact Or.inl ⟨rfl, List.any_eq_true.mp h⟩
  · rename_i h
    rw [List.any_eq_true] at h
    exact Or.inr ⟨rfl, fun m hm hm' => h ⟨m, hm, hm'⟩⟩

/-- Rules give the spans of all their matches, unless one of them is torn. -/
theorem ofRules_cases (t : Text) (rules : List Rule) :
    (ofRules t rules = .error .tornGroup ∧ Torn t rules) ∨
    (ofRules t rules = .ok (ofMatches t rules) ∧ ¬ Torn t rules) := by
  induction rules with
  | nil => exact Or.inr ⟨rfl, fun ⟨r, hr, _⟩ => absurd hr List.not_mem_nil⟩
  | cons r rs ih =>
    unfold ofRules
    rcases rule_cases t r with ⟨hr, htorn⟩ | ⟨hr, hwhole⟩
    · exact Or.inl ⟨by rw [hr], r, List.mem_cons_self, htorn⟩
    · rcases ih with ⟨hrs, r', hr', htorn⟩ | ⟨hrs, hno⟩
      · exact Or.inl ⟨by rw [hr]; simp only [hrs], r', List.mem_cons_of_mem r hr', htorn⟩
      · refine Or.inr ⟨by rw [hr]; simp only [hrs]; rfl, ?_⟩
        rintro ⟨r', hr', m, hm, hm'⟩
        rcases List.mem_cons.mp hr' with rfl | hr'
        · exact hwhole m hm hm'
        · exact hno ⟨r', hr', m, hm, hm'⟩

theorem placed_of_matches {t : Text} {rules : List Rule} : ∀ s ∈ ofMatches t rules, Placed t s := by
  intro s hs
  obtain ⟨r, -, hr⟩ := List.mem_flatMap.mp hs
  obtain ⟨m, -, hm⟩ := List.mem_filterMap.mp hr
  exact placed_of_span? hm

theorem placed_of_rules {t : Text} {rs : List Rule} {ss : List Span} (h : ofRules t rs = .ok ss) :
    ∀ s ∈ ss, Placed t s := by
  rcases ofRules_cases t rs with ⟨htorn, -⟩ | ⟨hall, -⟩
  · rw [htorn] at h; cases h
  · obtain rfl := Except.ok.inj (hall.symm.trans h)
    exact placed_of_matches

/-! ## Calls -/

/-- What a literal holds is followed by its quote. -/
theorem body?_prefix {q : Char} {t v : Text} (h : Literal.body? q t = some v) : v ++ [q] <+: t := by
  fun_induction Literal.body? q t generalizing v with
  | case1 => cases h
  | case2 =>
    obtain rfl := Option.some.inj h
    simp
  | case3 => cases h
  | case4 d t =>
    obtain rfl := Option.some.inj h
    simp
  | case5 => cases h
  | case6 d t _ _ ih =>
    obtain ⟨w, hw, rfl⟩ := Option.map_eq_some_iff.mp h
    simpa using ih hw
  | case7 c d t _ _ ih =>
    obtain ⟨w, hw, rfl⟩ := Option.map_eq_some_iff.mp h
    simpa using ih hw

/-- A literal is its value between quotes, as it was read, and stands where the scan says. -/
theorem stands_of_scan {skip i : Nat} {t : Text} {l : Literal} (h : l ∈ Literal.scan skip i t) :
    ∃ k q, l.start = i + k + 1 ∧ l.full = q :: l.value ++ [q] ∧ Literal.isQuote q = true ∧ Stands t k l.full ∧
      ∃ rest, Literal.body? q rest = some l.value := by
  induction t generalizing skip i with
  | nil => simp [Literal.scan] at h
  | cons c t ih =>
    -- a literal that is found further on is one character further here
    have later : ∀ skip', l ∈ Literal.scan skip' (i + 1) t →
        ∃ k q, l.start = i + k + 1 ∧ l.full = q :: l.value ++ [q] ∧ Literal.isQuote q = true ∧
          Stands (c :: t) k l.full ∧
          ∃ rest, Literal.body? q rest = some l.value := by
      intro skip' hl
      obtain ⟨k, q, hk, hfull, hq, hs, hread⟩ := ih hl
      exact ⟨k + 1, q, by omega, hfull, hq, Text.stands_cons.mpr hs, hread⟩
    unfold Literal.scan at h
    split at h
    · exact later _ h
    · split at h
      · rename_i hq
        split at h
        · rename_i v hv
          rcases List.mem_cons.mp h with rfl | h
          · refine ⟨0, c, rfl, rfl, hq, Text.stands_zero.mpr ?_, t, hv⟩
            simpa using body?_prefix hv
          · exact later _ h
        · exact later _ h
      · exact later _ h

theorem stands_of_enclosed {t : Text} {i : Nat} {e : Enclosed} (h : enclosedAt? t i = some e) :
    Stands t (i + 1) e.content := by
  unfold enclosedAt? at h
  split at h
  · rename_i rest hrest
    split at h
    · rename_i n _
      obtain rfl := Option.some.inj h
      have hd : t.drop (i + 1) = rest := by rw [← List.drop_drop, hrest]; rfl
      rw [Stands, hd]
      exact List.take_prefix _ _
    · cases h
  · cases h

theorem placed_of_arguments {t : Text} {i : Nat} {s : Span} (h : s ∈ argumentsAt t i) : Placed t s := by
  unfold argumentsAt at h
  split at h
  · cases h
  · rename_i e he
    obtain ⟨l, hl, rfl⟩ := List.mem_map.mp h
    obtain ⟨hl, hblank⟩ := List.mem_filter.mp hl
    obtain ⟨k, q, hk, hq, -, hs, -⟩ := stands_of_scan hl
    have hfull := (stands_of_enclosed he).inner hs
    refine ⟨?_, ?_, Nat.sub_le _ _, rfl, by simpa using hblank⟩
    · show Stands t (i + 1 + l.start - 1) l.full
      rwa [show i + 1 + l.start - 1 = i + 1 + k by omega]
    · show Stands l.full (i + 1 + l.start - (i + 1 + l.start - 1)) l.value
      rw [show i + 1 + l.start - (i + 1 + l.start - 1) = 1 by omega, hq]
      exact Text.stands_cons.mpr (Text.stands_zero.mpr (List.prefix_append _ _))

/-- A call's class string stands between two quotes, and was read there. -/
theorem quoted_of_calls {t : Text} {names : List Text} {s : Span} (h : s ∈ ofCalls t names) :
    s.classStart = s.start + 1 ∧ ∃ q, Literal.isQuote q = true ∧ s.full = q :: s.classes ++ [q] ∧
      ∃ rest, Literal.body? q rest = some s.classes := by
  obtain ⟨i, _, hi⟩ := List.mem_flatMap.mp h
  unfold argumentsAt at hi
  split at hi
  · cases hi
  · obtain ⟨l, hl, rfl⟩ := List.mem_map.mp hi
    obtain ⟨k, q, -, hfull, hq, -, hread⟩ := stands_of_scan (List.mem_of_mem_filter hl)
    exact ⟨by simp only; omega, q, hq, hfull, hread⟩

theorem placed_of_calls {t : Text} {names : List Text} : ∀ s ∈ ofCalls t names, Placed t s := by
  intro s hs
  obtain ⟨i, _, hi⟩ := List.mem_flatMap.mp hs
  exact placed_of_arguments hi

/-! ## Merging -/

theorem firstOfKey_sublist (seen : List (Nat × Nat)) (ss : List Span) : (firstOfKey seen ss).Sublist ss := by
  induction ss generalizing seen with
  | nil => exact List.Sublist.refl _
  | cons s ss ih =>
    unfold firstOfKey
    split
    · exact (ih _).cons s
    · exact (ih _).cons_cons s

theorem mem_of_merge {rules calls : List Span} {s : Span} (h : s ∈ merge rules calls) : s ∈ rules ∨ s ∈ calls :=
  List.mem_append.mp ((Sorting.mem_sortBy _).mp ((firstOfKey_sublist [] _).subset h))

theorem firstOfKey_key {ss : List Span} {y : Span} (seen : List (Nat × Nat)) (h : y ∈ ss) :
    seen.contains y.key = true ∨ ∃ z ∈ firstOfKey seen ss, z.key = y.key := by
  induction ss generalizing seen with
  | nil => cases h
  | cons s ss ih =>
    unfold firstOfKey
    rcases List.mem_cons.mp h with rfl | h
    · split
      · exact Or.inl ‹_›
      · exact Or.inr ⟨y, List.mem_cons_self, rfl⟩
    · split
      · exact ih seen h
      · rcases ih (s.key :: seen) h with hseen | ⟨z, hz, hkey⟩
        · rw [List.contains_cons, Bool.or_eq_true, beq_iff_eq] at hseen
          rcases hseen with hkey | hseen
          · exact Or.inr ⟨s, List.mem_cons_self, hkey.symm⟩
          · exact Or.inl hseen
        · exact Or.inr ⟨z, List.mem_cons_of_mem s hz, hkey⟩

/-- A span that merging leaves out has the place of one that it keeps. -/
theorem exists_merge {found calls : List Span} {y : Span} (h : y ∈ found ∨ y ∈ calls) :
    ∃ z ∈ merge found calls, z.key = y.key := by
  have hmem : y ∈ Sorting.sortBy (fun a b => a.classStart ≤ b.classStart) (found ++ calls) :=
    (Sorting.mem_sortBy _).mpr (List.mem_append.mpr h)
  exact (firstOfKey_key [] hmem).resolve_left Bool.false_ne_true

/-- Spans of one place have one class string. -/
theorem Placed.classes_eq {t : Text} {y z : Span} (hy : Placed t y) (hz : Placed t z) (h : z.key = y.key) :
    z.classStart = y.classStart ∧ z.classes = y.classes := by
  obtain ⟨hstart, hlen⟩ := Prod.mk.inj h
  refine ⟨hstart, ?_⟩
  rw [← hz.stands.slice, hstart, hlen, hy.stands.slice]

/-- Every span of a document is placed in it. -/
theorem placed_of_find {t : Text} {rules : List Rule} {names : List Text} {ss : List Span}
    (h : find t rules names = .ok ss) : ∀ s ∈ ss, Placed t s := by
  unfold find at h
  split at h
  · rename_i found hfound
    obtain rfl := Except.ok.inj h
    intro s hs
    rcases mem_of_merge hs with hs | hs
    · exact placed_of_rules hfound s hs
    · exact placed_of_calls s hs
  · cases h

/-! ## Soundness -/

/-- The offsets of a placed span make a span. -/
theorem Placed.check_eq {t : Text} {s : Span} (h : Placed t s) :
    check s.full s.classes s.start s.classStart s.classStop s.origin = .ok s := by
  have hstop := h.start_lt_stop
  unfold check
  rw [if_neg (by omega), if_neg (by omega)]
  rfl

/-- What was matched ends within the document, and the class string ends within that. -/
theorem Placed.full_stop {t : Text} {s : Span} (h : Placed t s) :
    s.classStop ≤ s.start + s.full.length ∧ s.start + s.full.length ≤ t.length := by
  have hin := h.classes.le_length h.classes_ne_nil
  have hne : s.full ≠ [] := by
    intro e
    have hpos := List.length_pos_iff.mpr h.classes_ne_nil
    rw [e, List.length_nil] at hin
    omega
  have hstart := h.startLe
  refine ⟨?_, h.full.le_length hne⟩
  rw [h.stopEq]
  omega

theorem Placed.exists_filled {t : Text} {s : Span} (h : Placed t s) : ∃ c ∈ s.classes, Text.isBlank c = false := by
  have hblank := h.filled
  unfold Text.isBlankOnly at hblank
  rw [List.all_eq_false] at hblank
  obtain ⟨c, hc, hfilled⟩ := hblank
  exact ⟨c, hc, by simpa using hfilled⟩

/-- Spans are found in every document in which no match is torn, whatever the rules, their groups and the names are: all
offsets on the way make spans, each class string that was come upon has a span, and each span has what it says where it
says, with something in it that is not blank. -/
theorem find_sound (t : Text) (rules : List Rule) (names : List Text) :
    (find t rules names = .error .tornGroup ∧ Torn t rules) ∨
      ¬ Torn t rules ∧ ∃ ss, find t rules names = .ok ss ∧
        (∀ x ∈ ofMatches t rules ++ ofCalls t names,
          check x.full x.classes x.start x.classStart x.classStop x.origin = .ok x ∧
            ∃ s ∈ ss, s.classStart = x.classStart ∧ s.classes = x.classes) ∧
        ∀ s ∈ ss, s ∈ ofMatches t rules ++ ofCalls t names ∧
          s.start ≤ s.classStart ∧ s.classStart ≤ s.classStop ∧ s.classStop ≤ s.start + s.full.length ∧
          s.start + s.full.length ≤ t.length ∧ Text.slice t s.start (s.start + s.full.length) = s.full ∧
          Text.slice t s.classStart s.classStop = s.classes ∧ ∃ c ∈ s.classes, Text.isBlank c = false := by
  rcases ofRules_cases t rules with ⟨hrules, htorn⟩ | ⟨hrules, hwhole⟩
  · exact Or.inl ⟨by rw [find, hrules], htorn⟩
  have hfind : find t rules names = .ok (merge (ofMatches t rules) (ofCalls t names)) := by rw [find, hrules]
  have hplaced : ∀ x ∈ ofMatches t rules ++ ofCalls t names, Placed t x := fun x hx =>
    (List.mem_append.mp hx).elim (placed_of_matches x) (placed_of_calls x)
  refine Or.inr ⟨hwhole, _, hfind, fun x hx => ⟨(hplaced x hx).check_eq, ?_⟩, fun s hs => ?_⟩
  · obtain ⟨s, hs, hkey⟩ := exists_merge (List.mem_append.mp hx)
    exact ⟨s, hs, (hplaced x hx).classes_eq (placed_of_find hfind s hs) hkey⟩
  · have hp := placed_of_find hfind s hs
    obtain ⟨hstop, hend⟩ := hp.full_stop
    exact ⟨List.mem_append.mpr (mem_of_merge hs), hp.startLe, hp.start_lt_stop.le, hstop, hend,
      hp.full.slice, hp.slice_eq,
      hp.exists_filled⟩

end ClassTidy.Span
