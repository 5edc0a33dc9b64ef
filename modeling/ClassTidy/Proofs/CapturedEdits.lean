/-
  ClassTidy.Proofs.CapturedEdits — edits by built-in rules, and what the rules captured.

  A class string is looked for in its match by its text, so it can be found before the place
  where it was captured. Found there it is made of characters that stand in front of the capture
  (`exists_front`): if it reaches into the capture, it repeats them. Unless one of them is a blank,
  it is a single class, and no edit is made of it (`normal_of_blankless`).

  What stands in front of the capture of a built-in rule holds a blank only where a rule of
  Ruby lets blanks follow its lead (`builtin_bare`). There a class string can be found in the
  wrong place and change.

  Proved (`edits_captured`): an edit made by a built-in rule covers what the rule captured exactly
  if the place found takes in no blank in front of the capture; for every language but Ruby, always.
-/
import ClassTidy.Proofs.Rescan
import ClassTidy.Proofs.RuleFaults

namespace ClassTidy

/-! ## Found too early -/

/-- A text that stands in front of its own place is made of characters in front of that place. -/
theorem Text.exists_front {s v rest : Text} {j : Nat} (hj : j < s.length) (h : Stands (s ++ (v ++ rest)) j v)
    {c : Char} (hc : c ∈ v) :
    ∃ k < v.length, j + k < s.length ∧ s[j + k]? = some c := by
  obtain ⟨m, hm, hget⟩ := List.getElem_of_mem hc
  -- a character beyond the front is one of `v` further to the left
  induction m using Nat.strongRecOn with
  | ind m ih =>
    have hsame := h.getElem? hm
    rw [List.getElem?_eq_getElem hm, hget] at hsame
    by_cases hfront : j + m < s.length
    · rw [List.getElem?_append_left hfront] at hsame
      exact ⟨m, hm, hfront, hsame⟩
    · have hless : j + m - s.length < m := by omega
      rw [List.getElem?_append_right (by omega), List.getElem?_append_left (by omega)] at hsame
      obtain ⟨hin, hget'⟩ := List.getElem?_eq_some_iff.mp hsame
      exact ih _ hless hin hget'

/-- The place where a class string was found takes in a blank that stands in front of offset `a`. -/
def Span.Strays (t : Text) (a : Nat) (x : Span) : Prop :=
  ∃ k c, x.classStart ≤ k ∧ k < a ∧ k < x.classStop ∧ t[k]? = some c ∧ Text.isBlank c = true

/-- A class string without blanks is a single class. -/
theorem Service.normal_of_blankless (s : Service) (table : RankTable) {v : Text} (hne : v ≠ [])
    (hv : ∀ c ∈ v, Text.isBlank c = false) :
    s.normal table v = v := by
  have hsettles : ClassList.Settles table s.settings.options v := Or.inr (Or.inl fun c hc hblank => by
    rw [hv c hc] at hblank; cases hblank)
  refine hsettles.normalize_token (options_hold s).1 (options_hold s).2 (fun c hc => ?_) hne
  rw [Bool.eq_false_iff]
  intro hsep
  have := ClassList.blank_of_separator hsep
  rw [hv c hc] at this; cases this

/-! ## Openings without blanks -/

/-- No blank stands in the opening. -/
def Fence.Bare (f : Fence) : Prop := ∀ s g m q, f.opening.Reads s g m q → ∀ c ∈ s, Text.isBlank c = false

namespace Shape

/-- No character of the opening is a blank. -/
def bare (s : Shape) : Bool := !s.gap && (s.lead ++ s.behind ++ s.opener.flatten).all fun c => !Text.isBlank c

theorem bare_fence {s : Shape} (h : s.bare = true) : s.fence.Bare := by
  simp only [bare, Bool.and_eq_true, Bool.not_eq_true', List.all_eq_true, List.mem_append] at h
  obtain ⟨hgap, hplain⟩ := h
  intro o g m q hreads c hc
  have hempty : ∀ d ∈ g, False := by
    intro d hd
    have := hreads.gap d hd
    simp [Fence.opening, fence, hgap] at this
  rw [hreads.eq] at hc
  simp only [List.mem_append] at hc
  rcases hc with ((hc | hc) | hc) | hc
  · exact hplain c (Or.inl (Or.inl hc))
  · exact (hempty c hc).elim
  · obtain ⟨test, htest, hpass⟩ := hreads.behind.exists_test hc
    obtain ⟨p, hp, rfl⟩ := List.mem_map.mp htest
    exact hplain c (Or.inl (Or.inr (mem_behind p hp c hpass)))
  · obtain ⟨test, htest, hpass⟩ := hreads.fence.exists_test hc
    obtain ⟨p, hp, rfl⟩ := List.mem_map.mp htest
    obtain ⟨cs, hcs, hmem⟩ := mem_opener p hp c hpass
    exact hplain c (Or.inr (List.mem_flatten.mpr ⟨cs, hcs, hmem⟩))

end Shape

namespace Fencing

theorem bare_of_shapes {F : Fencing} {shapes : List Shape} (hF : F.fences = shapes.map Shape.fence)
    (h : shapes.all Shape.bare = true) :
    ∀ f ∈ F.fences, f.Bare := by
  intro f hf
  rw [hF] at hf
  obtain ⟨s, hs, rfl⟩ := List.mem_map.mp hf
  exact Shape.bare_fence (List.all_eq_true.mp h s hs)

/-- The rules of every built-in language are fences, and only those for Ruby let a blank stand in their openings. -/
theorem builtin_bare : ∀ l ∈ Language.builtin, ∃ F : Fencing, F.Covers (Rule.usable l.rules) ∧
    (l.id = "ruby".toList ∨ ∀ f ∈ F.fences, f.Bare) := by
  intro l hl
  rcases builtin_cases l hl with ⟨hruby, h⟩ | h | h | h
  · exact ⟨ruby, h, Or.inl hruby⟩
  · exact ⟨html, h, Or.inr (bare_of_shapes rfl (by decide))⟩
  · exact ⟨jsx, h, Or.inr (bare_of_shapes rfl (by decide))⟩
  · exact ⟨vue, h, Or.inr (bare_of_shapes rfl (by decide))⟩

end Fencing

/-! ## Captures -/

/-- A match of a fence captures what stands behind its opening, and the span's class string is found there or
earlier. -/
theorem Fence.captured {f : Fence} (hs : f.Exact) {r : Rule} (hp : r.pattern = f.pattern) (hg : r.group = 1)
    {t : Text} {m : Match} {x : Span} (hm : m ∈ r.pattern.allMatches t) (hspan : r.span? t m = some x) :
    ∃ i j s rest, m.group? r.group = some (i + s.length, i + s.length + x.classes.length) ∧
      t.drop i = s ++ (x.classes ++ rest) ∧
      (∃ g b q, f.opening.Reads s g b q) ∧ x.classes ≠ [] ∧ x.classStart = i + j ∧
      x.classStop = i + j + x.classes.length ∧
      j ≤ s.length ∧ Text.Stands (s ++ (x.classes ++ rest)) j x.classes := by
  rw [hp, allMatches_eq hs, List.mem_map] at hm
  obtain ⟨⟨i, n, v⟩, hmem, rfl⟩ := hm
  obtain ⟨k, w, hk, hfront⟩ := Text.mem_sweep hmem
  obtain rfl : i = k := by simpa using hk
  obtain ⟨-, -, hne, -, rfl⟩ := front?_eq_some hfront
  rw [span?_toMatch hp hg hfront] at hspan
  obtain ⟨j, s, d, rest, hdrop, rfl, hreads, -, rfl, hstart, hstop, hle, hstands⟩ :=
    placed_of_front? hs hfront hspan
  rw [List.append_assoc] at hdrop
  exact ⟨i, j, s, d :: rest, by rw [hg, group?_toMatch], hdrop, hreads, hne, hstart, hstop, hle, hstands⟩

namespace Span

section

variable {t s rest : Text} {i j : Nat} {x : Span}

/-- A class string found too early has no blanks, unless its place takes in one in front of the capture. -/
theorem blankless_of_early (hdrop : t.drop i = s ++ (x.classes ++ rest)) (hstart : x.classStart = i + j)
    (hstop : x.classStop = i + j + x.classes.length) (hj : j < s.length)
    (hstands : Text.Stands (s ++ (x.classes ++ rest)) j x.classes) (hstays : ¬ x.Strays t (i + s.length)) :
    ∀ c ∈ x.classes, Text.isBlank c = false := by
  intro c hc
  rw [Bool.eq_false_iff]
  intro hblank
  obtain ⟨k, hk, hfront, hget⟩ := Text.exists_front hj hstands hc
  refine hstays ⟨i + (j + k), c, by omega, by omega, by omega, ?_, hblank⟩
  rw [← List.getElem?_drop, hdrop, List.getElem?_append_left hfront, hget]

theorem not_strays_of_bare (hdrop : t.drop i = s ++ (x.classes ++ rest)) (hstart : x.classStart = i + j)
    (hs : ∀ c ∈ s, Text.isBlank c = false) : ¬ x.Strays t (i + s.length) := by
  rintro ⟨k, c, hle, hlt, -, hget, hblank⟩
  have hfront : s[k - i]? = some c := by
    rw [← List.getElem?_append_left (by omega), ← hdrop, List.getElem?_drop,
      show i + (k - i) = k by omega, hget]
  rw [hs c (List.mem_of_getElem? hfront)] at hblank
  cases hblank

end

/-- No rule of a built-in language is dropped. -/
theorem usable_builtin : ∀ l ∈ Language.builtin, (Rule.usable l.rules).map Rule.raw = l.rules := by
  decide +kernel

/-- Every edit made of a span found by a built-in rule covers exactly what the rule captured, if and only if the place
found takes in no blank in front of the capture; only Ruby has rules where it can. -/
theorem edits_captured (t : Text) (l : Language) (hl : l ∈ Language.builtin) :
    (Rule.usable l.rules).map Rule.raw = l.rules ∧
    ofRules t (Rule.usable l.rules) = .ok (ofMatches t (Rule.usable l.rules)) ∧
      ∀ r ∈ Rule.usable l.rules, ∀ m ∈ r.pattern.allMatches t, ∀ x, r.span? t m = some x →
        ∃ a b, m.group? r.group = some (a, b) ∧ x.classes = Text.slice t a b ∧
          (x.Strays t a → l.id = "ruby".toList) ∧
          ∀ (s : Service) (table : RankTable) (e : Edit), s.edit? table x = some e →
            (e.start = a ∧ e.stop = b ↔ ¬ x.Strays t a) := by
  obtain ⟨F, hcovers, hbare⟩ := Fencing.builtin_bare l hl
  refine ⟨usable_builtin l hl, ?_, ?_⟩
  · obtain ⟨ss, hss, -⟩ := ofRules_covered hcovers t
    rcases ofRules_cases t (Rule.usable l.rules) with ⟨htorn, -⟩ | ⟨hall, -⟩
    · rw [htorn] at hss; cases hss
    · exact hall
  intro r hr m hm x hspan
  obtain ⟨hg, f, hf, hp⟩ := hcovers r hr
  obtain ⟨i, j, o, rest, hgroup, hdrop, ⟨g, b, q, hreads⟩, hne, hstart, hstop, hle, hstands⟩ :=
    Fence.captured (F.sound f hf).toExact hp hg hm hspan
  refine ⟨_, _, hgroup, ?_, fun hstrays => ?_, fun s table e he => ?_⟩
  · rw [Text.slice, Nat.add_sub_cancel_left, ← List.drop_drop, hdrop, List.drop_left, List.take_left]
  · rcases hbare with hruby | hbare
    · exact hruby
    · exact absurd hstrays (not_strays_of_bare hdrop hstart (hbare f hf o g b q hreads))
  · obtain ⟨hchanged, rfl⟩ := Service.edit?_eq_some he
    constructor
    · rintro ⟨hat, -⟩ ⟨k, c, hlow, hlt, -⟩
      simp only at hat
      omega
    · intro hstays
      rcases Nat.lt_or_eq_of_le hle with hj | rfl
      · exact absurd (s.normal_of_blankless table hne
          (blankless_of_early hdrop hstart hstop hj hstands hstays)) hchanged
      · exact ⟨hstart, hstop⟩

theorem edits_captured_ruby :
    let s : Service := ⟨Settings.default, ⟨.root, []⟩,
      ⟨[⟨"ruby".toList, Rule.usable Language.rubyRules, []⟩]⟩⟩
    let table : RankTable := ⟨[(['a'], 1), (['b'], 2)], []⟩
    let t : Text := "class:  'b a'".toList
    let x : Span := ⟨t, "b a".toList, 0, 9, 12, .rule⟩
    ofRules t (Rule.usable Language.rubyRules) = .ok [x] ∧
      s.edit? table x = some ⟨9, 12, "b a".toList, "a b".toList⟩ ∧ ¬ x.Strays t 9 := by
  intro s table t x
  obtain ⟨-, hok, hall⟩ := edits_captured t ⟨"ruby".toList, Language.rubyRules⟩ List.mem_cons_self
  have hedit : s.edit? table x = some ⟨9, 12, "b a".toList, "a b".toList⟩ := by decide +kernel
  have hspans : ofMatches t (Rule.usable Language.rubyRules) = [x] := by decide +kernel
  obtain ⟨r, hr, m, hm, hspan, hgroup⟩ : ∃ r ∈ Rule.usable Language.rubyRules, ∃ m ∈ r.pattern.allMatches t,
      r.span? t m = some x ∧ m.group? r.group = some (9, 12) := by decide +kernel
  obtain ⟨a, b, hcapture, -, -, hiff⟩ := hall r hr m hm x hspan
  obtain ⟨rfl, rfl⟩ := Prod.mk.inj (Option.some.inj (hgroup.symm.trans hcapture))
  exact ⟨hspans ▸ hok, hedit, (hiff s table _ hedit).mp ⟨rfl, rfl⟩⟩

/-- A class string that ends in a blank can be found at the end of the lead of a Ruby rule and the blank behind it. -/
theorem edit_strays :
    let s : Service := ⟨Settings.default, ⟨.root, []⟩,
      ⟨[⟨"ruby".toList, Rule.usable Language.rubyRules, []⟩]⟩⟩
    let table : RankTable := ⟨[("flex".toList, 1), ("p-4".toList, 2)], []⟩
    let t : Text := "class: 's: '".toList
    let x : Span := ⟨t, "s: ".toList, 0, 4, 7, .rule⟩
    (∃ r ∈ Rule.usable Language.rubyRules, ∃ m ∈ r.pattern.allMatches t, r.span? t m = some x ∧
      m.group? r.group = some (8, 11)) ∧
      x.Strays t 8 ∧ s.edit? table x = some ⟨4, 7, "s: ".toList, "s:".toList⟩ := by
  refine ⟨by decide +kernel, ⟨6, ' ', ?_⟩, by decide +kernel⟩
  decide

end Span

end ClassTidy
