/-
  ClassTidy.Proofs.Fencings — the built-in rules are fences.

  A shape says what a fence is made of by its characters. Whether the fence is sound is
  then a check over a few characters (`Shape.sane`), so that a fencing for a language is
  given by its marks and its shapes. Every built-in language has one (`builtin_covered`).
  What a rule reads a class string by is a quote, or a bracket in one rule for Ruby; JSX
  has the backtick as well.
-/
import ClassTidy.Proofs.Pieces
import ClassTidy.Settings.Basic

namespace ClassTidy

open Pattern (CharTest)

/-! ## Shapes -/

/-- The test for one of some characters, or for any other. -/
def oneOf (negated : Bool) : Text → CharTest
  | [c] => .char c.toNat negated
  | cs => .set .exact negated (cs.map fun c => .code c.toNat)

theorem oneOf_accepts (negated : Bool) (cs : Text) (c : Char) :
    (oneOf negated cs).accepts c = (negated != decide (c ∈ cs)) := by
  have hcode : ∀ d : Char, (c.toNat == d.toNat) = decide (c = d) := fun d => by
    rw [Bool.eq_iff_iff, beq_iff_eq, decide_eq_true_eq]
    exact Char.toNat_inj
  have hset : ∀ ds : Text, (CharTest.set .exact negated (ds.map fun d => .code d.toNat)).accepts c =
      (negated != decide (c ∈ ds)) := by
    intro ds
    have hany : (ds.map fun d => Pattern.Member.code d.toNat).any (fun m => m.has c.toNat) = decide (c ∈ ds) := by
      rw [Bool.eq_iff_iff, List.any_map, List.any_eq_true, decide_eq_true_eq]
      simp only [Function.comp, Pattern.Member.has, hcode, decide_eq_true_eq]
      exact ⟨fun ⟨d, hd, e⟩ => e ▸ hd, fun h => ⟨c, h, rfl⟩⟩
    exact congrArg (negated != ·) hany
  unfold oneOf
  split
  · simp [CharTest.accepts, hcode]
  · exact hset _

/-- Any blank. -/
def blankTest : CharTest := .set .exact false [.category .blank false false]

/-- What a fence is made of: a lead, blanks or not, single characters, the characters of the opening and the closing
mark, and one more character or none. -/
structure Shape where
  lead : Text
  gap : Bool
  behind : Text
  opener : List Text
  closer : Text
  tail : Option Char
  deriving DecidableEq, Repr

namespace Shape

def fence (s : Shape) : Fence where
  lead := s.lead
  gap := if s.gap then some blankTest else none
  behind := s.behind.map fun c => oneOf false [c]
  opener := s.opener.map (oneOf false)
  content := oneOf true s.closer
  closer := oneOf false s.closer
  tail := s.tail.toList.map fun c => oneOf false [c]

/-- No character of a shape is taken for another. -/
def sane (marks : Text) (s : Shape) : Bool :=
  !s.lead.isEmpty && s.lead.all (fun c => !marks.contains c && !ClassList.isSeparator c) &&
  marks.all (fun c => !blankTest.accepts c) &&
  s.behind.all (fun c => (!marks.contains c && !ClassList.isSeparator c) && !blankTest.accepts c) &&
  !s.opener.isEmpty && s.opener.all (fun cs => cs.all marks.contains) && s.closer.all marks.contains &&
  s.tail.all fun c => !ClassList.isSeparator c

theorem gap_blank {s : Shape} {c : Char} (h : s.fence.opening.gap c = true) : blankTest.accepts c = true := by
  simp only [Fence.opening, fence] at h
  split at h
  · simpa using h
  · cases h

theorem mem_behind {s : Shape} : ∀ p ∈ s.fence.behind, ∀ c, p.accepts c = true → c ∈ s.behind := by
  intro p hp c hc
  obtain ⟨d, hd, rfl⟩ := List.mem_map.mp hp
  rw [oneOf_accepts] at hc
  obtain rfl : c = d := by simpa using hc
  exact hd

theorem mem_opener {s : Shape} :
    ∀ p ∈ s.fence.opener, ∀ c, p.accepts c = true → ∃ cs ∈ s.opener, c ∈ cs := by
  intro p hp c hc
  obtain ⟨cs, hcs, rfl⟩ := List.mem_map.mp hp
  rw [oneOf_accepts] at hc
  exact ⟨cs, hcs, by simpa using hc⟩

/-- The blanks of an opening end where no blank can be meant. -/
theorem sharp {s : Shape} (hopens : s.opener ≠ []) (hbehind : ∀ c ∈ s.behind, blankTest.accepts c = false)
    (hopener : ∀ cs ∈ s.opener, ∀ c ∈ cs, blankTest.accepts c = false) : s.fence.opening.Sharp := by
  obtain ⟨p, ps, hps⟩ : ∃ p ps, s.fence.behind ++ s.fence.opener = p :: ps :=
    List.exists_cons_of_ne_nil fun e => by simp [fence, hopens] at e
  refine ⟨fun c => p.accepts c, Pattern.tests ps, ?_, fun c hc => ?_⟩
  · simp only [Fence.opening, Pattern.tests, ← List.map_append, hps, List.map_cons]
  · rw [Bool.eq_false_iff]
    intro hgap
    have hp : p ∈ s.fence.behind ++ s.fence.opener := by rw [hps]; exact List.mem_cons_self
    have hno : blankTest.accepts c = false := by
      rcases List.mem_append.mp hp with hp | hp
      · exact hbehind c (mem_behind p hp c hc)
      · obtain ⟨cs, hcs, hmem⟩ := mem_opener p hp c hc
        exact hopener cs hcs c hmem
    rw [gap_blank hgap] at hno; cases hno

theorem sound {marks : Text} {s : Shape} (h : s.sane marks = true) : s.fence.Sound marks := by
  simp only [sane, Bool.and_eq_true, Bool.not_eq_true', List.isEmpty_eq_false_iff, List.all_eq_true, Option.all_eq_true,
    List.contains_eq_mem, decide_eq_true_eq, decide_eq_false_iff_not] at h
  obtain ⟨⟨⟨⟨⟨⟨⟨hleads, hlead⟩, hmarks⟩, hbehind⟩, hopens⟩, hopener⟩, hcloser⟩, htail⟩ := h
  have hsharp : s.fence.opening.Sharp :=
    sharp hopens (fun c hc => (hbehind c hc).2) fun cs hcs c hc => hmarks c (hopener cs hcs c hc)
  refine ⟨⟨hsharp, fun c hc => ?_⟩, hlead, hleads, fun c hc hmark => ?_,
    fun p hp c hc => (hbehind c (mem_behind p hp c hc)).1,
    fun p hp c hc => ?_, ?_, fun c hc => ?_, fun w hw => ?_, fun p hp c hc => ?_⟩
  · simp only [fence, oneOf_accepts] at hc ⊢
    simpa using hc
  · have hno := hmarks c hmark
    rw [gap_blank hc] at hno; cases hno
  · obtain ⟨cs, hcs, hmem⟩ := mem_opener p hp c hc
    exact hopener cs hcs c hmem
  · simpa [fence] using hopens
  · simp only [fence, oneOf_accepts]
    simpa using fun hclose => hc (hcloser c hclose)
  · have hlen := hw.length_eq
    simp only [Pattern.tests, fence, List.length_map] at hlen
    have : s.tail.toList.length ≤ 1 := by cases s.tail <;> simp
    rcases w with - | ⟨c, - | ⟨d, w⟩⟩
    · exact .nil
    · exact .singleton c
    · simp only [List.length_cons] at hlen
      omega
  · simp only [fence] at hp
    cases ht : s.tail with
    | none => rw [ht] at hp; cases hp
    | some d =>
      rw [ht] at hp
      obtain rfl : oneOf false [d] = p := Option.some.inj hp
      rw [oneOf_accepts]
      have hd := htail d ht
      simp only [List.mem_singleton, Bool.false_bne, decide_eq_false_iff_not]
      rintro rfl
      rw [hd] at hc; cases hc

end Shape

/-- The fencing of marks and shapes. -/
def Fencing.ofShapes (marks : Text) (shapes : List Shape)
    (hquotes : marks.contains '"' && marks.contains '\'' = true)
    (hplain : marks.all (fun c => !Text.isBlank c && c != '(' && c != '\\') = true)
    (hsane : shapes.all (Shape.sane marks) = true) : Fencing where
  marks := marks
  fences := shapes.map Shape.fence
  quotes c hc := by
    simp only [Bool.and_eq_true, List.contains_eq_mem, decide_eq_true_eq] at hquotes
    simp only [Literal.isQuote, Bool.or_eq_true, beq_iff_eq] at hc
    rcases hc with rfl | rfl
    · exact hquotes.1
    · exact hquotes.2
  plain c hc := by
    have := List.all_eq_true.mp hplain c hc
    simp only [Bool.and_eq_true, Bool.not_eq_true', bne_iff_ne, ne_eq] at this
    exact ⟨this.1.1, this.1.2, this.2⟩
  sound f hf := by
    obtain ⟨s, hs, rfl⟩ := List.mem_map.mp hf
    exact Shape.sound (List.all_eq_true.mp hsane s hs)

/-- Every rule is one of the fences, and its class string is the content. -/
def Fencing.Covers (F : Fencing) (rules : List Rule) : Prop :=
  ∀ r ∈ rules, r.group = 1 ∧ ∃ f ∈ F.fences, r.pattern = f.pattern

/-! ## Built-in languages -/

namespace Shape

/-- A lead and what stands between two quotes of one kind. -/
def quoted (lead : String) (quote : Char) : Shape := ⟨lead.toList, false, [], [[quote]], [quote], none⟩

def html : List Shape := [quoted "class=" '"', quoted "class=" '\'']

/-- A lead with a brace, and the brace that closes it. -/
def braced (quote : Char) : Shape := ⟨"className=\x7b".toList, false, [], [[quote]], [quote], some '\x7d'⟩

def jsx : List Shape :=
  [quoted "className=" '"', quoted "className=" '\'', braced (Char.ofNat 96), braced '"', braced '\'']

def ruby : List Shape := [
  ⟨"class:".toList, true, [], [['"', '\'']], ['"', '\''], none⟩,
  ⟨"classes:".toList, true, [], [['"', '\'']], ['"', '\''], none⟩,
  ⟨"class:".toList, true, ['%', 'w'], [['[']], [']'], none⟩]

def vue : List Shape := [quoted "class=" '"', ⟨":class=".toList, false, [], [['"'], ['\'']], ['\''], some '"'⟩]

end Shape

namespace Fencing

def html : Fencing := ofShapes ['"', '\''] Shape.html (by decide) (by decide) (by decide)

def jsx : Fencing := ofShapes ['"', '\'', Char.ofNat 96] Shape.jsx (by decide) (by decide) (by decide)

def ruby : Fencing := ofShapes ['"', '\'', '[', ']'] Shape.ruby (by decide) (by decide) (by decide)

def vue : Fencing := ofShapes ['"', '\''] Shape.vue (by decide) (by decide) (by decide)

/-- Rules that are fences of shapes, in order. -/
theorem covers_of_shapes {F : Fencing} {shapes : List Shape} (hF : F.fences = shapes.map Shape.fence)
    {rules : List Rule} (h : rules.map (fun r => (r.group, r.pattern)) = shapes.map fun s => (1, s.fence.pattern)) :
    F.Covers rules := by
  intro r hr
  have hmem : (r.group, r.pattern) ∈ shapes.map fun s => (1, s.fence.pattern) :=
    h ▸ List.mem_map.mpr ⟨r, hr, rfl⟩
  obtain ⟨s, hs, e⟩ := List.mem_map.mp hmem
  obtain ⟨hg, hp⟩ := Prod.mk.inj e
  exact ⟨hg.symm, s.fence, hF ▸ List.mem_map.mpr ⟨s, hs, rfl⟩, hp.symm⟩

theorem html_covers : html.Covers (Rule.usable Language.htmlRules) := covers_of_shapes rfl (by decide +kernel)

theorem jsx_covers : jsx.Covers (Rule.usable Language.jsxRules) := covers_of_shapes rfl (by decide +kernel)

theorem ruby_covers : ruby.Covers (Rule.usable Language.rubyRules) := covers_of_shapes rfl (by decide +kernel)

theorem vue_covers : vue.Covers (Rule.usable Language.vueRules) := covers_of_shapes rfl (by decide +kernel)

theorem builtin_cases : ∀ l ∈ Language.builtin, (l.id = "ruby".toList ∧ ruby.Covers (Rule.usable l.rules)) ∨
    html.Covers (Rule.usable l.rules) ∨ jsx.Covers (Rule.usable l.rules) ∨ vue.Covers (Rule.usable l.rules) := by
  intro l hl
  simp only [Language.builtin, List.mem_cons, List.not_mem_nil, or_false] at hl
  rcases hl with rfl | rfl | rfl | rfl | rfl | rfl
  · exact Or.inl ⟨rfl, ruby_covers⟩
  · exact Or.inr (Or.inl html_covers)
  · exact Or.inr (Or.inl html_covers)
  · exact Or.inr (Or.inr (Or.inl jsx_covers))
  · exact Or.inr (Or.inr (Or.inl jsx_covers))
  · exact Or.inr (Or.inr (Or.inr vue_covers))

/-- The rules of every built-in language are fences. -/
theorem builtin_covered : ∀ l ∈ Language.builtin, ∃ F : Fencing, F.Covers (Rule.usable l.rules) := by
  intro l hl
  rcases builtin_cases l hl with ⟨-, h⟩ | h | h | h
  · exact ⟨ruby, h⟩
  · exact ⟨html, h⟩
  · exact ⟨jsx, h⟩
  · exact ⟨vue, h⟩

end Fencing

end ClassTidy
