/-
  ClassTidy.Proofs.ScopedEdits — edits of a part of a document.

  A scope leaves spans out before anything is sorted. An edit has the range of its span, so
  that is the same as leaving edits out afterwards (`editsWith_filter`), by what the scope
  says about ranges (`Scope.touches`). Spans lie within the document, so of a range with one
  end missing only the other end counts; but that end cannot leave the document, since the
  ends of a range may be given in either order: one that lies beyond the text counts as the end
  of the text, and one in front of it as its start (`restrict_eq_filter`).

  Proved (`editsIn_filter`): whatever the text and the rules are, the edits of a range, of the
  part from an offset on, of the part up to one and at one are those of the whole document that
  touch it.
-/
import ClassTidy.Proofs.ServiceEdits

namespace ClassTidy.Service

variable {s : Service} {tree : FileTree} {current : Path} {cache : Cache RankTable} {t language : Text}

/-- A scope touches a range of the text. -/
def Scope.touches (t : Text) (start stop : Nat) : Scope → Bool
  | .all => true
  | .range none none => true
  | .range (some a) none => min a t.length ≤ stop
  | .range none (some b) => start ≤ max 0 b
  | .range (some a) (some b) => start ≤ max a b && min a b ≤ stop
  | .offset o => start ≤ o && o ≤ stop

/-- The spans asked for are those that the scope touches. -/
theorem restrict_eq_filter (scope : Scope) {ss : List Span} (hss : ∀ x ∈ ss, Span.Placed t x) :
    scope.restrict t ss = ss.filter fun x => scope.touches t x.classStart x.classStop := by
  cases scope with
  | all => exact (List.filter_eq_self.mpr fun _ _ => rfl).symm
  | offset o => rfl
  | range start stop =>
    cases start with
    | none =>
      cases stop with
      | none => exact (List.filter_eq_self.mpr fun _ _ => rfl).symm
      | some b =>
        refine List.filter_congr fun x _ => ?_
        simp only [Option.getD, Scope.touches, Bool.and_eq_left_iff_imp, decide_eq_true_eq]
        omega
    | some a =>
      cases stop with
      | none =>
        refine List.filter_congr fun x hx => ?_
        have hstart := (hss x hx).start_lt_stop
        have hstop := (hss x hx).stop_le
        simp only [Option.getD, Scope.touches, Bool.and_eq_right_iff_imp, decide_eq_true_eq]
        omega
      | some b => rfl

/-- An edit has the range of its span, so spans can be left out before sorting or edits after it. -/
theorem editsWith_filter (s : Service) (table : RankTable) (p : Nat → Nat → Bool) (ss : List Span) :
    s.editsWith table (ss.filter fun x => p x.classStart x.classStop) =
      (s.editsWith table ss).filter fun e => p e.start e.stop := by
  induction ss with
  | nil => rfl
  | cons x ss ih =>
    unfold editsWith at ih ⊢
    have hrange : ∀ e, s.edit? table x = some e → p e.start e.stop = p x.classStart x.classStop := by
      intro e he
      obtain ⟨-, rfl⟩ := edit?_eq_some he
      rfl
    cases he : s.edit? table x with
    | none =>
      rw [List.filterMap_cons_none he, List.filter_cons]
      split
      · rw [List.filterMap_cons_none he, ih]
      · exact ih
    | some e =>
      rw [List.filterMap_cons_some he, List.filter_cons, List.filter_cons, hrange e he]
      split
      · rw [List.filterMap_cons_some he, ih]
      · exact ih

theorem spansIn_enabled (henable : s.settings.enable = true) {ss : List Span} (hss : s.spans t language = .ok ss)
    (scope : Scope) :
    s.spansIn t language scope = .ok (scope.restrict t ss) := by
  simp only [spansIn, henable, hss, if_true]

theorem spansIn_disabled (henable : ¬ s.settings.enable = true) (scope : Scope) :
    s.spansIn t language scope = .ok [] :=
  if_neg henable

/-- A request for a part is answered with the edits of the whole document that the scope touches. -/
theorem editsIn_scope {table : RankTable} (htable : (s.table tree current cache).1 = .ok table) {es : List Edit}
    (hes : (s.editsIn tree current cache t language .all).value = .ok es) (scope : Scope) :
    (s.editsIn tree current cache t language scope).value =
      .ok (es.filter fun e => scope.touches t e.start e.stop) := by
  by_cases henable : s.settings.enable = true
  · cases hfound : s.spans t language with
    | error b =>
      have hbroken : s.spansIn t language .all = .error b := by simp only [spansIn, henable, hfound, if_true]
      rw [editsIn, hbroken] at hes
      cases hes
    | ok ss =>
      rw [editsIn_of_spans (spansIn_enabled henable hfound .all) htable] at hes
      obtain rfl := Except.ok.inj hes
      rw [editsIn_of_spans (spansIn_enabled henable hfound scope) htable,
        restrict_eq_filter scope (placed_of_spans hfound),
        editsWith_filter s table fun start stop => scope.touches t start stop]
      rfl
  · rw [editsIn_of_spans (spansIn_disabled henable .all) htable] at hes
    obtain rfl := Except.ok.inj hes
    rw [editsIn_of_spans (spansIn_disabled henable scope) htable]
    rfl

/-- The spans of a document are found, or a match is torn. -/
theorem spans_cases (s : Service) (t language : Text) :
    (∃ ss, s.spans t language = .ok ss) ∨
      ∃ l, s.registry.language? language = some l ∧ Span.Torn t l.rules ∧
        s.spans t language = .error .tornGroup := by
  unfold spans
  split
  · exact Or.inl ⟨[], rfl⟩
  · rename_i l hl
    rcases Span.ofRules_cases t l.rules with ⟨hrules, htorn⟩ | ⟨hrules, -⟩
    · exact Or.inr ⟨l, hl, htorn, by rw [Span.find, hrules]⟩
    · exact Or.inl ⟨_, by rw [Span.find, hrules]⟩

/-- A request for the whole document is answered, or a match is torn and no request is. -/
theorem editsIn_answered {table : RankTable} (htable : (s.table tree current cache).1 = .ok table) (t language : Text) :
    (∃ es, (s.editsIn tree current cache t language .all).value = .ok es) ∨
      ∃ l, s.registry.language? language = some l ∧ Span.Torn t l.rules ∧
        ∀ scope, (s.editsIn tree current cache t language scope).value = .error (.breakdown .tornGroup) := by
  by_cases henable : s.settings.enable = true
  · rcases spans_cases s t language with ⟨ss, hss⟩ | ⟨l, hl, htorn, hbroken⟩
    · exact Or.inl ⟨_, editsIn_of_spans (spansIn_enabled henable hss .all) htable⟩
    · exact Or.inr ⟨l, hl, htorn, fun scope => by simp only [editsIn, spansIn, henable, hbroken, if_true]⟩
  · exact Or.inl ⟨_, editsIn_of_spans (spansIn_disabled henable .all) htable⟩

/-- Where there is a table and no match is torn, a request for the whole document is answered, and a request for a
part is answered with those of its edits that touch the part. From an offset on these are the edits that end at it or
behind it, where an offset beyond the text counts as the end of the text; up to an offset, those that start at it or
before it, where a negative offset counts as the start. -/
theorem editsIn_filter (s : Service) (tree : FileTree) (current : Path) (cache : Cache RankTable)
    (t language : Text) (table : RankTable) (htable : (s.table tree current cache).1 = .ok table) :
    let answer := fun scope => (s.editsIn tree current cache t language scope).value
    (∃ es, answer .all = .ok es ∧
      (∀ a : Int, answer (.range (some a) none) = .ok (es.filter fun e => min a t.length ≤ e.stop)) ∧
      (∀ b : Int, answer (.range none (some b)) = .ok (es.filter fun e => e.start ≤ max 0 b)) ∧
      (∀ a b : Int, answer (.range (some a) (some b)) =
        .ok (es.filter fun e => e.start ≤ max a b && min a b ≤ e.stop)) ∧
      ∀ o : Int, answer (.offset o) = .ok (es.filter fun e => e.start ≤ o && o ≤ e.stop)) ∨
    ∃ l, s.registry.language? language = some l ∧ Span.Torn t l.rules ∧
      ∀ scope, answer scope = .error (.breakdown .tornGroup) := by
  intro answer
  refine (editsIn_answered htable t language).imp_left fun ⟨es, hes⟩ => ⟨es, hes, ?_⟩
  have hscope : ∀ scope, answer scope = .ok (es.filter fun e => scope.touches t e.start e.stop) :=
    editsIn_scope htable hes
  exact ⟨fun a => hscope (.range (some a) none), fun b => hscope (.range none (some b)),
    fun a b => hscope (.range (some a) (some b)),
    fun o => hscope (.offset o)⟩

/-- Two attributes, of which one scope touches the second, and another one touches neither. -/
theorem editsIn_filter_two :
    let s : Service := ⟨Settings.default, ⟨.root, []⟩,
      ⟨[⟨"html".toList, Rule.usable Language.htmlRules, []⟩]⟩⟩
    let table : RankTable := ⟨[(['a'], 1), (['b'], 2)], []⟩
    let cache : Cache RankTable := { content? := some table, fingerprint? := some (s.fingerprint ⟨.root, []⟩) }
    let t : Text := "<p class=\"b a\"><i class='b a'>".toList
    let answer := fun scope => (s.editsIn .empty ⟨.root, []⟩ cache t "html".toList scope).value
    let first : Edit := ⟨10, 13, "b a".toList, "a b".toList⟩
    let second : Edit := ⟨25, 28, "b a".toList, "a b".toList⟩
    answer .all = .ok [first, second] ∧ answer (.range (some 28) none) = .ok [second] ∧
      answer (.range none (some 10)) = .ok [first] ∧
      answer (.range (some 40) (some 13)) = .ok [first, second] ∧ answer (.offset 20) = .ok [] := by
  intro s table cache t answer first second
  have htable : (s.table .empty ⟨.root, []⟩ cache).1 = .ok table :=
    table_of_installed s .empty ⟨.root, []⟩ {} table
  let ss : List Span :=
    [⟨"class=\"b a\"".toList, "b a".toList, 3, 10, 13, .rule⟩,
    ⟨"class='b a'".toList, "b a".toList, 18, 25, 28, .rule⟩]
  have hss : s.spansIn t "html".toList .all = .ok ss := by decide +kernel
  have hedits : s.editsWith table ss = [first, second] := by decide +kernel
  have hall : answer .all = .ok [first, second] := by rw [← hedits]; exact editsIn_of_spans hss htable
  rcases editsIn_filter s .empty ⟨.root, []⟩ cache t "html".toList table htable with
    ⟨es, hes, hfrom, hupto, hrange, hat⟩ | ⟨l, -, -, hbroken⟩
  · obtain rfl := Except.ok.inj (hall.symm.trans hes)
    exact ⟨hall, hfrom 28, hupto 10, hrange 40 13, hat 20⟩
  · exact absurd (hall.symm.trans (hbroken .all)) nofun

/-- Where the whole text is a class string, its edit touches what begins behind the end and what stops before the
start. -/
theorem editsIn_outside :
    let s : Service := ⟨Settings.default, ⟨.root, []⟩,
      ⟨[⟨['x'], Rule.usable [Language.rule "(.+)"], []⟩]⟩⟩
    let table : RankTable := ⟨[(['a'], 1), (['b'], 2)], []⟩
    let cache : Cache RankTable := { content? := some table, fingerprint? := some (s.fingerprint ⟨.root, []⟩) }
    let t : Text := "b a".toList
    let answer := fun scope => (s.editsIn .empty ⟨.root, []⟩ cache t ['x'] scope).value
    let edit : Edit := ⟨0, 3, "b a".toList, "a b".toList⟩
    answer .all = .ok [edit] ∧ answer (.range (some 4) none) = .ok [edit] ∧
      answer (.range none (some (-1))) = .ok [edit] := by
  intro s table cache t answer edit
  have htable : (s.table .empty ⟨.root, []⟩ cache).1 = .ok table :=
    table_of_installed s .empty ⟨.root, []⟩ {} table
  let ss : List Span := [⟨"b a".toList, "b a".toList, 0, 0, 3, .rule⟩]
  have hedits : s.editsWith table ss = [edit] := by decide +kernel
  rw [← hedits]
  exact ⟨editsIn_of_spans (by decide +kernel) htable, editsIn_of_spans (by decide +kernel) htable,
    editsIn_of_spans (by decide +kernel) htable⟩

end ClassTidy.Service
