/-
  ClassTidy.Proofs.ServiceEdits — the edits of a document, and what making them does.

  A request that is answered found the spans asked for, and had a table if there were any
  (`editsIn_cases`). Every span is placed in the document, so every edit fits it: it lies
  within the document, what it replaces stands there, and the new text is the canonical
  form of the old one and another text. Every span that is not in its canonical form has
  an edit.

  Proved (`editsIn_spliced`): for every request that is answered, whatever its scope, the
  edits fit, and making them never fails: the ranges of the kept edits hold their new texts,
  and everything between them stays as it is.
-/
import ClassTidy.Proofs.Order
import ClassTidy.Proofs.SpanPlaces
import ClassTidy.Proofs.Splice

namespace ClassTidy

/-- An edit that puts a class string of a document into its canonical form. -/
structure Edit.Fits (t : Text) (ranker : Ranker) (o : ClassList.Options) (e : Edit) : Prop where
  startLe : e.start ≤ e.stop
  stopLe : e.stop ≤ t.length
  old : Text.slice t e.start e.stop = e.old
  new : ClassList.normalize ranker o e.old = .ok e.new
  changes : e.new ≠ e.old

namespace Service

variable {s : Service} {tree : FileTree} {current : Path} {cache : Cache RankTable} {t language : Text} {scope : Scope}

/-! ## Spans -/

theorem restrict_subset (scope : Scope) (t : Text) (ss : List Span) : ∀ x ∈ scope.restrict t ss, x ∈ ss := by
  intro x hx
  unfold Scope.restrict at hx
  split at hx
  · exact hx
  · exact hx
  · exact List.mem_of_mem_filter hx
  · exact List.mem_of_mem_filter hx

theorem placed_of_spans {ss : List Span} (h : s.spans t language = .ok ss) : ∀ x ∈ ss, Span.Placed t x := by
  unfold spans at h
  split at h
  · obtain rfl := Except.ok.inj h
    intro x hx; cases hx
  · exact Span.placed_of_find h

theorem placed_of_spansIn {ss : List Span} (h : s.spansIn t language scope = .ok ss) :
    ∀ x ∈ ss, Span.Placed t x := by
  unfold spansIn at h
  split at h
  · split at h
    · rename_i found hfound
      obtain rfl := Except.ok.inj h
      exact fun x hx => placed_of_spans hfound x (restrict_subset scope t found x hx)
    · cases h
  · obtain rfl := Except.ok.inj h
    intro x hx; cases hx

/-! ## Edits -/

theorem options_hold (s : Service) : s.settings.options.holdFirst = false ∧ s.settings.options.holdLast = false :=
  ⟨rfl, rfl⟩

/-- An answered request found spans, and had a table for them if there were any. -/
theorem editsIn_cases {es : List Edit} (h : (s.editsIn tree current cache t language scope).value = .ok es) :
    ∃ ss, s.spansIn t language scope = .ok ss ∧
      (ss = [] ∧ es = [] ∨ ∃ table, (s.table tree current cache).1 = .ok table ∧
        es = s.editsWith table ss) := by
  unfold editsIn at h
  split at h
  · rename_i ss hss
    refine ⟨ss, hss, ?_⟩
    unfold edits at h
    split at h
    · rename_i hempty
      exact Or.inl ⟨List.isEmpty_iff.mp hempty, (Except.ok.inj h).symm⟩
    · simp only at h
      split at h
      · cases h
      · rename_i table _ htable
        exact Or.inr ⟨table, by rw [htable], (Except.ok.inj h).symm⟩
  · cases h

/-- An edit is made only of a class string that changes, and has its range. -/
theorem edit?_eq_some {table : RankTable} {x : Span} {e : Edit} (h : s.edit? table x = some e) :
    s.normal table x.classes ≠ x.classes ∧
      e = ⟨x.classStart, x.classStop, x.classes, s.normal table x.classes⟩ := by
  unfold edit? at h
  simp only at h
  split at h
  · cases h
  · rename_i hne
    exact ⟨hne, (Option.some.inj h).symm⟩

theorem fits_of_editsWith {table : RankTable} {ss : List Span} (hp : ∀ x ∈ ss, Span.Placed t x) :
    ∀ e ∈ s.editsWith table ss, e.Fits t table.ranker s.settings.options := by
  intro e he
  obtain ⟨x, hx, hedit⟩ := List.mem_filterMap.mp he
  obtain ⟨hne, rfl⟩ := edit?_eq_some hedit
  have hx := hp x hx
  exact ⟨hx.start_lt_stop.le, hx.stop_le, hx.slice_eq, table.normalize_ranker _ _, hne⟩

theorem exists_edit {table : RankTable} {ss : List Span} {x : Span} (hx : x ∈ ss)
    (hne : table.normalize s.settings.options x.classes ≠ x.classes) :
    ∃ e ∈ s.editsWith table ss, e.start = x.classStart ∧ e.stop = x.classStop :=
  ⟨_, List.mem_filterMap.mpr ⟨x, hx, if_neg hne⟩, rfl, rfl⟩

/-- An installed table is the one that edits are made with. -/
theorem table_of_installed (s : Service) (tree : FileTree) (current : Path) (cache : Cache RankTable)
    (table : RankTable) :
    (s.table tree current { cache with content? := some table, fingerprint? := some (s.fingerprint current) }).1 =
    .ok table := by
  simp only [Service.table, Cache.fetch, Cache.request, Cache.table?, if_true]

theorem editsIn_of_spans {ss : List Span} {table : RankTable} (hss : s.spansIn t language scope = .ok ss)
    (htable : (s.table tree current cache).1 = .ok table) :
    (s.editsIn tree current cache t language scope).value = .ok (s.editsWith table ss) := by
  rw [editsIn, hss]
  simp only [edits]
  split
  · rename_i hempty
    rw [List.isEmpty_iff.mp hempty]
    rfl
  · split
    · rename_i hfault
      rw [hfault] at htable; cases htable
    · rename_i hfound
      rw [hfound] at htable
      rw [Except.ok.inj htable]

/-- There are words for everything that is told while the table is fetched. -/
theorem tableLog_unsaid? (s : Service) (tree : FileTree) (current : Path) (cache : Cache RankTable) :
    (s.tableLog tree current cache).unsaid? = none := by
  unfold Service.tableLog Cache.waitLog RankTable.buildLog Cache.endLog Log.unsaid?
  dsimp only
  repeat' split
  all_goals simp [Log.Line.unsaid?]

/-- A request that has a table has no words at most for the ranks of its class strings. -/
theorem editsIn_unsaid? {ss : List Span} {table : RankTable} (hss : s.spansIn t language scope = .ok ss)
    (htable : (s.table tree current cache).1 = .ok table) :
    (s.editsIn tree current cache t language scope).log.unsaid? =
      Log.unsaid? (ss.flatMap fun x => s.sortLog table x.classes) := by
  rw [editsIn, hss]
  simp only [edits]
  split
  · rename_i hempty
    rw [List.isEmpty_iff.mp hempty]
    rfl
  · split
    · rename_i hfault
      rw [hfault] at htable; cases htable
    · rename_i hfound
      rw [hfound] at htable
      obtain rfl := Except.ok.inj htable
      have htold := tableLog_unsaid? s tree current cache
      simp only [Log.unsaid?] at htold ⊢
      rw [List.findSome?_append, htold, Option.none_or]

/-- The edits of a request that is answered put class strings of the document into their canonical form, and leave none
out; making them succeeds, and changes the ranges of the edits that are kept and nothing else. -/
theorem editsIn_spliced (s : Service) (tree : FileTree) (current : Path) (cache : Cache RankTable) (t language : Text)
    (scope : Scope) (es : List Edit) (h : (s.editsIn tree current cache t language scope).value = .ok es) :
    (∀ e ∈ es, ∃ table, (s.table tree current cache).1 = .ok table ∧
      e.Fits t table.ranker s.settings.options) ∧
    (∃ ss, s.spansIn t language scope = .ok ss ∧
      ∀ x ∈ ss, ∃ table, (s.table tree current cache).1 = .ok table ∧
      (ClassList.normalize table.ranker s.settings.options x.classes = .ok x.classes ∨
        ∃ e ∈ es, e.start = x.classStart ∧ e.stop = x.classStop)) ∧
    ∃ u, Edit.apply t es = .ok u ∧ Edit.apply t (Edit.select es).kept = .ok u ∧
      Edit.Spliced 0 (Edit.select es).kept t u := by
  obtain ⟨ss, hss, hcases⟩ := editsIn_cases h
  have hfits : ∀ e ∈ es, ∃ table, (s.table tree current cache).1 = .ok table ∧
      e.Fits t table.ranker s.settings.options := by
    rcases hcases with ⟨-, rfl⟩ | ⟨table, htable, rfl⟩
    · intro e he; cases he
    · exact fun e he => ⟨table, htable, fits_of_editsWith (placed_of_spansIn hss) e he⟩
  have hle : ∀ e ∈ es, e.start ≤ e.stop := fun e he => by
    obtain ⟨_, -, hf⟩ := hfits e he
    exact hf.startLe
  have hin : ∀ e ∈ es, e.stop ≤ t.length := fun e he => by
    obtain ⟨_, -, hf⟩ := hfits e he
    exact hf.stopLe
  obtain ⟨u, hu, hspliced⟩ := Edit.apply_spliced hle hin
  refine ⟨hfits, ⟨ss, hss, fun x hx => ?_⟩, u, hu, by rw [Edit.apply_kept hle, hu], hspliced⟩
  rcases hcases with ⟨rfl, -⟩ | ⟨table, htable, rfl⟩
  · cases hx
  · refine ⟨table, htable, ?_⟩
    rw [table.normalize_ranker, Except.ok.injEq]
    by_cases hc : table.normalize s.settings.options x.classes = x.classes
    · exact Or.inl hc
    · exact Or.inr (exists_edit hx hc)

/-- A call inside an attribute: two edits, of which the outer one is kept. -/
theorem editsIn_spliced_nested :
    let s : Service := ⟨Settings.default, ⟨.root, []⟩,
      ⟨[⟨"html".toList, Rule.usable Language.htmlRules, []⟩]⟩⟩
    let table : RankTable := ⟨[(['a'], 1), (['b'], 2)], []⟩
    let cache : Cache RankTable := { content? := some table, fingerprint? := some (s.fingerprint ⟨.root, []⟩) }
    let t : Text := "<p class=\"b cn('b a')\">".toList
    ∃ es, (s.editsIn .empty ⟨.root, []⟩ cache t "html".toList .all).value = .ok es ∧ es.length = 2 ∧
      (∀ e ∈ es, e.Fits t table.ranker s.settings.options) ∧
      ∃ u, Edit.apply t es = .ok u ∧ Edit.Spliced 0 (Edit.select es).kept t u := by
  intro s table cache t
  have htable : (s.table .empty ⟨.root, []⟩ cache).1 = .ok table :=
    table_of_installed s .empty ⟨.root, []⟩ {} table
  let ss : List Span := [⟨"class=\"b cn('b a')\"".toList, "b cn('b a')".toList, 3, 10, 21, .rule⟩,
    ⟨"'b a'".toList, "b a".toList, 15, 16, 19, .call⟩]
  have hss : s.spansIn t "html".toList .all = .ok ss := by decide +kernel
  have hes := editsIn_of_spans hss htable
  obtain ⟨hfits, -, u, hu, -, hspliced⟩ := editsIn_spliced s .empty ⟨.root, []⟩ cache t "html".toList .all _ hes
  refine ⟨_, hes, by decide +kernel, fun e he => ?_, u, hu, hspliced⟩
  obtain ⟨found, hfound, hfit⟩ := hfits e he
  rw [htable] at hfound
  exact Except.ok.inj hfound ▸ hfit

end Service

end ClassTidy
