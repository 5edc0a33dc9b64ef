/-
  ClassTidy.Proofs.Unbuilt — runs whose rank table cannot be built.

  The table is fetched at the first file that has something to sort, when other files may
  have been gone through already. A file that is written has edits, so the table was there
  when they were found; and a table that was fetched is installed (`Cache.fetch_table?`), so
  that it is there for all files that follow (`Progress.file_installed`). As long as none is
  installed, the files are those the run began with (`Progress.file_untouched`).

  Proved (`run_unbuilt`): a run that ends because its table cannot be built has written
  nothing, and no run ends so once a file of it has obtained the table.
-/
import ClassTidy.Proofs.Flights
import ClassTidy.Proofs.Visits

namespace ClassTidy

/-! ## The cache -/

namespace Cache

variable {α ε : Type} {c : Cache α} {f : Fingerprint} {build : Unit → Except ε α}

/-- A table is installed after a request if it was obtained. -/
theorem fetch_table? (c : Cache α) (f : Fingerprint) (build : Unit → Except ε α) :
    (c.fetch f build).2.table? f = (c.fetch f build).1.toOption := by
  have hfinish : ∀ d : Cache α, d.latest = some f → (d.finish f (build ())).table? f = (build ()).toOption := by
    intro d hd
    refine Option.ext fun a => ?_
    rw [table?_eq_some, finish_installed, if_pos hd]
    simp
  have hreq := c.requested f
  unfold fetch
  generalize c.request f = reply at hreq
  cases hreq with
  | ready a installed => exact table?_eq_some.mpr installed
  | joined x => exact hfinish _ rfl
  | started => exact hfinish _ rfl

/-- An installed table is obtained. -/
theorem fetch_installed {a : α} (h : c.table? f = some a) : (c.fetch f build).1 = .ok a := by
  unfold fetch request
  have hlatest : { c with latest := some f }.table? f = some a := h
  simp only [hlatest]

/-- A request fails if its build does. -/
theorem fetch_error {e : ε} (h : (c.fetch f build).1 = .error e) : build () = .error e := by
  have hreq := c.requested f
  unfold fetch at h
  generalize c.request f = reply at hreq h
  cases hreq with
  | ready a installed => cases h
  | joined x => exact h
  | started => exact h

end Cache

namespace Command

/-- Going through a file, a run obtains the table: something in the file is to be sorted, and the table is installed
or can be built. -/
def Progress.Obtains (p : Progress) (current : Path) (s : Service) (a : Arguments) (file : Path) (table : RankTable) :
    Prop :=
  ∃ language t ss, Opens p.tree current s a file language t ∧ Wanted s a.scope language t ss ∧
    (s.table p.tree current p.cache).1 = .ok table

namespace Progress

variable {tree : FileTree} {current : Path} {s : Service} {a : Arguments} {file : Path} {p p' : Progress}
  {language t : Text} {table : RankTable}

/-! ## One file -/

/-- A table that is installed stays. -/
theorem Edited.installed {scope : Scope} {value : Except ServiceFault (List Edit)} {cache : Cache RankTable}
    (h : Edited p current s scope language t value cache)
    (htable : p.cache.table? (s.fingerprint current) = some table) :
    cache.table? (s.fingerprint current) = some table := by
  have hfetch : (s.table p.tree current p.cache).2.table? (s.fingerprint current) = some table := by
    rw [Service.table, Cache.fetch_table?, Cache.fetch_installed htable]
    rfl
  cases h with
  | broken => exact htable
  | bare => exact htable
  | unbuilt => exact hfetch
  | sorted => exact hfetch

/-- A table that cannot be obtained could not be built, and none was installed. -/
theorem Edited.unobtained {scope : Scope} {f : BuildFault} {cache : Cache RankTable}
    (h : Edited p current s scope language t (.error (.build f)) cache) :
    p.cache.table? (s.fingerprint current) = none ∧ RankTable.build p.tree current s.root s.settings = .error f := by
  cases h with
  | unbuilt wanted missing =>
    refine ⟨?_, Cache.fetch_error missing⟩
    by_contra hsome
    obtain ⟨table, htable⟩ := Option.ne_none_iff_exists'.mp hsome
    have hobtained := missing.symm.trans (Cache.fetch_installed htable)
    cases hobtained

/-- Edits that are wanted are found if the table is obtained, which is installed then. -/
theorem Edited.obtained {scope : Scope} {value : Except ServiceFault (List Edit)} {cache : Cache RankTable}
    {ss : List Span} (h : Edited p current s scope language t value cache) (hwanted : Wanted s scope language t ss)
    (htable : (s.table p.tree current p.cache).1 = .ok table) :
    (∃ es, value = .ok es) ∧ cache.table? (s.fingerprint current) = some table := by
  cases h with
  | broken b unwanted => exact absurd hwanted (unwanted ss)
  | bare spans => exact absurd (Except.ok.inj (hwanted.spans.symm.trans spans)) hwanted.found
  | unbuilt _ missing =>
    have hobtained := missing.symm.trans htable
    cases hobtained
  | sorted =>
    refine ⟨⟨_, rfl⟩, ?_⟩
    have hfetch := Cache.fetch_table? p.cache (s.fingerprint current)
      fun _ => RankTable.build p.tree current s.root s.settings
    rw [← Service.table, htable] at hfetch
    exact hfetch

/-- A table that is installed is there for the files that follow. -/
theorem file_installed (htable : p.cache.table? (s.fingerprint current) = some table) :
    (p.file current s a file).1.cache.table? (s.fingerprint current) = some table ∧
      ∀ f, (p.file current s a file).2 ≠ some (.build f) := by
  have hvisited := visited p current s a file
  generalize p.file current s a file = reached at hvisited
  cases hvisited with
  | skipped => exact ⟨htable, fun _ => by simp⟩
  | unsearched => exact ⟨htable, fun _ => by simp⟩
  | failed => exact ⟨htable, fun _ => by simp⟩
  | @ended language t fault opens answer told =>
    have hedited := edited p current s a.scope language t
    refine ⟨hedited.installed htable, fun f hf => ?_⟩
    rw [Option.some.inj hf] at answer
    rw [Outcome.value_of_answer answer] at hedited
    exact absurd (hedited.unobtained.1.symm.trans htable) (by simp)
  | @finished language t =>
    rw [finishFile_cache]
    exact ⟨(edited p current s a.scope language t).installed htable, fun _ => by simp⟩

/-- As long as no table is installed, nothing is written. -/
def Untouched (tree : FileTree) (s : Service) (current : Path) (p : Progress) : Prop :=
  p.cache.table? (s.fingerprint current) = none → p.tree = tree ∧ p.written = []

theorem file_untouched (h : Untouched tree s current p) : Untouched tree s current (p.file current s a file).1 := by
  have hvisited := visited p current s a file
  generalize p.file current s a file = reached at hvisited
  -- what is installed before is installed after
  have hearlier : ∀ language t, (p.edits current s a.scope language t).cache.table? (s.fingerprint current) = none →
      p.cache.table? (s.fingerprint current) = none := by
    intro language t hnone
    by_contra hsome
    obtain ⟨table, htable⟩ := Option.ne_none_iff_exists'.mp hsome
    exact absurd (hnone.symm.trans ((edited p current s a.scope language t).installed htable)) (by simp)
  cases hvisited with
  | skipped => exact h
  | unsearched => exact h
  | failed => exact h
  | ended => exact fun hnone => h (hearlier _ _ hnone)
  | @finished language t es opens answer told =>
    unfold Untouched
    rw [finishFile_cache, finishFile_tree, finishFile_puts]
    intro hnone
    obtain ⟨htree, hwritten⟩ := h (hearlier language t hnone)
    have hedited := edited p current s a.scope language t
    rw [(Outcome.answer_eq_ok.mp answer).2] at hedited
    generalize hcache : (p.edits current s a.scope language t).cache = cache at hedited hnone
    cases hedited with
    | bare spans =>
      rw [Deed.ofEdits_nil, List.append_nil]
      exact ⟨htree, hwritten⟩
    | sorted wanted obtained =>
      have hinstalled := ((edited p current s a.scope language t).obtained wanted obtained).2
      rw [hcache] at hinstalled
      exact absurd (hnone.symm.trans hinstalled) (by simp)

/-- A file that obtains the table leaves it installed, and the run does not end there because it cannot be built. -/
theorem file_obtains (h : p.Obtains current s a file table) :
    (p.file current s a file).1.cache.table? (s.fingerprint current) = some table ∧
      ∀ f, (p.file current s a file).2 ≠ some (.build f) := by
  obtain ⟨language, t, ss, hopens, hwanted, htable⟩ := h
  have hvisited := visited p current s a file
  generalize p.file current s a file = reached at hvisited
  obtain ⟨⟨es, hes⟩, hinstalled⟩ := (edited p current s a.scope language t).obtained hwanted htable
  cases hvisited with
  | skipped why reason =>
    rcases reason with hnone | hfile
    · exact absurd (hnone.symm.trans hopens.language) (by simp)
    · exact absurd (hfile.symm.trans hopens.isFile) (by simp)
  | unsearched language reason => exact absurd (reason.symm.trans hopens.isFile) (by simp)
  | failed language reason => exact absurd reason hopens.not_unread
  | ended opens answer =>
    obtain ⟨rfl, rfl⟩ := hopens.unique opens
    refine ⟨hinstalled, fun f hf => ?_⟩
    rw [Option.some.inj hf] at answer
    exact absurd ((Outcome.value_of_answer answer).symm.trans hes) (by simp)
  | finished opens =>
    obtain ⟨rfl, rfl⟩ := hopens.unique opens
    rw [finishFile_cache]
    exact ⟨hinstalled, fun _ => by simp⟩

/-! ## All files -/

/-- Once the table is installed, no run ends because it cannot be built. -/
theorem files_installed (htable : p.cache.table? (s.fingerprint current) = some table) (fs : List Path)
    (f : BuildFault) :
    p.files current s a fs ≠ (p', some (.build f)) := by
  intro h
  obtain ⟨before, file, behind, q, -, hbefore, hlast⟩ := files_fault h
  have hkept := files_keep (P := fun p => p.cache.table? (s.fingerprint current) = some table) (s := s) (a := a)
    (fun _ _ hp => (file_installed hp).1) before htable
  rw [hbefore] at hkept
  have hnone : (q.file current s a file).2 ≠ some (.build f) := (file_installed hkept).2 f
  rw [hlast] at hnone
  exact hnone rfl

/-- A run that ends because the table cannot be built has written nothing. -/
theorem files_unbuilt (hp : Untouched tree s current p) {fs : List Path} {f : BuildFault}
    (h : p.files current s a fs = (p', some (.build f))) :
    p'.tree = tree ∧ p'.written = [] ∧ RankTable.build tree current s.root s.settings = .error f := by
  obtain ⟨before, file, behind, q, -, hbefore, hlast⟩ := files_fault h
  have hq := files_keep (P := Untouched tree s current) (s := s) (a := a) (fun _ _ => file_untouched) before hp
  rw [hbefore] at hq
  have hvisited := visited q current s a file
  rw [hlast] at hvisited
  cases hvisited with
  | @ended language t fault opens answer told =>
    have hedited := edited q current s a.scope language t
    rw [Outcome.value_of_answer answer] at hedited
    obtain ⟨hnone, hbuild⟩ := hedited.unobtained
    obtain ⟨hqtree, hqwritten⟩ := hq hnone
    rw [hqtree] at hbuild
    exact ⟨hqtree, hqwritten, hbuild⟩

end Progress

/-! ## The run -/

/-- A run that ends because its table cannot be built has written nothing and prints no report; and once a file of a
run has obtained the table, the run does not end so. -/
theorem run_unbuilt (tree : FileTree) (current : Path) (a : Arguments) (s : Service) (hs : Serves tree current a s) :
    (∀ p f, (Progress.first tree a s).files current s a a.files = (p, some (.build f)) →
      p.tree = tree ∧ (run tree current a).written = [] ∧ (run tree current a).output = [] ∧
      (run tree current a).status = 2 ∧
      (run tree current a).told = p.told ++ [.note ("ERROR: ".toList ++ f.message)] ∧
      RankTable.build tree current s.root s.settings = .error f) ∧
    ∀ before file behind p table, a.files = before ++ file :: behind →
      (Progress.first tree a s).files current s a before = (p, none) → p.Obtains current s a file table →
      ∀ q f, (Progress.first tree a s).files current s a a.files ≠ (q, some (.build f)) := by
  constructor
  · intro p f hfiles
    have hfirst : Progress.Untouched tree s current (Progress.first tree a s) := fun _ => ⟨rfl, rfl⟩
    obtain ⟨htree, hwritten, hbuild⟩ := Progress.files_unbuilt hfirst hfiles
    rw [run_eq hs, hfiles]
    exact ⟨htree, hwritten, rfl, rfl, rfl, hbuild⟩
  · intro before file behind p table hfiles hbefore hobtains q f
    obtain ⟨hinstalled, hunended⟩ := Progress.file_obtains hobtains
    rw [hfiles, Progress.files_append hbefore, Progress.files]
    split
    · rename_i p' fault hfile
      intro hend
      rw [hfile, (Prod.mk.inj hend).2] at hunended
      exact hunended f rfl
    · rename_i p' hfile
      rw [hfile] at hinstalled
      exact Progress.files_installed hinstalled behind f

/-- A run came to its end because the table could not be built. -/
def endsUnbuilt : Progress × Option ServiceFault → Bool
  | (_, some (.build _)) => true
  | _ => false

theorem endsUnbuilt_iff {x : Progress × Option ServiceFault} :
    endsUnbuilt x = true ↔ ∃ p f, x = (p, some (.build f)) := by
  constructor
  · intro h
    unfold endsUnbuilt at h
    split at h
    · exact ⟨_, _, rfl⟩
    · cases h
  · rintro ⟨p, f, rfl⟩
    rfl

/-- A workspace without a rank table: a page without classes, and one with classes. -/
def tablelessTree : FileTree :=
  (FileTree.empty.put ["plain.html".toList] (.file (Text.Utf8.encode "<p>".toList))).put
    ["page.html".toList] (.file (Text.Utf8.encode "<p class=\"p-4 flex\">".toList))

def tablelessArguments : Arguments :=
  { files := [Path.read "plain.html".toList, Path.read "page.html".toList], mode := .write }

/-- A page with classes obtains the table of its workspace. -/
theorem obtains_page :
    (Progress.first (pageTree "<p class=\"p-4 flex\">") pageArguments (defaultService ⟨.root, []⟩)).Obtains
      ⟨.root, []⟩ (defaultService ⟨.root, []⟩) pageArguments (Path.read "page.html".toList)
      ⟨[("flex".toList, 1), ("p-4".toList, 2)], []⟩ := by
  have hread : (pageTree "<p class=\"p-4 flex\">").read ⟨.root, []⟩ (Path.read "page.html".toList) =
      .ok (Text.Utf8.encode "<p class=\"p-4 flex\">".toList) := by decide +kernel
  have hspans : (defaultService ⟨.root, []⟩).spansIn "<p class=\"p-4 flex\">".toList "html".toList .all =
      .ok [⟨"class=\"p-4 flex\"".toList, "p-4 flex".toList, 3, 10, 18, .rule⟩] := by decide +kernel
  have hplain : ("<p class=\"p-4 flex\">".toList.all fun c => c != '\r') = true := by decide +kernel
  have hdoc := Progress.document_encode fun c hc => by simpa using List.all_eq_true.mp hplain c hc
  exact ⟨"html".toList, _, _, ⟨by decide +kernel, _, hread, hdoc⟩,
    ⟨hspans, List.cons_ne_nil _ _, by decide⟩, by decide +kernel⟩

/-- The table is missed at the second page, and nothing is written; where it is obtained, it is not missed. -/
theorem run_unbuilt_tableless :
    ((∃ p f, (Progress.first tablelessTree tablelessArguments (defaultService ⟨.root, []⟩)).files ⟨.root, []⟩
        (defaultService ⟨.root, []⟩) tablelessArguments tablelessArguments.files = (p, some (.build f)) ∧
        p.tree = tablelessTree) ∧
      (run tablelessTree ⟨.root, []⟩ tablelessArguments).written = []) ∧
    ∀ q f, (Progress.first (pageTree "<p class=\"p-4 flex\">") pageArguments
        (defaultService ⟨.root, []⟩)).files ⟨.root, []⟩
      (defaultService ⟨.root, []⟩) pageArguments pageArguments.files ≠ (q, some (.build f)) := by
  constructor
  · have hs : Serves tablelessTree ⟨.root, []⟩ tablelessArguments (defaultService ⟨.root, []⟩) :=
      serves_default _ _ (by decide +kernel)
    have hends : endsUnbuilt
        ((Progress.first tablelessTree tablelessArguments (defaultService ⟨.root, []⟩)).files ⟨.root, []⟩
        (defaultService ⟨.root, []⟩) tablelessArguments tablelessArguments.files) = true := by decide +kernel
    obtain ⟨p, f, hfiles⟩ := endsUnbuilt_iff.mp hends
    obtain ⟨htree, hwritten, -⟩ := (run_unbuilt tablelessTree ⟨.root, []⟩ tablelessArguments _ hs).1 p f hfiles
    exact ⟨⟨p, f, hfiles, htree⟩, hwritten⟩
  · have hs : Serves (pageTree "<p class=\"p-4 flex\">") ⟨.root, []⟩ pageArguments
        (defaultService ⟨.root, []⟩) :=
      serves_default _ _ (by decide +kernel)
    exact (run_unbuilt _ _ _ _ hs).2 [] _ [] _ _ rfl rfl obtains_page

end Command

end ClassTidy
