/-
  ClassTidy.Proofs.Visits — what a run does with each of its files.

  What asking for the edits of a document can come to is said once (`Progress.edited`), and
  so is what going through a file can come to (`Progress.visited`): the file is skipped, it
  cannot be read as a text, a fault ends the run, or it is finished with the edits that were
  found. What is done then is a deed (`Deed.ofEdits`): the account that is given of the file,
  and what is put in it. A run that ends with a fault went through the files before without
  one (`Progress.files_fault`), so that what every visit keeps holds wherever a run has come
  to (`Progress.files_keep`).

  A run has a service and is the end of going through its files, or it was refused before the
  first file and wrote nothing (`run_served`).
-/
import ClassTidy.Proofs.Canonical
import ClassTidy.Proofs.Documents
import ClassTidy.Proofs.ServiceEdits

namespace ClassTidy

/-- Edits that fit a text without returns bring none in. -/
theorem Service.plain_of_fits {s : Service} {table : RankTable} {t u : Text} {es : List Edit}
    (ht : ∀ c ∈ t, c ≠ '\r') (hfits : ∀ e ∈ es, e.Fits t table.ranker s.settings.options)
    (hu : Edit.Spliced 0 (Edit.select es).kept t u) :
    ∀ c ∈ u, c ≠ '\r' := by
  refine hu.forall_mem ht fun e he c hc => ?_
  have hf := hfits e (Edit.mem_of_kept he)
  have hnorm := hf.new
  rw [table.normalize_ranker, Except.ok.injEq] at hnorm
  rw [← hnorm] at hc
  rcases ClassList.mem_of_normalize table s.options_hold.1 s.options_hold.2 hc with hc | rfl
  · rw [← hf.old] at hc
    exact ht c (List.mem_of_mem_drop (List.mem_of_mem_take hc))
  · decide

/-! ## Answers -/

namespace Outcome

variable {α : Type} {o : Outcome α} {verbose : Bool}

theorem answer_eq_ok {a : α} :
    o.answer verbose = .ok a ↔ (verbose = true → o.log.unsaid? = none) ∧ o.value = .ok a := by
  unfold answer
  cases verbose with
  | false => simp
  | true => cases o.log.unsaid? <;> simp

/-- A table that is missed is missed whether lines are shown or not. -/
theorem value_of_answer {f : BuildFault} (h : o.answer verbose = .error (.build f)) : o.value = .error (.build f) := by
  unfold answer at h
  split at h
  · cases h
  · exact h

end Outcome

namespace Command

/-! ## Accounts -/

/-- What a report says of a file. -/
inductive Account where
  | skipped
  | failed (why : Text)
  | found (x : FileReport)

/-- A report with the account of one more file. -/
def Report.add (r : Report) (file : Path) : Account → Report
  | .skipped => { r with skipped := r.skipped ++ [file] }
  | .failed why => { r with failed := r.failed ++ [(file, why)] }
  | .found x => { r with files := r.files ++ [x] }

@[simp]
theorem Report.add_mode (r : Report) (file : Path) (x : Account) : (r.add file x).mode = r.mode := by
  cases x <;> rfl

/-- What a run does with a file: the account it gives, and what it puts in the file. -/
structure Deed where
  account : Account
  puts : List (Path × List UInt8)

/-- What is done with a file whose edits are known. -/
def Deed.ofEdits (tree : FileTree) (current : Path) (mode : Mode) (file : Path) (language t : Text)
    (es : Edit.Selection) : Deed :=
  let found (written : Bool) : Account := .found ⟨file, language, Row.ofEdits t es.kept, written⟩
  if mode = .write && !es.kept.isEmpty then
    match Edit.apply t es.kept with
    | .error _ => ⟨found true, []⟩
    | .ok u =>
      match tree.save current file (Text.Utf8.encode u) with
      | (held, none) => ⟨found true, held.toList.map (file, ·)⟩
      | (held, some f) => ⟨.failed (f.message file), held.toList.map (file, ·)⟩
  else ⟨found false, []⟩

theorem Deed.ofEdits_nil (tree : FileTree) (current : Path) (mode : Mode) (file : Path) (language t : Text) :
    Deed.ofEdits tree current mode file language t
      (Edit.select []) = ⟨.found ⟨file, language, [], false⟩, []⟩ := by
  simp [ofEdits, Edit.select, Edit.selectFrom, Sorting.sortBy, Row.ofEdits]

/-- Of edits that fit a document nothing is made, or all of it, as far as the system takes it. -/
theorem Deed.ofEdits_cases (tree : FileTree) (current : Path) (mode : Mode) (file : Path) (language : Text)
    {s : Service} {table : RankTable} {t : Text} {es : List Edit} (ht : ∀ c ∈ t, c ≠ '\r')
    (hfits : ∀ e ∈ es, e.Fits t table.ranker s.settings.options) :
    Deed.ofEdits tree current mode file language t (Edit.select es) =
        ⟨.found ⟨file, language, Row.ofEdits t (Edit.select es).kept, false⟩, []⟩ ∧
      (mode = .write → (Edit.select es).kept = []) ∨
    ∃ u, mode = .write ∧ (Edit.select es).kept ≠ [] ∧ Edit.apply t (Edit.select es).kept = .ok u ∧
      Edit.Spliced 0 (Edit.select es).kept t u ∧ (∀ c ∈ u, c ≠ '\r') ∧
      (tree.save current file (Text.Utf8.encode u) = (some (Text.Utf8.encode u), none) ∧
          Deed.ofEdits tree current mode file language t (Edit.select es) =
            ⟨.found ⟨file, language, Row.ofEdits t (Edit.select es).kept, true⟩,
              [(file, Text.Utf8.encode u)]⟩ ∨
        ∃ held f, tree.save current file (Text.Utf8.encode u) = (held, some f) ∧
          Deed.ofEdits tree current mode file language t (Edit.select es) =
            ⟨.failed (f.message file), held.toList.map (file, ·)⟩) := by
  have hle : ∀ e ∈ es, e.start ≤ e.stop := fun e he => (hfits e he).startLe
  obtain ⟨u, hu, hspliced⟩ := Edit.apply_spliced hle fun e he => (hfits e he).stopLe
  have happly : Edit.apply t (Edit.select es).kept = .ok u := (Edit.apply_kept hle).trans hu
  unfold Deed.ofEdits
  cases hwrite : decide (mode = .write) && !(Edit.select es).kept.isEmpty with
  | false =>
    refine .inl ⟨rfl, fun hmode => ?_⟩
    simpa [hmode] using hwrite
  | true =>
    simp only [Bool.and_eq_true, decide_eq_true_eq, Bool.not_eq_true', List.isEmpty_eq_false_iff] at hwrite
    refine .inr ⟨u, hwrite.1, hwrite.2, happly, hspliced, Service.plain_of_fits ht hfits hspliced, ?_⟩
    simp only [if_true, happly]
    rcases hsave : tree.save current file (Text.Utf8.encode u) with ⟨held, _ | f⟩
    · obtain rfl := FileTree.save_done hsave
      exact .inl ⟨rfl, rfl⟩
    · exact .inr ⟨held, f, rfl, rfl⟩

/-! ## Files that are opened -/

/-- The language that a file is gone through in. -/
def languageOf? (a : Arguments) (s : Service) (file : Path) : Option Text :=
  (if a.language.isEmpty then Language.ofPath? file else some a.language).filter s.supports

/-- The spans that are looked at; without an offset these are all. -/
def Scope.spans : Scope → Service.Scope
  | .all => .all
  | .range a b => .range (some a) (some b)
  | .offset o => .offset o
  | .blankOffset => .all

/-- A file is gone through as a text of some language. -/
structure Opens (tree : FileTree) (current : Path) (s : Service) (a : Arguments) (file : Path) (language t : Text) :
    Prop where
  language : languageOf? a s file = some language
  document : ∃ octets, tree.read current file = .ok octets ∧ Progress.document octets = .ok t

theorem Opens.unique {tree : FileTree} {current : Path} {s : Service} {a : Arguments} {file : Path}
    {language language' t t' : Text} (h : Opens tree current s a file language t)
    (h' : Opens tree current s a file language' t') : language' = language ∧ t' = t := by
  obtain ⟨octets, hread, hdoc⟩ := h.document
  obtain ⟨octets', hread', hdoc'⟩ := h'.document
  obtain rfl := Except.ok.inj (hread.symm.trans hread')
  exact ⟨Option.some.inj (h'.language.symm.trans h.language), Except.ok.inj (hdoc'.symm.trans hdoc)⟩

/-- Why a file fails before its edits are looked for: it cannot be read, or it is not UTF-8. -/
inductive Unread (tree : FileTree) (current file : Path) : Text → Prop
  | fault {f : FileFault} (isFile : tree.isFile current file = .ok true) (read : tree.read current file = .error f) :
      Unread tree current file (f.message file)
  | octets {octets : List UInt8} {f : Text.Utf8.Fault} (read : tree.read current file = .ok octets)
      (decode : Text.Utf8.decode octets = .error f) : Unread tree current file f.message.toList

theorem Opens.not_unread {tree : FileTree} {current : Path} {s : Service} {a : Arguments} {file : Path}
    {language t why : Text} (h : Opens tree current s a file language t) : ¬ Unread tree current file why := by
  intro hunread
  obtain ⟨octets, hread, hdoc⟩ := h.document
  cases hunread with
  | fault isFile read =>
    rw [hread] at read
    cases read
  | octets read decode =>
    obtain rfl := Except.ok.inj (hread.symm.trans read)
    rw [Progress.document_eq_error.mpr decode] at hdoc
    cases hdoc

theorem Opens.isFile {tree : FileTree} {current : Path} {s : Service} {a : Arguments} {file : Path} {language t : Text}
    (h : Opens tree current s a file language t) : tree.isFile current file = .ok true := by
  obtain ⟨octets, hread, -⟩ := h.document
  exact FileTree.Readable.isFile ⟨octets, hread⟩

namespace Progress

variable {current : Path} {s : Service} {a : Arguments} {file : Path} {p p' : Progress} {language t : Text}
  {fs : List Path} {fault : ServiceFault}

/-! ## The edits of a file -/

/-- Edits are asked for: a span is found, and if it has to be at an offset there is one. -/
structure Wanted (s : Service) (scope : Scope) (language t : Text) (ss : List Span) : Prop where
  spans : s.spansIn t language scope.spans = .ok ss
  found : ss ≠ []
  offset : scope ≠ .blankOffset

/-- What asking for the edits of a document can come to, with the cache that it leaves. The table is fetched only for
edits that are wanted. -/
inductive Edited (p : Progress) (current : Path) (s : Service) (scope : Scope) (language t : Text) :
    Except ServiceFault (List Edit) → Cache RankTable → Prop
  | broken (b : Breakdown) (unwanted : ∀ ss, ¬ Wanted s scope language t ss) :
      Edited p current s scope language t (.error (.breakdown b)) p.cache
  | bare (spans : s.spansIn t language scope.spans = .ok []) : Edited p current s scope language t (.ok []) p.cache
  | unbuilt {ss : List Span} {f : BuildFault} (wanted : Wanted s scope language t ss)
      (missing : (s.table p.tree current p.cache).1 = .error f) :
      Edited p current s scope language t (.error (.build f)) (s.table p.tree current p.cache).2
  | sorted {ss : List Span} {table : RankTable} (wanted : Wanted s scope language t ss)
      (obtained : (s.table p.tree current p.cache).1 = .ok table) :
      Edited p current s scope language t (.ok (s.editsWith table ss)) (s.table p.tree current p.cache).2

theorem edits_service {scope : Scope} (h : scope ≠ .blankOffset) (p : Progress) (current : Path) (s : Service)
    (language t : Text) :
    p.edits current s scope language t = s.editsIn p.tree current p.cache t language scope.spans := by
  cases scope with
  | blankOffset => exact absurd rfl h
  | all => rfl
  | range a b => rfl
  | offset o => rfl

theorem edited (p : Progress) (current : Path) (s : Service) (scope : Scope) (language t : Text) :
    Edited p current s scope language t (p.edits current s scope language t).value
      (p.edits current s scope language t).cache := by
  by_cases hscope : scope = .blankOffset
  · subst hscope
    simp only [edits]
    have hunwanted : ∀ ss, ¬ Wanted s .blankOffset language t ss := fun ss hwanted => hwanted.offset rfl
    split
    · rename_i hss
      exact .bare hss
    · exact .broken _ hunwanted
    · exact .broken _ hunwanted
  rw [edits_service hscope]
  unfold Service.editsIn
  cases hss : s.spansIn t language scope.spans with
  | error b =>
    refine .broken b fun ss hwanted => ?_
    have hspans := hss.symm.trans hwanted.spans
    cases hspans
  | ok ss =>
    simp only [Service.edits]
    by_cases hempty : ss = []
    · subst hempty
      exact .bare hss
    · rw [if_neg (by simpa using hempty)]
      have hwanted : Wanted s scope language t ss := ⟨hss, hempty, hscope⟩
      split
      · rename_i f cache htable
        have hunbuilt := Edited.unbuilt (p := p) hwanted (congrArg Prod.fst htable)
        rwa [htable] at hunbuilt
      · rename_i table cache htable
        have hsorted := Edited.sorted (p := p) hwanted (congrArg Prod.fst htable)
        rwa [htable] at hsorted

/-- The edits that are found fit the document. -/
theorem Edited.fits {scope : Scope} {es : List Edit} {cache : Cache RankTable}
    (h : Edited p current s scope language t (.ok es) cache) :
    ∃ table : RankTable, ∀ e ∈ es, e.Fits t table.ranker s.settings.options := by
  cases h with
  | bare => exact ⟨⟨[], []⟩, fun e he => absurd he List.not_mem_nil⟩
  | sorted wanted => exact ⟨_, Service.fits_of_editsWith (Service.placed_of_spansIn wanted.spans)⟩

/-! ## One file -/

/-- What going through a file can come to. -/
inductive Visited (p : Progress) (current : Path) (s : Service) (a : Arguments) (file : Path) :
    Progress × Option ServiceFault → Prop
  | skipped (why : String) (reason : languageOf? a s file = none ∨ p.tree.isFile current file = .ok false) :
      Visited p current s a file (p.skip file why, none)
  | unsearched {f : FileFault} (language : languageOf? a s file ≠ none)
      (reason : p.tree.isFile current file = .error f) :
      Visited p current s a file (p, some (.breakdown (.unsearched file f)))
  | failed {why : Text} (language : languageOf? a s file ≠ none) (reason : Unread p.tree current file why) :
      Visited p current s a file (p.fail file why, none)
  | ended {language t : Text} {fault : ServiceFault} (opens : Opens p.tree current s a file language t)
      (answer : (p.edits current s a.scope language t).answer a.verbose = .error fault) (told : List Told) :
      Visited p current s a file
        ({ p with cache := (p.edits current s a.scope language t).cache, told := told }, some fault)
  | finished {language t : Text} {es : List Edit} (opens : Opens p.tree current s a file language t)
      (answer : (p.edits current s a.scope language t).answer a.verbose = .ok es) (told : List Told) :
      Visited p current s a file
        (finishFile { p with cache := (p.edits current s a.scope language t).cache, told := told }
          current file language t
          (Edit.select es), none)

theorem visited (p : Progress) (current : Path) (s : Service) (a : Arguments) (file : Path) :
    Visited p current s a file (p.file current s a file) := by
  unfold Progress.file
  simp only
  split
  · rename_i hlang
    exact .skipped _ (Or.inl hlang)
  · rename_i language hlang
    have hknown : languageOf? a s file ≠ none := by
      rw [languageOf?, hlang]
      exact Option.some_ne_none language
    split
    · rename_i f hfile
      exact .unsearched hknown hfile
    · rename_i hfile
      exact .skipped _ (Or.inr hfile)
    · rename_i hfile
      split
      · rename_i f hread
        exact .failed hknown (.fault hfile hread)
      · rename_i octets hread
        split
        · rename_i f hdoc
          exact .failed hknown (.octets hread (document_eq_error.mp hdoc))
        · rename_i t hdoc
          have hopens : Opens p.tree current s a file language t := ⟨hlang, octets, hread, hdoc⟩
          unfold sortFile
          simp only
          split
          · rename_i fault hanswer
            exact .ended hopens hanswer _
          · rename_i es hanswer
            exact .finished hopens hanswer _

theorem fail_eq (p : Progress) (file : Path) (why : Text) :
    ∃ told, p.fail file why = { p with told := told, report := p.report.add file (.failed why) } := ⟨_, rfl⟩

theorem enter_eq (p : Progress) (file : Path) (language t : Text) (es : List Edit) (written : Bool) :
    ∃ told, p.enter file language t es written =
      { p with told := told
               report := p.report.add file (.found ⟨file, language, Row.ofEdits t es, written⟩) } := by
  unfold enter
  cases es.isEmpty <;> exact ⟨_, rfl⟩

theorem finishFile_eq (p : Progress) (current file : Path) (language t : Text) (es : Edit.Selection) :
    ∃ told, p.finishFile current file language t es =
      { p with
        tree := p.tree.writeAll current (Deed.ofEdits p.tree current p.report.mode file language t es).puts
        written := p.written ++ (Deed.ofEdits p.tree current p.report.mode file language t es).puts
        told := told
        report := p.report.add file (Deed.ofEdits p.tree current p.report.mode file language t es).account } := by
  -- what was told before does not matter
  obtain ⟨q, hq, htree, hcache, hreport, hwritten⟩ : ∃ q, p.tell (es.log.map .line) = q ∧ q.tree = p.tree ∧
      q.cache = p.cache ∧ q.report = p.report ∧ q.written = p.written := ⟨_, rfl, rfl, rfl, rfl, rfl⟩
  unfold finishFile
  dsimp only
  rw [hq, ← htree, ← hcache, ← hreport, ← hwritten]
  unfold Deed.ofEdits
  by_cases hwrites : (decide (q.report.mode = Mode.write) && !es.kept.isEmpty) = true
  · simp only [if_pos hwrites, change, put]
    cases Edit.apply t es.kept with
    | error f => simpa [FileTree.writeAll] using enter_eq q file language t es.kept true
    | ok u =>
      dsimp only
      rcases q.tree.save current file (Text.Utf8.encode u) with ⟨_ | held, _ | fault⟩
      · simpa [FileTree.writeAll] using enter_eq q file language t es.kept true
      · simpa [FileTree.writeAll] using fail_eq q file (fault.message file)
      · exact enter_eq _ file language t es.kept true
      · exact fail_eq _ file (fault.message file)
  · simp only [if_neg hwrites]
    simpa [FileTree.writeAll] using enter_eq q file language t es.kept false

section finishFile

variable (p : Progress) (current file : Path) (language t : Text) (es : Edit.Selection)

@[simp]
theorem finishFile_tree :
    (p.finishFile current file language t es).tree =
      p.tree.writeAll current (Deed.ofEdits p.tree current p.report.mode file language t es).puts := by
  obtain ⟨told, h⟩ := finishFile_eq p current file language t es
  rw [h]

@[simp]
theorem finishFile_puts :
    (p.finishFile current file language t es).written =
      p.written ++ (Deed.ofEdits p.tree current p.report.mode file language t es).puts := by
  obtain ⟨told, h⟩ := finishFile_eq p current file language t es
  rw [h]

@[simp]
theorem finishFile_cache : (p.finishFile current file language t es).cache = p.cache := by
  obtain ⟨told, h⟩ := finishFile_eq p current file language t es
  rw [h]

@[simp]
theorem finishFile_report :
    (p.finishFile current file language t es).report =
      p.report.add file (Deed.ofEdits p.tree current p.report.mode file language t es).account := by
  obtain ⟨told, h⟩ := finishFile_eq p current file language t es
  rw [h]

end finishFile

/-! ## All files -/

/-- What every visit keeps holds wherever a run has come to. -/
theorem files_keep {P : Progress → Prop} (hstep : ∀ p file, P p → P (p.file current s a file).1)
    (fs : List Path) (h : P p) :
    P (p.files current s a fs).1 := by
  induction fs generalizing p with
  | nil => exact h
  | cons f fs ih =>
    have hfirst := hstep p f h
    rw [files]
    split
    · rename_i hfile
      rwa [hfile] at hfirst
    · rename_i hfile
      rw [hfile] at hfirst
      exact ih hfirst

/-- Where a run has gone through files without a fault it goes on. -/
theorem files_append (h : p.files current s a fs = (p', none)) (gs : List Path) :
    p.files current s a (fs ++ gs) = p'.files current s a gs := by
  induction fs generalizing p with
  | nil =>
    obtain rfl := (Prod.mk.inj h).1
    rfl
  | cons f fs ih =>
    rw [files] at h
    rw [List.cons_append, files]
    split at h
    · cases h
    · exact ih h

/-- A run that a fault ended went through the files before without one. -/
theorem files_fault (h : p.files current s a fs = (p', some fault)) :
    ∃ before file rest q, fs = before ++ file :: rest ∧ p.files current s a before = (q, none) ∧
      q.file current s a file = (p', some fault) := by
  induction fs generalizing p with
  | nil => cases h
  | cons f fs ih =>
    rw [files] at h
    split at h
    · rename_i q fault' hfile
      exact ⟨[], f, fs, p, rfl, rfl, h ▸ hfile⟩
    · rename_i q hfile
      obtain ⟨before, file, rest, r, rfl, hbefore, hlast⟩ := ih h
      exact ⟨f :: before, file, rest, r, rfl, by rw [files, hfile]; exact hbefore, hlast⟩

end Progress

/-! ## The run -/

/-- The same arguments in another mode. -/
def Arguments.inMode (a : Arguments) (m : Mode) : Arguments := { a with mode := m }

theorem make_settings {set : Settings} {root : Path} {strict : Bool} {s : Service}
    (h : Service.make set root strict = .ok s) :
    s.settings = set ∧ s.root = root := by
  unfold Service.make at h
  split at h
  · obtain rfl := Except.ok.inj h
    exact ⟨rfl, rfl⟩
  · cases h

/-- A run has a workspace, settings and a service. -/
structure Serves (tree : FileTree) (current : Path) (a : Arguments) (s : Service) : Prop where
  root : workspaceFault? a = none
  settings : settings tree current a = .ok s.settings
  service : Service.make s.settings (workspace current a) a.strict = .ok s

/-- How a run starts. -/
def Progress.start (tree : FileTree) (a : Arguments) (told : List Told) : Progress :=
  ⟨tree, {}, ⟨a.mode, [], [], []⟩, told, []⟩

/-- What is told before the first file. -/
def opening (rules : List Told) (s : Service) : List Told :=
  rules ++ if s.settings.enable then [] else [Told.note "Class sorting is disabled in config".toList]

/-- Where a run with a service starts. -/
def Progress.first (tree : FileTree) (a : Arguments) (s : Service) : Progress :=
  Progress.start tree a (opening ((Registry.log s.settings).map .line) s)

/-- How a run ends that has gone through its files. -/
def Ending.after : Progress × Option ServiceFault → Ending
  | (p, some (.breakdown b)) => .broken b p.told p.written
  | (p, some (.build fault)) =>
    { status := 2, output := [], told := p.told ++ [.note ("ERROR: ".toList ++ fault.message)], written := p.written }
  | (p, none) => { status := p.report.exit, output := p.report.write, told := p.told, written := p.written }

theorem Ending.after_written (x : Progress × Option ServiceFault) : (Ending.after x).written = x.1.written := by
  unfold Ending.after
  split <;> rfl

theorem runWith_eq (tree : FileTree) (current : Path) (a : Arguments) (rules : List Told) (s : Service) :
    runWith tree current a rules s =
      .after ((Progress.start tree a (opening rules s)).files current s a a.files) := by
  unfold runWith Ending.after
  rfl

theorem run_of_serves {tree : FileTree} {current : Path} {a : Arguments} {s : Service} (h : Serves tree current a s) :
    run tree current a = runWith tree current a ((Registry.log s.settings).map .line) s := by
  unfold run
  rw [h.root, h.settings]
  simp only [h.service]

theorem run_eq {tree : FileTree} {current : Path} {a : Arguments} {s : Service} (h : Serves tree current a s) :
    run tree current a = .after ((Progress.first tree a s).files current s a a.files) := by
  rw [run_of_serves h, runWith_eq]
  rfl

/-- A run that has no service is refused before the first file. -/
theorem run_served (tree : FileTree) (current : Path) (a : Arguments) :
    (∃ s, Serves tree current a s) ∨
      (run tree current a).written = [] ∧ (run tree current a).output = [] ∧ (run tree current a).status ≠ 0 := by
  have hrefused : ∀ f told, (Ending.refused f told).written = [] ∧ (Ending.refused f told).output = [] ∧
      (Ending.refused f told).status ≠ 0 := by
    intro f told
    unfold Ending.refused
    split <;> simp [Ending.broken]
  unfold run
  cases hroot : workspaceFault? a with
  | some b => exact Or.inr ⟨rfl, rfl, Nat.one_ne_zero⟩
  | none =>
    cases hset : settings tree current a with
    | error f => exact Or.inr (hrefused f [])
    | ok set =>
      cases hmake : Service.make set (workspace current a) a.strict with
      | error f =>
        simp only [hmake]
        exact Or.inr (hrefused f _)
      | ok s =>
        obtain rfl := (make_settings hmake).1
        exact Or.inl ⟨s, hroot, hset, hmake⟩

/-! ## A workspace with a page -/

/-- A workspace of a rank table for two classes and a page. -/
def pageTree (page : String) : FileTree :=
  let table := "\x7b\"classes\":\x7b\"flex\":1,\"p-4\":2\x7d\x7d"
  (FileTree.empty.put ["class-order.json".toList] (.file (Text.Utf8.encode table.toList))).put
    ["page.html".toList] (.file (Text.Utf8.encode page.toList))

def pageArguments : Arguments := { files := [Path.read "page.html".toList] }

/-- The service of a workspace without settings of its own. -/
def defaultService (root : Path) : Service := ⟨Settings.default, root, Registry.lenient Settings.default⟩

theorem breakdown?_default : Registry.breakdown? Settings.default = none := by decide +kernel

theorem make_lenient {s : Settings} (h : Registry.breakdown? s = none) (root : Path) :
    Service.make s root false = .ok ⟨s, root, Registry.lenient s⟩ := by
  simp only [Service.make, Registry.build, h, Bool.false_and, Bool.false_eq_true, if_false]

/-- A run over files of a workspace without settings of its own has the default service. -/
theorem serves_default {tree : FileTree} (files : List Path) (mode : Mode)
    (hnone : tree.isFile ⟨.root, []⟩ (ownSettings ⟨.root, []⟩) = .ok false) :
    Serves tree ⟨.root, []⟩ { files := files, mode := mode } (defaultService ⟨.root, []⟩) := by
  have hroot : workspace ⟨.root, []⟩ { files := files, mode := mode } = ⟨.root, []⟩ := rfl
  refine ⟨rfl, ?_, ?_⟩
  · unfold settings
    simp only [hroot, hnone]
    rfl
  · rw [hroot]
    exact make_lenient breakdown?_default ⟨.root, []⟩

/-- What a run over a page comes to, without a look at the rules of the other languages. -/
theorem run_page (page : String) (mode : Mode)
    (hnone : (pageTree page).isFile ⟨.root, []⟩ (ownSettings ⟨.root, []⟩) = .ok false) :
    run (pageTree page) ⟨.root, []⟩ (pageArguments.inMode mode) =
      .after ((Progress.first (pageTree page) (pageArguments.inMode mode) (defaultService ⟨.root, []⟩)).files
        ⟨.root, []⟩ (defaultService ⟨.root, []⟩) (pageArguments.inMode mode) pageArguments.files) :=
  run_eq (serves_default _ _ hnone)

end Command

end ClassTidy
