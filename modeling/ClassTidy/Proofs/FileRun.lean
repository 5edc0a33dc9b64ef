/-
  ClassTidy.Proofs.FileRun — a run that goes through files, one after the other.

  A document is clean if it has no edits by the table that is built for the run. A file
  passes if it is skipped or its document is clean: the run leaves it as it is and reports
  no edits for it (`file_idle`), and a run over files that pass is idle (`files_idle`).

  A run that writes makes files pass. One step through a file keeps what is known of the
  run so far (`Through.step`): the cache holds nothing but the table of the run, places
  that no file gone through leads to hold what they held, and every file gone through
  passes. A file named again passes already; any other one is read as it was when the run
  began, and its document, if it is quiet, is clean once its edits are made
  (`ClassTidy.Proofs.Rescan`). By induction over the files all of this holds of a whole run
  (`Through.run`).
-/
import ClassTidy.Proofs.Flights
import ClassTidy.Proofs.Rescan
import ClassTidy.Proofs.Visits

namespace ClassTidy

/-! ## The cache of a run -/

namespace Cache

variable {α ε : Type} {c : Cache α} {f : Fingerprint} {outcome : Except ε α}

/-- What is installed for a fingerprint is what its build gives. -/
def Keeps (c : Cache α) (f : Fingerprint) (outcome : Except ε α) : Prop :=
  ∀ a, c.table? f = some a → outcome = .ok a

theorem keeps_empty (f : Fingerprint) (outcome : Except ε α) :
    ({} : Cache α).Keeps f outcome := fun _ h => by cases h

theorem Keeps.finish (h : c.Keeps f outcome) : (c.finish f outcome).Keeps f outcome := by
  intro b hb
  rcases finish_installed_eq_some.mp (table?_eq_some.mp hb) with ⟨-, -, hout⟩ | ⟨-, hold⟩
  · exact hout
  · exact h b (table?_eq_some.mpr hold)

/-- A request is answered by what the build gives, now or when it was installed. -/
theorem Keeps.fetch (h : c.Keeps f outcome) :
    (c.fetch f fun _ => outcome).1 = outcome ∧ (c.fetch f fun _ => outcome).2.Keeps f outcome := by
  have hreq := c.requested f
  unfold Cache.fetch
  generalize c.request f = reply at hreq
  cases hreq with
  | ready a installed => exact ⟨(h a (table?_eq_some.mpr installed)).symm, h⟩
  | joined x => exact ⟨rfl, Keeps.finish (c := { c with latest := some f }) h⟩
  | started => exact ⟨rfl, Keeps.finish (c := { c with latest := some f, flights := _, started := _ }) h⟩

end Cache

namespace Service

variable {s : Service} {tree : FileTree} {current : Path} {cache : Cache RankTable} {t language : Text}

/-- The table of a run, as it is built from the files. -/
def built (s : Service) (tree : FileTree) (current : Path) : Except BuildFault RankTable :=
  RankTable.build tree current s.root s.settings

theorem table_kept (h : cache.Keeps (s.fingerprint current) (s.built tree current)) :
    (s.table tree current cache).1 = s.built tree current ∧
      (s.table tree current cache).2.Keeps (s.fingerprint current) (s.built tree current) := h.fetch

theorem editsIn_kept (h : cache.Keeps (s.fingerprint current) (s.built tree current)) (t language : Text)
    (scope : Scope) :
    (s.editsIn tree current cache t language scope).cache.Keeps (s.fingerprint current) (s.built tree current) := by
  have htable := (table_kept h).2
  unfold editsIn
  cases s.spansIn t language scope with
  | error b => exact h
  | ok ss =>
    simp only [edits]
    split
    · exact h
    · cases hfound : s.table tree current cache with
      | mk value cache' =>
        rw [hfound] at htable
        cases value <;> exact htable

/-! ## Ranks in words -/

/-- There are words for the ranks of a class string. -/
def Says (s : Service) (table : RankTable) (t : Text) : Prop := (s.sortLog table t).unsaid? = none

theorem says_iff {table : RankTable} :
    s.Says table t ↔ ∀ names, ClassList.query? s.settings.options t = some names →
    ∀ n ∈ names, (table.rank n).isTooWide = false := by
  have hmark : ∀ (i : Nat) (names : List Text), (Ranked.markFrom table.rank i names).any (·.rank.isTooWide) =
      names.any fun n => (table.rank n).isTooWide := by
    intro i names
    induction names generalizing i with
    | nil => rfl
    | cons n names ih => simp only [Ranked.markFrom, List.any_cons, ih]
  unfold Says sortLog Log.unsaid?
  cases ClassList.query? s.settings.options t with
  | none =>
    refine iff_of_true ?_ (fun _ h => by cases h)
    simp only [List.nil_append]
    split <;> rfl
  | some names =>
    simp only [Option.some.injEq, forall_eq', Ranked.trace, Ranked.mark, hmark]
    cases hwide : names.any fun n => (table.rank n).isTooWide with
    | true =>
      obtain ⟨n, hn, hn'⟩ := List.any_eq_true.mp hwide
      refine iff_of_false (fun h => by cases h) fun h => ?_
      rw [h n hn] at hn'
      cases hn'
    | false =>
      refine iff_of_true ?_ fun n hn => by simpa using List.any_eq_false.mp hwide n hn
      rw [if_neg Bool.false_ne_true]
      split <;> rfl

/-- The classes of a canonical form are asked for with those of the text. -/
theorem query?_normal {table : RankTable} {names : List Text}
    (hsettles : ClassList.Settles table s.settings.options t)
    (h : ClassList.query? s.settings.options (s.normal table t) = some names) :
    ∃ all, ClassList.query? s.settings.options t = some all ∧ ∀ n ∈ names, n ∈ all := by
  have hheld : ∀ u, (ClassList.hold s.settings.options u).middle.tokens = (ClassList.split u).tokens := by
    intro u
    simp only [ClassList.hold, s.options_hold.1, s.options_hold.2, Bool.false_eq_true, if_false]
    split <;> rfl
  unfold ClassList.query? at h ⊢
  rcases hsettles.cases s.options_hold.1 s.options_hold.2 with hfixed | ⟨hfixed, l, hcanonical, hjoin, hsub⟩
  · rw [Service.normal, ClassList.fixed?_fixed hfixed] at h
    cases h
  · refine ⟨_, by rw [hfixed], fun n hn => ?_⟩
    split at h
    · cases h
    · obtain rfl := Option.some.inj h
      rw [hheld, Service.normal, hjoin, ClassList.split_join hcanonical.wellFormed] at hn
      rw [hheld]
      exact hsub n hn

theorem Says.normal {table : RankTable} (h : s.Says table t) (hsettles : ClassList.Settles table s.settings.options t) :
    s.Says table (s.normal table t) := by
  rw [says_iff] at h ⊢
  intro names hnames n hn
  obtain ⟨all, hall, hsub⟩ := query?_normal hsettles hnames
  exact h all hall n (hsub n hn)

theorem unsaid?_eq_none {table : RankTable} {ss : List Span} :
    Log.unsaid? (ss.flatMap fun x => s.sortLog table x.classes) = none ↔ ∀ x ∈ ss, s.Says table x.classes := by
  simp only [Log.unsaid?, Says, List.findSome?_eq_none_iff, List.mem_flatMap]
  exact ⟨fun h x hx l hl => h l ⟨x, hx, hl⟩, fun h l hl => by obtain ⟨x, hx, hl⟩ := hl; exact h x hx l hl⟩

/-! ## Clean documents -/

/-- A document that has no edits: nothing is found in it, or all that is found is in its canonical form. If all is
told, there are words for it. -/
def Clean (s : Service) (outcome : Except BuildFault RankTable) (verbose : Bool) (t language : Text) : Prop :=
  ∃ ss, s.spansIn t language .all = .ok ss ∧
    (ss = [] ∨ ∃ table, outcome = .ok table ∧ s.editsWith table ss = [] ∧
    (verbose = true → ∀ x ∈ ss, s.Says table x.classes))

theorem Clean.editsIn {verbose : Bool} (h : s.Clean (s.built tree current) verbose t language)
    (hkeeps : cache.Keeps (s.fingerprint current) (s.built tree current)) :
    (s.editsIn tree current cache t language .all).answer verbose = .ok [] := by
  rw [Outcome.answer_eq_ok]
  obtain ⟨ss, hss, rfl | ⟨table, htable, hnone, hsaid⟩⟩ := h
  · rw [Service.editsIn, hss]
    exact ⟨fun _ => rfl, rfl⟩
  · have hobtained := (table_kept hkeeps).1.trans htable
    rw [editsIn_unsaid? hss hobtained, editsIn_of_spans hss hobtained, hnone, unsaid?_eq_none]
    exact ⟨hsaid, rfl⟩

/-- Stable canonical forms need no edits. -/
theorem editsWith_canonical {table : RankTable} {us : List Span}
    (h : ∀ x ∈ us, ∃ y : Span, x.classes = s.normal table y.classes ∧
      ClassList.Settles table s.settings.options y.classes) : s.editsWith table us = [] := by
  refine List.filterMap_eq_nil_iff.mpr fun x hx => ?_
  obtain ⟨y, hy, hsettles⟩ := h x hx
  have hstable := hsettles.normalize s.options_hold.1 s.options_hold.2
  unfold edit?
  simp only
  rw [if_pos]
  rw [hy]
  exact hstable

/-- The edits of a document can be made, and leave a clean one if its class strings are found again where they are
put. -/
theorem editsIn_apply {es : List Edit} {verbose : Bool} (ht : ∀ c ∈ t, c ≠ '\r')
    (hkeeps : cache.Keeps (s.fingerprint current) (s.built tree current))
    (hrescans : ∀ table, s.built tree current = .ok table → s.Rescans table t language)
    (hes : (s.editsIn tree current cache t language .all).answer verbose = .ok es) :
    (∀ e ∈ es, e.start ≤ e.stop) ∧
      ∃ u, Edit.apply t es = .ok u ∧ (∀ c ∈ u, c ≠ '\r') ∧
        s.Clean (s.built tree current) verbose u language := by
  obtain ⟨hsaid, hvalue⟩ := Outcome.answer_eq_ok.mp hes
  obtain ⟨ss, hss, ⟨rfl, rfl⟩ | ⟨table, htable, rfl⟩⟩ := editsIn_cases hvalue
  · exact ⟨fun _ h => absurd h List.not_mem_nil, t, rfl, ht, [], hss, Or.inl rfl⟩
  rw [editsIn_unsaid? hss htable, unsaid?_eq_none] at hsaid
  rw [(table_kept hkeeps).1] at htable
  have hfits : ∀ e ∈ s.editsWith table ss, e.Fits t table.ranker s.settings.options :=
    fits_of_editsWith (placed_of_spansIn hss)
  obtain ⟨u, hu, hspliced⟩ := Edit.apply_spliced (fun e he => (hfits e he).startLe) fun e he => (hfits e he).stopLe
  refine ⟨fun e he => (hfits e he).startLe, u, hu, plain_of_fits ht hfits hspliced, ?_⟩
  obtain ⟨us, hus, hold⟩ := hrescans table htable ss u hss hu
  refine ⟨us, hus, Or.inr ⟨table, htable, editsWith_canonical fun x hx => ?_, fun hverbose x hx => ?_⟩⟩
  · obtain ⟨y, -, hy⟩ := hold x hx
    exact ⟨y, hy⟩
  · obtain ⟨y, hy, hclasses, hsettles⟩ := hold x hx
    rw [hclasses]
    exact (hsaid hverbose y hy).normal hsettles

end Service

namespace Command

/-- A file that a run leaves alone: it is skipped, or its document is clean. -/
def Passes (s : Service) (a : Arguments) (current : Path) (outcome : Except BuildFault RankTable) (tree : FileTree)
    (file : Path) : Prop :=
  (languageOf? a s file = none ∨ tree.isFile current file = .ok false) ∨
    ∃ language t, Opens tree current s a file language t ∧ s.Clean outcome a.verbose t language

theorem Passes.of_read {s : Service} {a : Arguments} {current : Path} {outcome : Except BuildFault RankTable}
    {tree tree' : FileTree} {file : Path} (h : Passes s a current outcome tree file)
    (hshape : FileTree.SameShape tree tree') (hread : tree'.read current file = tree.read current file) :
    Passes s a current outcome tree' file := by
  rcases h with hskip | ⟨language, t, hopens, hclean⟩
  · exact .inl (hskip.imp_right fun hfile => (FileTree.isFile_of_sameShape hshape current file).symm.trans hfile)
  · exact .inr ⟨language, t, ⟨hopens.language, hread ▸ hopens.document⟩, hclean⟩

theorem Report.failed_of_add {r : Report} {file : Path} {x : Account} (h : (r.add file x).failed = []) :
    r.failed = [] := by
  cases x with
  | failed why => exact (List.append_eq_nil_iff.mp h).1
  | skipped | found => exact h

namespace Progress

variable {tree : FileTree} {current : Path} {s : Service} {a : Arguments} {file : Path} {p p' : Progress}

/-! ## One file -/

/-- A file that a run goes through without a fault is skipped, fails to be a text, or is finished. -/
theorem file_cases (hscope : a.scope = .all) (h : p.file current s a file = (p', none)) :
    (languageOf? a s file = none ∨ p.tree.isFile current file = .ok false) ∨
    (∃ x, p'.report.failed = p.report.failed ++ [x]) ∨
    ∃ language t es told, Opens p.tree current s a file language t ∧
      (s.editsIn p.tree current p.cache t language .all).answer a.verbose = .ok es ∧
      p' = finishFile { p with cache := (s.editsIn p.tree current p.cache t language .all).cache, told := told }
        current file language t (Edit.select es) := by
  have hvisited := visited p current s a file
  rw [h] at hvisited
  cases hvisited with
  | skipped why reason => exact Or.inl reason
  | failed language reason => exact Or.inr (Or.inl ⟨_, rfl⟩)
  | finished opens answer told =>
    simp only [edits, hscope] at answer ⊢
    exact Or.inr (Or.inr ⟨_, _, _, told, opens, answer, rfl⟩)

theorem file_skipped (h : languageOf? a s file = none ∨ p.tree.isFile current file = .ok false) :
    ∃ why, p.file current s a file = (p.skip file why, none) := by
  unfold Progress.file
  simp only
  split
  · exact ⟨_, rfl⟩
  · rename_i hlang
    rcases h with h | hfile
    · exact absurd (h.symm.trans hlang) (by simp)
    · rw [hfile]
      exact ⟨_, rfl⟩

theorem file_sorted (hscope : a.scope = .all) {language t : Text} {es : List Edit}
    (hopens : Opens p.tree current s a file language t)
    (hes : (s.editsIn p.tree current p.cache t language .all).answer a.verbose = .ok es) :
    ∃ told, p.file current s a file =
      (finishFile { p with cache := (s.editsIn p.tree current p.cache t language .all).cache, told := told }
        current file language t (Edit.select es), none) := by
  have hlang := hopens.language
  obtain ⟨octets, hread, hdoc⟩ := hopens.document
  unfold Progress.file
  unfold languageOf? at hlang
  simp only [hlang, hopens.isFile, hread, hdoc, sortFile, edits, hscope, hes]
  exact ⟨_, rfl⟩

/-- Files that could not be read or written stay in the report. -/
theorem failed_of_file (h : p.file current s a file = (p', none)) (hp' : p'.report.failed = []) :
    p.report.failed = [] := by
  have hvisited := visited p current s a file
  rw [h] at hvisited
  cases hvisited with
  | skipped => exact hp'
  | failed => exact (List.append_eq_nil_iff.mp hp').1
  | finished =>
    rw [finishFile_report] at hp'
    exact Report.failed_of_add hp'

theorem failed_of_files {fs : List Path} (h : p.files current s a fs = (p', none)) (hp' : p'.report.failed = []) :
    p.report.failed = [] := by
  induction fs generalizing p with
  | nil =>
    obtain rfl := (Prod.mk.inj h).1
    exact hp'
  | cons f fs ih =>
    rw [files] at h
    split at h
    · cases h
    · rename_i hfile
      exact failed_of_file hfile (ih h)

/-! ## Files that pass -/

/-- A run has gone on and changed nothing: no file is written, and none that is reported has edits. -/
structure Idle (p p' : Progress) : Prop where
  tree : p'.tree = p.tree
  written : p'.written = p.written
  mode : p'.report.mode = p.report.mode
  failed : p'.report.failed = p.report.failed
  files : ∀ x ∈ p'.report.files, x ∈ p.report.files ∨ x.rows = []

theorem Idle.refl (p : Progress) : Idle p p := ⟨rfl, rfl, rfl, rfl, fun _ hx => Or.inl hx⟩

theorem Idle.trans {q : Progress} (h : Idle p q) (h' : Idle q p') : Idle p p' :=
  ⟨h'.tree.trans h.tree, h'.written.trans h.written, h'.mode.trans h.mode, h'.failed.trans h.failed,
    fun x hx => (h'.files x hx).elim (h.files x) Or.inr⟩

/-- A file that passes is left as it is. -/
theorem file_idle (hscope : a.scope = .all) (hpass : Passes s a current (s.built p.tree current) p.tree file)
    (hkeeps : p.cache.Keeps (s.fingerprint current) (s.built p.tree current)) :
    ∃ p', p.file current s a file = (p', none) ∧ Idle p p' ∧
      p'.cache.Keeps (s.fingerprint current) (s.built p.tree current) := by
  rcases hpass with hskip | ⟨language, t, hopens, hclean⟩
  · obtain ⟨why, hfile⟩ := file_skipped hskip
    exact ⟨_, hfile, ⟨rfl, rfl, rfl, rfl, fun _ hx => Or.inl hx⟩, hkeeps⟩
  obtain ⟨told, hfile⟩ := file_sorted hscope hopens (hclean.editsIn hkeeps)
  refine ⟨_, hfile, ⟨?_, ?_, ?_, ?_, fun x hx => ?_⟩, ?_⟩
  · rw [finishFile_tree, Deed.ofEdits_nil]
    rfl
  · rw [finishFile_puts, Deed.ofEdits_nil, List.append_nil]
  · rw [finishFile_report, Report.add_mode]
  · rw [finishFile_report, Deed.ofEdits_nil]
    rfl
  · rw [finishFile_report, Deed.ofEdits_nil] at hx
    rcases List.mem_append.mp hx with hx | hx
    · exact Or.inl hx
    · rw [List.mem_singleton.mp hx]
      exact Or.inr rfl
  · rw [finishFile_cache]
    exact Service.editsIn_kept hkeeps t language .all

/-- A run over files that pass is idle. -/
theorem files_idle (hscope : a.scope = .all) {fs : List Path}
    (hpass : ∀ f ∈ fs, Passes s a current (s.built p.tree current) p.tree f)
    (hkeeps : p.cache.Keeps (s.fingerprint current) (s.built p.tree current)) :
    ∃ p', p.files current s a fs = (p', none) ∧ Idle p p' := by
  induction fs generalizing p with
  | nil => exact ⟨p, rfl, .refl p⟩
  | cons f fs ih =>
    obtain ⟨q, hfile, hidle, hkeeps'⟩ := file_idle hscope (hpass f List.mem_cons_self) hkeeps
    rw [← hidle.tree] at hkeeps' hpass
    obtain ⟨p', hfiles, hidle'⟩ := ih (fun g hg => hpass g (List.mem_cons_of_mem f hg)) hkeeps'
    exact ⟨p', by rw [files, hfile]; exact hfiles, hidle.trans hidle'⟩

/-! ## Files that are written -/

/-- A file that is finished in write mode and does not fail holds the text with its edits made, and the other files
hold what they held. -/
theorem finishFile_written (language : Text) {t u : Text} {es : List Edit}
    (hfile : ∃ octets, p.tree.read current file = .ok octets ∧ document octets = .ok t)
    (hu : Edit.apply t es = .ok u) (hle : ∀ e ∈ es, e.start ≤ e.stop) (hplain : ∀ c ∈ u, c ≠ '\r')
    (hmode : p.report.mode = .write)
    (hok : (p.finishFile current file language t (Edit.select es)).report.failed = []) :
    (∃ octets', (p.finishFile current file language t (Edit.select es)).tree.read current file = .ok octets' ∧
      document octets' = .ok u) ∧
    FileTree.SameShape p.tree (p.finishFile current file language t (Edit.select es)).tree ∧
    ∀ q, p.tree.Apart current q file →
      (p.finishFile current file language t (Edit.select es)).tree.read current q = p.tree.read current q := by
  rw [finishFile_report] at hok
  rw [finishFile_tree]
  simp only [Deed.ofEdits, hmode, Edit.apply_kept hle, hu] at hok ⊢
  cases hk : (Edit.select es).kept with
  | nil =>
    obtain rfl : u = t := by
      rw [Edit.apply, hk] at hu
      exact (Except.ok.inj hu).symm
    exact ⟨hfile, .refl _, fun _ _ => rfl⟩
  | cons e rest =>
    obtain ⟨octets, hread, -⟩ := hfile
    have hreadable : p.tree.Readable current file := ⟨octets, hread⟩
    rw [hk] at hok
    rcases hsave : p.tree.save current file (Text.Utf8.encode u) with ⟨held, _ | f⟩
    · obtain rfl := FileTree.save_done hsave
      exact ⟨⟨_, FileTree.read_write hreadable _, document_encode hplain⟩, FileTree.sameShape_write hreadable _,
        fun q hq => FileTree.read_write_apart hreadable _ hq⟩
    · simp [hsave, Report.add] at hok

end Progress

/-! ## A run that writes -/

/-- The files that the settings and the table of a run come from: what it reads besides its files. -/
def ruleFiles (tree : FileTree) (current : Path) (a : Arguments) : List Path :=
  reads tree current { a with files := [] }

theorem load_of_read {tree tree' : FileTree} {current q : Path} (h : tree'.read current q = tree.read current q) :
    Settings.load tree' current q = Settings.load tree current q ∧
      RankTable.load tree' current q = RankTable.load tree current q := by
  simp only [Settings.load, RankTable.load, h, and_self]

theorem settings_of_reads {tree tree' : FileTree} {current : Path} {a : Arguments}
    (hshape : FileTree.SameShape tree tree')
    (h : ∀ q ∈ ruleFiles tree current a, tree'.read current q = tree.read current q) :
    settings tree' current a = settings tree current a := by
  unfold settings
  cases hconfig : a.config with
  | value p =>
    have hown : p ∈ ruleFiles tree current a := by
      simp only [ruleFiles, reads, hconfig]
      split <;> exact List.mem_cons_self
    exact (load_of_read (h p hown)).1
  | blank => rfl
  | absent =>
    have hown : ownSettings (workspace current a) ∈ ruleFiles tree current a := by
      simp only [ruleFiles, reads, hconfig]
      split <;> exact List.mem_cons_self
    simp only [(load_of_read (h _ hown)).1, FileTree.isFile_of_sameShape hshape]

theorem search_of_sameShape {tree tree' : FileTree} (hshape : FileTree.SameShape tree tree') (current : Path)
    (qs : List Path) :
    RankTable.search tree' current qs = RankTable.search tree current qs := by
  induction qs with
  | nil => rfl
  | cons q qs ih => simp only [RankTable.search, FileTree.isFile_of_sameShape hshape, ih]

theorem mem_of_search {tree : FileTree} {current q : Path} {qs : List Path}
    (h : RankTable.search tree current qs = .ok (some q)) : q ∈ qs := by
  induction qs with
  | nil => cases h
  | cons p qs ih =>
    rw [RankTable.search] at h
    split at h
    · cases h
    · cases h
      exact List.mem_cons_self
    · exact List.mem_cons_of_mem _ (ih h)

theorem build_of_reads {tree tree' : FileTree} {current root : Path} {set : Settings}
    (hshape : FileTree.SameShape tree tree')
    (h : ∀ q ∈ (if set.tablePath.isEmpty then RankTable.usualPlaces.map root.under
        else [root.under (Path.read set.tablePath)]), tree'.read current q = tree.read current q) :
    RankTable.build tree' current root set = RankTable.build tree current root set := by
  unfold RankTable.build RankTable.path RankTable.discover
  rw [search_of_sameShape hshape]
  cases hempty : set.tablePath.isEmpty with
  | true =>
    simp only [hempty, if_true] at h ⊢
    rcases hq : RankTable.search tree current (RankTable.usualPlaces.map root.under) with ⟨q, f⟩ | _ | q
    · rfl
    · rfl
    · simp only [(load_of_read (h q (mem_of_search hq))).2]
  | false =>
    simp only [hempty, Bool.false_eq_true, if_false, List.mem_singleton, forall_eq] at h ⊢
    simp only [(load_of_read h).2]

theorem built_of_reads {tree tree' : FileTree} {current : Path} {a : Arguments} {s : Service}
    (hshape : FileTree.SameShape tree tree') (hset : settings tree current a = .ok s.settings)
    (hroot : s.root = workspace current a)
    (h : ∀ q ∈ ruleFiles tree current a, tree'.read current q = tree.read current q) :
    s.built tree' current = s.built tree current := by
  refine build_of_reads hshape fun q hq => h q ?_
  have hset' : settings tree current { a with files := [] } = .ok s.settings := hset
  simp only [ruleFiles, reads, hset', List.append_nil]
  rw [hroot] at hq
  exact List.mem_cons_of_mem _ hq

/-- No file has two names, and none is a file that the rules come from. -/
structure Separate (tree : FileTree) (current : Path) (a : Arguments) : Prop where
  files : ∀ f ∈ a.files, ∀ g ∈ a.files, f = g ∨ tree.Apart current f g
  rules : ∀ q ∈ ruleFiles tree current a, ∀ f ∈ a.files, tree.Apart current q f

/-- A run over whole files whose class strings are found again where they are put. -/
structure Sortable (tree : FileTree) (current : Path) (s : Service) (a : Arguments) : Prop where
  scope : a.scope = .all
  settings : settings tree current a = .ok s.settings
  root : s.root = workspace current a
  separate : Separate tree current a
  rescans : ∀ f ∈ a.files, ∀ language t table, Opens tree current s a f language t →
    s.built tree current = .ok table →
    s.Rescans table t language

/-- How far a run that writes has come: all places but those of the files gone through are as they were, and the files
gone through pass. -/
structure Through (tree : FileTree) (current : Path) (s : Service) (a : Arguments) (done : List Path) (p : Progress) :
    Prop where
  among : ∀ f ∈ done, f ∈ a.files
  mode : p.report.mode = .write
  left : p.tree = tree.writeAll current p.written
  cache : p.cache.Keeps (s.fingerprint current) (s.built tree current)
  shape : FileTree.SameShape tree p.tree
  others : ∀ q, (∀ f ∈ done, tree.Apart current q f) → p.tree.read current q = tree.read current q
  passes : ∀ f ∈ done, Passes s a current (s.built tree current) p.tree f

namespace Through

variable {tree : FileTree} {current : Path} {s : Service} {a : Arguments}
  {done : List Path} {p p' : Progress} {file : Path}

theorem rules (h : Through tree current s a done p) (hsep : Separate tree current a) :
    ∀ q ∈ ruleFiles tree current a, p.tree.read current q = tree.read current q :=
  fun q hq => h.others q fun f hf => hsep.rules q hq f (h.among f hf)

theorem built (h : Through tree current s a done p) (hs : Sortable tree current s a) :
    s.built p.tree current = s.built tree current := built_of_reads h.shape hs.settings hs.root (h.rules hs.separate)

/-- A file that passes is gone through. -/
theorem idle (h : Through tree current s a done p) (hs : Sortable tree current s a) (hfile : file ∈ a.files)
    (hpass : Passes s a current (s.built tree current) p.tree file) (hrun : p.file current s a file = (p', none)) :
    Through tree current s a (file :: done) p' := by
  have hcache := h.cache
  rw [← h.built hs] at hpass hcache
  obtain ⟨q, hq, hidle, hkeeps⟩ := Progress.file_idle hs.scope hpass hcache
  obtain rfl : p' = q := (Prod.mk.inj (hrun.symm.trans hq)).1
  rw [h.built hs] at hpass hkeeps
  refine ⟨List.forall_mem_cons.mpr ⟨hfile, h.among⟩, hidle.mode.trans h.mode, ?_, hkeeps, ?_, ?_, ?_⟩
  · rw [hidle.tree, hidle.written]
    exact h.left
  · rw [hidle.tree]
    exact h.shape
  · intro q hq
    rw [hidle.tree]
    exact h.others q (List.forall_mem_cons.mp hq).2
  · rw [hidle.tree]
    exact List.forall_mem_cons.mpr ⟨hpass, h.passes⟩

/-- One file further. -/
theorem step (h : Through tree current s a done p) (hs : Sortable tree current s a) (hfile : file ∈ a.files)
    (hrun : p.file current s a file = (p', none)) (hok : p'.report.failed = []) :
    Through tree current s a (file :: done) p' := by
  rcases Progress.file_cases hs.scope hrun with hskip | ⟨x, hx⟩ | ⟨language, t, es, told, hopens, hes, rfl⟩
  · exact h.idle hs hfile (.inl hskip) hrun
  · rw [hx] at hok
    exact absurd hok (by simp)
  by_cases hagain : file ∈ done
  · exact h.idle hs hfile (h.passes file hagain) hrun
  -- the file is read as it was when the run began
  have hapart : ∀ f ∈ done, tree.Apart current file f := fun f hf =>
    (hs.separate.files file hfile f (h.among f hf)).resolve_left fun e => hagain (e ▸ hf)
  have hopens' : Opens tree current s a file language t :=
    ⟨hopens.language, h.others file hapart ▸ hopens.document⟩
  obtain ⟨octets, -, hdoc⟩ := hopens.document
  have hcache := h.cache
  rw [← h.built hs] at hcache
  obtain ⟨hle, u, hu, hplain, hclean⟩ := Service.editsIn_apply (Progress.document_plain hdoc) hcache
    (fun table htable => hs.rescans file hfile language t table hopens' ((h.built hs).symm.trans htable)) hes
  rw [h.built hs] at hclean
  have hkeeps := Service.editsIn_kept hcache t language .all
  generalize hq : ({ p with cache := (s.editsIn p.tree current p.cache t language .all).cache, told := told } :
    Progress) = q at hok
  have hqtree : q.tree = p.tree := by rw [← hq]
  have hqmode : q.report.mode = .write := by rw [← hq]; exact h.mode
  have hqleft : q.tree = tree.writeAll current q.written := by rw [← hq]; exact h.left
  have hqcache : q.cache.Keeps (s.fingerprint current) (s.built tree current) := by
    rw [← hq, ← h.built hs]; exact hkeeps
  obtain ⟨hnew, hshape, hother⟩ :=
    Progress.finishFile_written language (hqtree ▸ hopens.document) hu hle hplain hqmode hok
  rw [hqtree] at hshape
  have hframe : ∀ g, tree.Apart current g file →
      (q.finishFile current file language t (Edit.select es)).tree.read current g = p.tree.read current g := by
    intro g hg
    rw [hother g (hqtree ▸ FileTree.apart_of_sameShape h.shape hg), hqtree]
  refine ⟨List.forall_mem_cons.mpr ⟨hfile, h.among⟩,
    by rw [Progress.finishFile_report, Report.add_mode]; exact hqmode, ?_,
    by rw [Progress.finishFile_cache]; exact hqcache, h.shape.trans hshape, ?_, ?_⟩
  · rw [Progress.finishFile_tree, Progress.finishFile_puts, FileTree.writeAll_append, ← hqleft]
  · intro g hg
    obtain ⟨hgfile, hgdone⟩ := List.forall_mem_cons.mp hg
    rw [hframe g hgfile, h.others g hgdone]
  · refine List.forall_mem_cons.mpr ⟨.inr ⟨language, u, ⟨hopens.language, hnew⟩, hclean⟩, fun g hg => ?_⟩
    have hgfile : tree.Apart current g file :=
      (hs.separate.files g (h.among g hg) file hfile).resolve_left fun e => hagain (e ▸ hg)
    exact (h.passes g hg).of_read hshape (hframe g hgfile)

/-- All files. -/
theorem run (h : Through tree current s a done p) (hs : Sortable tree current s a) {fs : List Path}
    (hfiles : ∀ f ∈ fs, f ∈ a.files) (hrun : p.files current s a fs = (p', none)) (hok : p'.report.failed = []) :
    Through tree current s a (fs.reverse ++ done) p' := by
  induction fs generalizing done p with
  | nil =>
    obtain rfl := (Prod.mk.inj hrun).1
    exact h
  | cons f fs ih =>
    rw [Progress.files] at hrun
    split at hrun
    · cases hrun
    · rename_i q hfile
      obtain ⟨hf, hfs⟩ := List.forall_mem_cons.mp hfiles
      have hstep := h.step hs hf hfile (Progress.failed_of_files hrun hok)
      have hrest := ih hstep hfs hrun
      rwa [List.reverse_cons, List.append_assoc]

end Through

end Command

end ClassTidy
