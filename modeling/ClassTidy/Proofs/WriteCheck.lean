/-
  ClassTidy.Proofs.WriteCheck — what a check finds after a run that wrote.

  A run that ends well had settings and a service, and went through all its files without a
  fault (`run_cases`, `runWith_cases`). The check that follows has the same settings and the
  same service, since no file that the rules come from was written, and it goes through files
  that pass (`ClassTidy.Proofs.FileRun`).

  Not every document passes once its edits are made. An edit that lost to one that it overlaps
  is still to be made (`check_after_write_nested`). Proved (`check_after_write`): a run that
  wrote is followed by a check that finds nothing, if the documents are quiet.
-/
import ClassTidy.Proofs.FileRun

namespace ClassTidy.Command

/-! ## The run -/

/-- A run that ends well had a workspace, settings and a service. -/
theorem run_cases {tree : FileTree} {current : Path} {a : Arguments} (h : (run tree current a).status = 0) :
    workspaceFault? a = none ∧ ∃ s, settings tree current a = .ok s.settings ∧
      Service.make s.settings (workspace current a) a.strict = .ok s ∧
      run tree current a = runWith tree current a ((Registry.log s.settings).map .line) s := by
  rcases run_served tree current a with ⟨s, hs⟩ | ⟨-, -, hstatus⟩
  · exact ⟨hs.root, s, hs.settings, hs.service, run_of_serves hs⟩
  · exact absurd h hstatus

/-- A run goes through its files from the start on; if it ends well, all of them were read. -/
theorem runWith_cases {tree : FileTree} {current : Path} {a : Arguments} {rules : List Told} {s : Service}
    (h : (runWith tree current a rules s).status = 0) :
    ∃ told p, (Progress.start tree a told).files current s a a.files = (p, none) ∧ p.report.failed = [] ∧
      (runWith tree current a rules s).written = p.written := by
  rw [runWith_eq] at h ⊢
  generalize hfiles : (Progress.start tree a (opening rules s)).files current s a a.files = reached at h
  obtain ⟨p, fault⟩ := reached
  match fault, h with
  | none, h =>
    refine ⟨_, p, hfiles, ?_, Ending.after_written _⟩
    by_contra hfailed
    simp [Ending.after, Report.exit, hfailed] at h
  | some (.breakdown b), h => cases h
  | some (.build f), h => cases h

theorem runWith_files {tree : FileTree} {current : Path} {a : Arguments} (rules : List Told) {s : Service}
    {P : Report → Prop}
    (h : ∀ told, ∃ p, (Progress.start tree a told).files current s a a.files = (p, none) ∧ P p.report) :
    ∃ r, P r ∧ (runWith tree current a rules s).output = r.write ∧
      (runWith tree current a rules s).status = r.exit := by
  obtain ⟨p, hp, hr⟩ := h (opening rules s)
  rw [runWith_eq, hp]
  exact ⟨p.report, hr, rfl, rfl⟩

/-- A report of a check that found nothing. -/
theorem exit_clean {r : Report} (hfailed : r.failed = []) (hrows : ∀ f ∈ r.files, f.rows = []) :
    r.exit = 0 ∧ r.totalEdits = 0 := by
  have hchanged : r.changedFiles = 0 := List.countP_eq_zero.mpr fun f hf => by simp [hrows f hf]
  refine ⟨by simp [Report.exit, hfailed, hchanged], ?_⟩
  rw [Report.totalEdits, List.length_eq_zero_iff, List.flatMap_eq_nil_iff]
  exact hrows

/-- A run over files that all pass finds nothing. -/
theorem run_of_passes {tree : FileTree} {current : Path} {a : Arguments} {s : Service} (hscope : a.scope = .all)
    (hworkspace : workspaceFault? a = none) (hset : settings tree current a = .ok s.settings)
    (hmake : Service.make s.settings (workspace current a) a.strict = .ok s)
    (hpass : ∀ f ∈ a.files, Passes s a current (s.built tree current) tree f) :
    ∃ r : Report, r.totalEdits = 0 ∧ (run tree current a).output = r.write ∧ (run tree current a).status = 0 := by
  have hfiles : ∀ told, ∃ p, (Progress.start tree a told).files current s a a.files = (p, none) ∧
      (p.report.failed = [] ∧ ∀ x ∈ p.report.files, x.rows = []) := by
    intro told
    obtain ⟨p, hp, hidle⟩ :=
      Progress.files_idle (p := Progress.start tree a told) hscope hpass (Cache.keeps_empty _ _)
    exact ⟨p, hp, hidle.failed, fun x hx => (hidle.files x hx).resolve_left List.not_mem_nil⟩
  obtain ⟨r, ⟨hfailed, hrows⟩, houtput, hstatus⟩ := runWith_files ((Registry.log s.settings).map .line)
    (P := fun r => r.failed = [] ∧ ∀ x ∈ r.files, x.rows = []) hfiles
  obtain ⟨hzero, htotal⟩ := exit_clean hfailed hrows
  rw [run_of_serves ⟨hworkspace, hset, hmake⟩]
  exact ⟨r, htotal, houtput, hstatus.trans hzero⟩

/-- What a run over a file goes by: the service, the language of the file and its text. -/
structure Reads (tree : FileTree) (current : Path) (a : Arguments) (file : Path) (s : Service) (language t : Text) :
    Prop where
  settings : settings tree current a = .ok s.settings
  service : Service.make s.settings (workspace current a) a.strict = .ok s
  language : languageOf? a s file = some language
  document : ∃ octets, tree.read current file = .ok octets ∧ Progress.document octets = .ok t

/-! ## A page -/

/-- A class of a page is quiet if it has no quote, parenthesis, backslash or equals sign. -/
theorem html_quiet {n : Text} (h : (n.all fun c => !"\"'\\()=".toList.contains c) = true) : Fencing.html.Quiet n := by
  have hfree : ∀ c ∈ n, c ≠ '"' ∧ c ≠ '\'' ∧ c ≠ '\\' ∧ c ≠ '(' ∧ c ≠ ')' ∧ c ≠ '=' := by
    intro c hc
    have := List.all_eq_true.mp h c hc
    simpa using this
  have hfences : ∀ f ∈ Fencing.html.fences, '=' ∈ f.lead ∧ f.tail = [] := by
    simp [Fencing.html, Fencing.ofShapes, Shape.html, Shape.quoted, Shape.fence]
  refine ⟨fun c hc => ?_, level_plain fun c hc => ⟨(hfree c hc).2.2.2.1, (hfree c hc).2.2.2.2.1⟩,
    fun f hf hin => ?_,
    fun f hf p hp => ?_⟩
  · obtain ⟨hdouble, hsingle, hback, -⟩ := hfree c hc
    exact ⟨by simp [Fencing.html, Fencing.ofShapes, hdouble, hsingle], hback⟩
  · exact (hfree '=' (hin.subset (hfences f hf).1)).2.2.2.2.2 rfl
  · rw [(hfences f hf).2] at hp
    cases hp

/-- A page with the default settings is quiet if the classes found in it are, and have no wide blanks. -/
theorem quiet_page (root : Path) (table : RankTable) {page : Text} (ss : List Span)
    (hss : (⟨Settings.default, root, Registry.lenient Settings.default⟩ : Service).spansIn page "html".toList
      .all = .ok ss)
    (hwords : (ss.all fun x =>
      (ClassList.words x.classes).all fun n => n.all fun c => !"\"'\\()=".toList.contains c) = true)
    (hblanks : (ss.all fun x => x.classes.all fun c => !Text.isBlank c || ClassList.isSeparator c) = true) :
    (⟨Settings.default, root, Registry.lenient Settings.default⟩ :
      Service).Quiet .html table page "html".toList := by
  refine ⟨fun l hl => ?_, fun name hname c hc => ?_, fun us hus x hx n hn => ?_,
    fun us hus x hx => Or.inr (Or.inl fun c hc hb => ?_), Or.inl ?_⟩
  · have hrules : ((Registry.lenient Settings.default).language? "html".toList).map (·.rules) =
        some (Rule.usable Language.htmlRules) := by decide +kernel
    rw [show (Registry.lenient Settings.default).language? "html".toList = some l from hl] at hrules
    rw [show l.rules = Rule.usable Language.htmlRules from Option.some.inj hrules]
    exact Fencing.html_covers
  · have hnames : (Settings.default.functions.all fun name => name.all fun c => !"\"'".toList.contains c) = true := by
      decide +kernel
    have := List.all_eq_true.mp (List.all_eq_true.mp hnames name hname) c hc
    simpa [Fencing.html, Fencing.ofShapes] using this
  · obtain rfl := Except.ok.inj (hss.symm.trans hus)
    exact html_quiet (List.all_eq_true.mp (List.all_eq_true.mp hwords x hx) n hn)
  · obtain rfl := Except.ok.inj (hss.symm.trans hus)
    have := List.all_eq_true.mp (List.all_eq_true.mp hblanks x hx) c hc
    simpa [hb] using this
  · simp [Fencing.html, Fencing.ofShapes, Shape.html, Shape.quoted, Shape.fence]

/-- An attribute and a call, with a class twice and blanks to spare. -/
def loosePage : String := "<p class=\"p-4 flex\">cn('p-4  flex p-4')"

/-- The same page once it was written. -/
def tidyPage : String := "<p class=\"flex p-4\">cn('flex p-4')"

theorem serves_loose : Serves (pageTree loosePage) ⟨.root, []⟩ pageArguments (defaultService ⟨.root, []⟩) :=
  serves_default _ _ (by decide +kernel)

theorem separate_loose : Separate (pageTree loosePage) ⟨.root, []⟩ pageArguments := by
  have hpage : (pageTree loosePage).locate ⟨.root, []⟩ (Path.read "page.html".toList) =
      .ok ["page.html".toList] := by
    decide +kernel
  have hrules : ((ruleFiles (pageTree loosePage) ⟨.root, []⟩ pageArguments).all fun q =>
      (pageTree loosePage).locate ⟨.root, []⟩ q != .ok ["page.html".toList]) = true := by decide +kernel
  refine ⟨fun f hf g hg => Or.inl ((List.mem_singleton.mp hf).trans (List.mem_singleton.mp hg).symm),
    fun q hq f hf names hn => ?_⟩
  rw [List.mem_singleton.mp hf, hpage]
  rintro ⟨⟩
  simpa [hn] using List.all_eq_true.mp hrules q hq

theorem quiet_loose (s : Service) (language t : Text) (table : RankTable)
    (h : Reads (pageTree loosePage) ⟨.root, []⟩ pageArguments (Path.read "page.html".toList) s language t) :
    ∃ F : Fencing, s.Quiet F table t language := by
  obtain ⟨hset, hmake, hlang, octets, hread, hdoc⟩ := h
  rw [← Except.ok.inj (serves_loose.settings.symm.trans hset)] at hmake
  obtain rfl : ⟨Settings.default, ⟨.root, []⟩, Registry.lenient Settings.default⟩ = s :=
    Except.ok.inj (serves_loose.service.symm.trans hmake)
  have hhtml : languageOf? pageArguments ⟨Settings.default, ⟨.root, []⟩, Registry.lenient Settings.default⟩
      (Path.read "page.html".toList) = some "html".toList := by decide +kernel
  obtain rfl : "html".toList = language := Option.some.inj (hhtml.symm.trans hlang)
  have hpage : ((pageTree loosePage).read ⟨.root, []⟩
      (Path.read "page.html".toList)).toOption.map Progress.document =
      some (.ok loosePage.toList) := by decide +kernel
  rw [hread] at hpage
  obtain rfl : t = loosePage.toList := Except.ok.inj (hdoc.symm.trans (Option.some.inj hpage))
  exact ⟨.html, quiet_page _ table
    [⟨"class=\"p-4 flex\"".toList, "p-4 flex".toList, 3, 10, 18, .rule⟩,
      ⟨"'p-4  flex p-4'".toList, "p-4  flex p-4".toList, 23, 24, 37, .call⟩]
    (by decide +kernel) (by decide +kernel) (by decide +kernel)⟩

/-! ## Writing, then checking -/

/-- A check after a run that wrote finds nothing, if the documents are quiet: no document has edits once its edits are
made. What quiet documents ask of the rules, that they are fences, is so for every built-in language. -/
theorem check_after_write (tree : FileTree) (current : Path) (a : Arguments) (hscope : a.scope = .all)
    (hseparate : Separate tree current a) (hwrite : (run tree current (a.inMode .write)).status = 0)
    (hquiet : ∀ file ∈ a.files, ∀ s language t table, Reads tree current a file s language t →
      RankTable.build tree current s.root s.settings = .ok table → ∃ F : Fencing, s.Quiet F table t language) :
    (∃ r : Report, r.totalEdits = 0 ∧
      (run (tree.writeAll current (run tree current (a.inMode .write)).written) current
        (a.inMode .check)).output = r.write ∧
      (run (tree.writeAll current (run tree current (a.inMode .write)).written) current
        (a.inMode .check)).status = 0) ∧
    (∀ file ∈ a.files, ∀ s language t es, Reads tree current a file s language t →
      (s.editsIn tree current {} t language .all).value = .ok es →
      ∃ u, Edit.apply t es = .ok u ∧ (s.editsIn tree current {} u language .all).value = .ok []) ∧
    ∀ l ∈ Language.builtin, ∃ F : Fencing, F.Covers (Rule.usable l.rules) := by
  have hrescans : ∀ file ∈ a.files, ∀ s language t, Reads tree current a file s language t →
      ∀ table, s.built tree current = .ok table → s.Rescans table t language := by
    intro file hfile s language t hreads table htable
    obtain ⟨F, hF⟩ := hquiet file hfile s language t table hreads htable
    exact Service.rescans_of_quiet hF
  refine ⟨?_, ?_, Fencing.builtin_covered⟩
  case refine_2 =>
    intro file hfile s language t es hreads hes
    obtain ⟨octets, -, hdoc⟩ := hreads.document
    have hanswer : (s.editsIn tree current {} t language .all).answer false = .ok es := hes
    obtain ⟨-, u, hu, -, hclean⟩ := Service.editsIn_apply (Progress.document_plain hdoc) (Cache.keeps_empty _ _)
      (hrescans file hfile s language t hreads) hanswer
    exact ⟨u, hu, hclean.editsIn (Cache.keeps_empty _ _)⟩
  obtain ⟨hworkspace, s, hset, hmake, hrun⟩ := run_cases hwrite
  have hsort : Sortable tree current s (a.inMode .write) :=
    ⟨hscope, hset, (make_settings hmake).2, ⟨hseparate.files, hseparate.rules⟩,
      fun f hf language t table hopens => hrescans f hf s language t ⟨hset, hmake, hopens.language,
        hopens.document⟩ table⟩
  rw [hrun] at hwrite ⊢
  obtain ⟨told, p, hfiles, hfailed, hwritten⟩ := runWith_cases hwrite
  have hstart : Through tree current s (a.inMode .write) [] (Progress.start tree (a.inMode .write) told) :=
    ⟨fun _ h => absurd h List.not_mem_nil, rfl, rfl, Cache.keeps_empty _ _, .refl tree, fun _ _ => rfl,
      fun _ h => absurd h List.not_mem_nil⟩
  have hthrough := hstart.run hsort (fun _ h => h) hfiles hfailed
  rw [hwritten, ← hthrough.left]
  -- the check goes by the same rules, through files that pass
  refine run_of_passes (a := a.inMode .check) hscope hworkspace ?_ hmake fun f hf => ?_
  · exact (settings_of_reads hthrough.shape (hthrough.rules hsort.separate)).trans hset
  · rw [hthrough.built hsort]
    rcases hthrough.passes f (List.mem_append_left _ (List.mem_reverse.mpr hf)) with
      hskip | ⟨language, t, hopens, hclean⟩
    · exact .inl hskip
    · exact .inr ⟨language, t, ⟨hopens.language, hopens.document⟩, hclean⟩

/-- The loose page is written as the tidy one, and the check finds nothing in it. -/
theorem check_after_write_page :
    (run (pageTree loosePage) ⟨.root, []⟩ (pageArguments.inMode .write)).status = 0 ∧
    ∃ r : Report, r.totalEdits = 0 ∧
      (run (pageTree tidyPage) ⟨.root, []⟩ (pageArguments.inMode .check)).output = r.write ∧
      (run (pageTree tidyPage) ⟨.root, []⟩ (pageArguments.inMode .check)).status = 0 := by
  obtain ⟨hstatus, hleft⟩ : (run (pageTree loosePage) ⟨.root, []⟩ (pageArguments.inMode .write)).status = 0 ∧
      (pageTree loosePage).writeAll ⟨.root, []⟩
        (run (pageTree loosePage) ⟨.root, []⟩ (pageArguments.inMode .write)).written =
        pageTree tidyPage := by
    rw [run_page loosePage .write (by decide +kernel)]
    decide +kernel
  have happly := check_after_write (pageTree loosePage) ⟨.root, []⟩ pageArguments rfl separate_loose hstatus
    fun file hfile s language t table hreads _ =>
      quiet_loose s language t table (List.mem_singleton.mp hfile ▸ hreads)
  rw [hleft] at happly
  exact ⟨hstatus, happly.1⟩

/-- A call inside an attribute: the outer edit is made, and the inner one is found by the check. -/
theorem check_after_write_nested :
    (run (pageTree "<p class=\"p-4 cn('p-4 flex')\">") ⟨.root, []⟩ (pageArguments.inMode .write)).status = 0 ∧
    (run ((pageTree "<p class=\"p-4 cn('p-4 flex')\">").writeAll ⟨.root, []⟩
      (run (pageTree "<p class=\"p-4 cn('p-4 flex')\">") ⟨.root, []⟩
        (pageArguments.inMode .write)).written) ⟨.root, []⟩
      (pageArguments.inMode .check)).status = 1 := by
  have hrun := run_page "<p class=\"p-4 cn('p-4 flex')\">" .write (by decide +kernel)
  obtain ⟨hstatus, hleft⟩ :
      (run (pageTree "<p class=\"p-4 cn('p-4 flex')\">") ⟨.root, []⟩ (pageArguments.inMode .write)).status = 0 ∧
      (pageTree "<p class=\"p-4 cn('p-4 flex')\">").writeAll ⟨.root, []⟩
        (run (pageTree "<p class=\"p-4 cn('p-4 flex')\">") ⟨.root, []⟩ (pageArguments.inMode .write)).written =
        pageTree "<p class=\"cn('p-4 flex') p-4\">" := by
    rw [hrun]
    decide +kernel
  rw [hleft, run_page _ .check (by decide +kernel)]
  exact ⟨hstatus, by decide +kernel⟩

end ClassTidy.Command
