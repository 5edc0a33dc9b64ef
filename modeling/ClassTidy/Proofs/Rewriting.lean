/-
  ClassTidy.Proofs.Rewriting — what a run does to the files.

  A run gives an account of every file it has gone through, and its report is made of these
  (`Report.ofAccounts`). An account says what became of the file (`Handled`): it is left as it
  was, or it is written anew. Then its text, with every way to end a line made a newline, has
  the new texts in the ranges that are reported, and nothing else of it has changed. A file
  fails if it cannot be read or is no text, and then it is left as it was. It also fails if it
  cannot be written, and then it is left as it was if writing did not begin, and else it holds
  the first part of what was to be written.

  One visit is handled so (`Progress.file_handled`), and by induction over the files all of a
  run is (`Progress.files_handled`). Files in other places hold what they held
  (`GoneThrough.read_apart`), so a file that was written once is the file that stood there
  before the run, with its edits made (`GoneThrough.written_once`), and one that failed is that
  file, or a part of it with edits made (`GoneThrough.failed_once`).

  Proved (`run_rewrites`): all of this holds of every run, however it ends. Line ends are the
  one thing outside of the ranges that changes in a file that is written whole: it keeps them
  if it has no return, and else the returns are lost (`run_rewrites_returns`).
-/
import ClassTidy.Proofs.Visits

namespace ClassTidy.Command

/-! ## Accounts -/

/-- The account says that the file was written anew, or that it failed where writing it is given up on the way. -/
def Account.Touches (tree : FileTree) (current : Path) (mode : Mode) (file : Path) : Account → Prop
  | .skipped => False
  | .failed _ => mode = .write ∧ tree.GivesUp current file
  | .found x => x.written = true

def Report.addAll (r : Report) (accounts : List (Path × Account)) : Report :=
  accounts.foldl (fun r x => r.add x.1 x.2) r

/-- The report of a run that gave these accounts. -/
def Report.ofAccounts (mode : Mode) (accounts : List (Path × Account)) : Report :=
  addAll ⟨mode, [], [], []⟩ accounts

/-- A text that is to be written in a file: what the file holds, with newlines for line ends and some edits made. -/
structure Revised (tree : FileTree) (current : Path) (mode : Mode) (file : Path) (es : List Edit) (u : Text) :
    Prop where
  asked : mode = .write
  edited : es ≠ []
  document : ∃ octets t, tree.read current file = .ok octets ∧ Text.Utf8.decode octets = .ok t ∧
    Edit.Spliced 0 es (Document.unifyLines t) u
  plain : ∀ c ∈ u, c ≠ '\r'

/-- What becomes of a file, by the account that is given of it: `tree` before and after. -/
inductive Handled (current : Path) (mode : Mode) (tree : FileTree) (file : Path) : Account → FileTree → Prop
  | skipped : Handled current mode tree file .skipped tree
  | unread {why : Text} (reason : Unread tree current file why) : Handled current mode tree file (.failed why) tree
  | left {x : FileReport} (path : x.path = file) (unwritten : x.written = false)
      (idle : mode = .write → x.rows = []) : Handled current mode tree file (.found x) tree
  | rewritten {x : FileReport} {u : Text} (path : x.path = file) (written : x.written = true)
      (revised : Revised tree current mode file (x.rows.map (·.edit)) u) :
      Handled current mode tree file (.found x) (tree.write current file (Text.Utf8.encode u))
  | unwritten {es : List Edit} {u : Text} {f : FileFault} (revised : Revised tree current mode file es u)
      (save : tree.save current file (Text.Utf8.encode u) = (none, some f)) :
      Handled current mode tree file (.failed (f.message file)) tree
  | cut {es : List Edit} {u : Text} {held : List UInt8} {f : FileFault} (revised : Revised tree current mode file es u)
      (save : tree.save current file (Text.Utf8.encode u) = (some held, some f)) :
      Handled current mode tree file (.failed (f.message file)) (tree.write current file held)

/-- Files that are gone through one after the other. -/
inductive GoneThrough (current : Path) (mode : Mode) : FileTree → List (Path × Account) → FileTree → Prop
  | nil (tree : FileTree) : GoneThrough current mode tree [] tree
  | cons {tree next after : FileTree} {file : Path} {x : Account} {accounts : List (Path × Account)}
      (first : Handled current mode tree file x next) (rest : GoneThrough current mode next accounts after) :
      GoneThrough current mode tree ((file, x) :: accounts) after

variable {current file q : Path} {mode : Mode} {tree after : FileTree} {x : Account} {accounts : List (Path × Account)}

theorem Revised.readable {es : List Edit} {u : Text} (h : Revised tree current mode file es u) :
    tree.Readable current file := by
  obtain ⟨octets, t, hread, -⟩ := h.document
  exact ⟨octets, hread⟩

theorem Handled.sameShape (h : Handled current mode tree file x after) : FileTree.SameShape tree after := by
  cases h with
  | rewritten path written revised => exact FileTree.sameShape_write revised.readable _
  | cut revised save => exact FileTree.sameShape_write revised.readable _
  | skipped | unread | left | unwritten => exact .refl tree

theorem Account.touches_of_sameShape (h : FileTree.SameShape tree after) (hx : x.Touches after current mode file) :
    x.Touches tree current mode file := by
  cases x with
  | skipped => exact hx
  | found => exact hx
  | failed => exact ⟨hx.1, hx.2.of_sameShape h.symm⟩

/-- Only the file itself changes, and only if it is touched. -/
theorem Handled.read_apart (h : Handled current mode tree file x after)
    (hq : x.Touches tree current mode file → tree.Apart current q file) :
    after.read current q = tree.read current q := by
  cases h with
  | rewritten path written revised => exact FileTree.read_write_apart revised.readable _ (hq written)
  | cut revised save => exact FileTree.read_write_apart revised.readable _ (hq ⟨revised.asked, _, _, _, save⟩)
  | skipped | unread | left | unwritten => rfl

theorem GoneThrough.sameShape (h : GoneThrough current mode tree accounts after) : FileTree.SameShape tree after := by
  induction h with
  | nil => exact .refl _
  | cons first _ ih => exact first.sameShape.trans ih

/-- A file that no touched file is, holds what it held. -/
theorem GoneThrough.read_apart (h : GoneThrough current mode tree accounts after)
    (hq : ∀ y ∈ accounts, y.2.Touches tree current mode y.1 → tree.Apart current q y.1) :
    after.read current q = tree.read current q := by
  induction h with
  | nil => rfl
  | cons first _ ih =>
    obtain ⟨hfirst, hrest⟩ := List.forall_mem_cons.mp hq
    have hshape := first.sameShape
    rw [ih fun y hy hw => FileTree.apart_of_sameShape hshape (hrest y hy (Account.touches_of_sameShape hshape hw)),
      first.read_apart hfirst]

theorem GoneThrough.split {before behind : List (Path × Account)}
    (h : GoneThrough current mode tree (before ++ behind) after) :
    ∃ next, GoneThrough current mode tree before next ∧ GoneThrough current mode next behind after := by
  induction before generalizing tree with
  | nil => exact ⟨tree, .nil tree, h⟩
  | cons y before ih =>
    cases h with
    | cons first rest =>
      obtain ⟨next, hbefore, hbehind⟩ := ih rest
      exact ⟨next, .cons first hbefore, hbehind⟩

/-- Where the other files that were touched are apart, a file is what it was when the run came to it, and stays what
the run has made of it. -/
theorem GoneThrough.once {before behind : List (Path × Account)}
    (h : GoneThrough current mode tree (before ++ (file, x) :: behind) after)
    (honce : ∀ y ∈ before ++ behind, y.2.Touches tree current mode y.1 → tree.Apart current file y.1) :
    ∃ reached next, reached.read current file = tree.read current file ∧
      Handled current mode reached file x next ∧
      FileTree.SameShape tree reached ∧ after.read current file = next.read current file := by
  obtain ⟨reached, hbefore, hrest⟩ := h.split
  obtain ⟨hfront, hbehind⟩ := List.forall_mem_append.mp honce
  cases hrest with
  | cons first rest =>
    have hshape := hbefore.sameShape.trans first.sameShape
    refine ⟨reached, _, hbefore.read_apart hfront, first, hbefore.sameShape, ?_⟩
    exact rest.read_apart fun y hy hw =>
      FileTree.apart_of_sameShape hshape (hbehind y hy (Account.touches_of_sameShape hshape hw))

/-- A file that was written once is the one that stood there when the run began, with its edits made. -/
theorem GoneThrough.written_once {before behind : List (Path × Account)} {x : FileReport}
    (h : GoneThrough current mode tree (before ++ (file, .found x) :: behind) after) (hx : x.written = true)
    (honce : ∀ y ∈ before ++ behind, y.2.Touches tree current mode y.1 → tree.Apart current file y.1) :
    ∃ octets t u, tree.read current file = .ok octets ∧ Text.Utf8.decode octets = .ok t ∧
      Edit.Spliced 0 (x.rows.map (·.edit)) (Document.unifyLines t) u ∧
      after.read current file = .ok (Text.Utf8.encode u) := by
  obtain ⟨reached, next, hread, hhandled, -, hafter⟩ := h.once honce
  cases hhandled with
  | left path unwritten =>
    rw [hx] at unwritten
    cases unwritten
  | rewritten path written revised =>
    obtain ⟨octets, t, hoctets, htext, hspliced⟩ := revised.document
    refine ⟨octets, t, _, hread.symm.trans hoctets, htext, hspliced, ?_⟩
    rw [hafter, FileTree.read_write revised.readable]

/-- A file that failed is the one that stood there when the run began, or the first part of it with some edits made, and
this only where writing it is given up on the way. -/
theorem GoneThrough.failed_once {before behind : List (Path × Account)} {why : Text}
    (h : GoneThrough current mode tree (before ++ (file, .failed why) :: behind) after)
    (honce : ∀ y ∈ before ++ behind, y.2.Touches tree current mode y.1 → tree.Apart current file y.1) :
    after.read current file = tree.read current file ∨
      tree.GivesUp current file ∧ ∃ es u n, Revised tree current mode file es u ∧
        after.read current file = .ok ((Text.Utf8.encode u).take n) := by
  obtain ⟨reached, next, hread, hhandled, hshape, hafter⟩ := h.once honce
  cases hhandled with
  | unread | unwritten => exact .inl (hafter.trans hread)
  | @cut es u held f revised save =>
    obtain ⟨n, rfl⟩ := FileTree.save_cut save
    refine .inr ⟨FileTree.GivesUp.of_sameShape hshape.symm ⟨_, _, _, save⟩, es, u, n, ?_, ?_⟩
    · exact ⟨revised.asked, revised.edited, hread ▸ revised.document, revised.plain⟩
    · rw [hafter, FileTree.read_write revised.readable]

/-! ## What a visit does -/

namespace Progress

variable {s : Service} {a : Arguments} {p p' : Progress} {language t : Text} {fs : List Path} {fault : ServiceFault}

theorem rows_edits (t : Text) (es : List Edit) : (Row.ofEdits t es).map (·.edit) = es := by
  rw [Row.ofEdits, List.map_map]
  exact List.map_id _

/-- A visit that a fault ends does nothing to the files. -/
theorem file_fault (h : p.file current s a file = (p', some fault)) :
    p'.tree = p.tree ∧ p'.written = p.written ∧ p'.report = p.report := by
  have hvisited := visited p current s a file
  rw [h] at hvisited
  cases hvisited <;> exact ⟨rfl, rfl, rfl⟩

/-- A visit without a fault adds an account to the report, and does to the files what the account says. -/
theorem file_handled (h : p.file current s a file = (p', none)) :
    ∃ x, p'.report = p.report.add file x ∧ Handled current p.report.mode p.tree file x p'.tree := by
  have hvisited := visited p current s a file
  rw [h] at hvisited
  cases hvisited with
  | skipped why reason => exact ⟨.skipped, rfl, .skipped⟩
  | failed language reason => exact ⟨.failed _, rfl, .unread reason⟩
  | @finished language t es opens answer told =>
    obtain ⟨octets, hread, hdoc⟩ := opens.document
    obtain ⟨text, hdecode, rfl⟩ := document_eq_ok.mp hdoc
    have hedited := edited p current s a.scope language (Document.unifyLines text)
    rw [(Outcome.answer_eq_ok.mp answer).2] at hedited
    obtain ⟨table, hfits⟩ := hedited.fits
    refine ⟨_, finishFile_report _ _ _ _ _ _, ?_⟩
    rw [finishFile_tree]
    dsimp only
    rcases Deed.ofEdits_cases p.tree current p.report.mode file language (document_plain hdoc) hfits with
      ⟨hdeed, hidle⟩ | ⟨u, hmode, hkept, -, hspliced, hplain, ⟨hsave, hdeed⟩ | ⟨held, f, hsave, hdeed⟩⟩
    · rw [hdeed]
      exact .left rfl rfl fun hmode => by rw [hidle hmode]; rfl
    · rw [hdeed]
      refine .rewritten rfl rfl ⟨hmode, by rwa [rows_edits], ⟨octets, text, hread, hdecode, ?_⟩, hplain⟩
      rwa [rows_edits]
    · rw [hdeed]
      have hrevised : Revised p.tree current p.report.mode file (Edit.select es).kept u :=
        ⟨hmode, hkept, ⟨octets, text, hread, hdecode, hspliced⟩, hplain⟩
      cases held with
      | none => exact .unwritten hrevised hsave
      | some held => exact .cut hrevised hsave

/-- The files of a run are those it began with and, in their place, those that were written. -/
theorem file_writes (htree : p.tree = tree.writeAll current p.written) :
    (p.file current s a file).1.tree = tree.writeAll current (p.file current s a file).1.written := by
  have hvisited := visited p current s a file
  generalize p.file current s a file = reached at hvisited
  cases hvisited with
  | skipped => exact htree
  | unsearched => exact htree
  | failed => exact htree
  | ended => exact htree
  | finished => rw [finishFile_tree, finishFile_puts, FileTree.writeAll_append, ← htree]

/-- A run gives an account of each file it has gone through, and does to the files what the accounts say. -/
theorem files_handled {fault : Option ServiceFault} (h : p.files current s a fs = (p', fault)) :
    ∃ accounts : List (Path × Account), accounts.map (·.1) <+: fs ∧
      (fault = none → accounts.map (·.1) = fs) ∧
      p'.report = p.report.addAll accounts ∧ GoneThrough current p.report.mode p.tree accounts p'.tree := by
  induction fs generalizing p with
  | nil =>
    obtain ⟨rfl, rfl⟩ := Prod.mk.inj h
    exact ⟨[], List.nil_prefix, fun _ => rfl, rfl, .nil _⟩
  | cons f fs ih =>
    rw [files] at h
    split at h
    · rename_i q reason hfile
      obtain ⟨rfl, rfl⟩ := Prod.mk.inj h
      obtain ⟨htree, -, hreport⟩ := file_fault hfile
      refine ⟨[], List.nil_prefix, fun hnone => absurd hnone (by simp), hreport, ?_⟩
      rw [htree]
      exact .nil _
    · rename_i q hfile
      obtain ⟨x, hreport, hhandled⟩ := file_handled hfile
      obtain ⟨accounts, hprefix, hall, hlast, hgone⟩ := ih h
      rw [hreport, Report.add_mode] at hgone
      refine ⟨(f, x) :: accounts, List.cons_prefix_cons.mpr ⟨rfl, hprefix⟩, fun hnone => ?_, ?_,
        .cons hhandled hgone⟩
      · rw [List.map_cons, hall hnone]
      · rw [hlast, hreport]
        rfl

end Progress

/-! ## What a run does -/

/-- A run, however it ends, does to the files what it gives accounts of. -/
theorem run_handled (tree : FileTree) (current : Path) (a : Arguments) :
    ∃ accounts : List (Path × Account), accounts.map (·.1) <+: a.files ∧
      GoneThrough current a.mode tree accounts (tree.writeAll current (run tree current a).written) ∧
      (accounts.map (·.1) = a.files ∧ (run tree current a).output = (Report.ofAccounts a.mode accounts).write ∧
          (run tree current a).status = (Report.ofAccounts a.mode accounts).exit ∨
        (run tree current a).output = [] ∧ (run tree current a).status ≠ 0) := by
  rcases run_served tree current a with ⟨s, hs⟩ | ⟨hwritten, houtput, hstatus⟩
  · rw [run_eq hs]
    generalize hstart : Progress.first tree a s = p
    have hfirst : p.tree = tree.writeAll current p.written ∧ p.tree = tree ∧
        p.report = ⟨a.mode, [], [], []⟩ := by
      rw [← hstart]
      exact ⟨rfl, rfl, rfl⟩
    obtain ⟨hleft, htree, hreport⟩ := hfirst
    have hafter := Progress.files_keep (P := fun p => p.tree = tree.writeAll current p.written) (s := s) (a := a)
      (fun _ _ => Progress.file_writes) a.files hleft
    generalize hfiles : p.files current s a a.files = reached at hafter
    obtain ⟨p', fault⟩ := reached
    obtain ⟨accounts, hprefix, hall, hlast, hgone⟩ := Progress.files_handled hfiles
    rw [htree, hreport] at hgone
    refine ⟨accounts, hprefix, ?_, ?_⟩
    · rw [Ending.after_written, ← hafter]
      exact hgone
    · match fault with
      | none =>
        rw [hreport] at hlast
        exact Or.inl ⟨hall rfl, congrArg Report.write hlast, congrArg Report.exit hlast⟩
      | some (.breakdown b) => exact Or.inr ⟨rfl, Nat.succ_ne_zero _⟩
      | some (.build f) => exact Or.inr ⟨rfl, Nat.succ_ne_zero _⟩
  · rw [hwritten]
    exact ⟨[], List.nil_prefix, .nil tree, Or.inr ⟨houtput, hstatus⟩⟩

/-- A run gives an account of each file it has gone through, which are all of them if it ends with a report. The files
are those it began with, but for the ones that it accounts for as written: such a file holds the text it held, with
every way to end a line made a newline, and the new texts in the ranges reported. That is the text it held, if this
had no return. A file that failed holds what it held, unless the system gave up writing it on the way; then it holds
the first part of such a text. -/
theorem run_rewrites (tree : FileTree) (current : Path) (a : Arguments) :
    ∃ accounts : List (Path × Account), accounts.map (·.1) <+: a.files ∧
      (accounts.map (·.1) = a.files ∧ (run tree current a).output = (Report.ofAccounts a.mode accounts).write ∧
          (run tree current a).status = (Report.ofAccounts a.mode accounts).exit ∨
        (run tree current a).output = [] ∧ (run tree current a).status ≠ 0) ∧
      GoneThrough current a.mode tree accounts (tree.writeAll current (run tree current a).written) ∧
      (∀ q, (∀ y ∈ accounts, y.2.Touches tree current a.mode y.1 → tree.Apart current q y.1) →
        (tree.writeAll current (run tree current a).written).read current q = tree.read current q) ∧
      (∀ before file x behind, accounts = before ++ (file, .found x) :: behind → x.written = true →
        (∀ y ∈ before ++ behind, y.2.Touches tree current a.mode y.1 → tree.Apart current file y.1) →
        ∃ octets t u, tree.read current file = .ok octets ∧ Text.Utf8.decode octets = .ok t ∧
          (tree.writeAll current (run tree current a).written).read current file = .ok (Text.Utf8.encode u) ∧
          Edit.Spliced 0 (x.rows.map (·.edit)) (Document.unifyLines t) u ∧
          ((∀ c ∈ t, c ≠ '\r') → Edit.Spliced 0 (x.rows.map (·.edit)) t u)) ∧
      ∀ before file why behind, accounts = before ++ (file, .failed why) :: behind →
        (∀ y ∈ before ++ behind, y.2.Touches tree current a.mode y.1 → tree.Apart current file y.1) →
        (tree.writeAll current (run tree current a).written).read current file = tree.read current file ∨
          tree.GivesUp current file ∧ ∃ es u n, Revised tree current a.mode file es u ∧
            (tree.writeAll current (run tree current a).written).read current file =
              .ok ((Text.Utf8.encode u).take n) := by
  obtain ⟨accounts, hprefix, hgone, hending⟩ := run_handled tree current a
  refine ⟨accounts, hprefix, hending, hgone, fun q hq => hgone.read_apart hq, ?_, ?_⟩
  · rintro before file x behind rfl hwritten honce
    obtain ⟨octets, t, u, hread, htext, hspliced, hafter⟩ := hgone.written_once hwritten honce
    refine ⟨octets, t, u, hread, htext, hafter, hspliced, fun hplain => ?_⟩
    rwa [Document.unifyLines_of_plain hplain] at hspliced
  · rintro before file why behind rfl honce
    exact hgone.failed_once honce

/-- A page whose line ends with a return and a newline is written with the newline alone. -/
theorem run_rewrites_returns :
    let page := Path.read "page.html".toList
    let tree := pageTree "<p class=\"p-4 flex\">\r\n"
    let after := tree.writeAll ⟨.root, []⟩ (run tree ⟨.root, []⟩ (pageArguments.inMode .write)).written
    after.read ⟨.root, []⟩ page = .ok (Text.Utf8.encode "<p class=\"flex p-4\">\n".toList) ∧
      ∃ x, x.Touches tree ⟨.root, []⟩ .write page ∧
        GoneThrough ⟨.root, []⟩ .write tree [(page, x)] after := by
  intro page tree after
  obtain ⟨hread, hchanged, hstatus⟩ :
      after.read ⟨.root, []⟩ page = .ok (Text.Utf8.encode "<p class=\"flex p-4\">\n".toList) ∧
      after.read ⟨.root, []⟩ page ≠ tree.read ⟨.root, []⟩ page ∧
      (run tree ⟨.root, []⟩ (pageArguments.inMode .write)).status = 0 := by
    unfold after
    rw [run_page _ .write (by decide +kernel)]
    decide +kernel
  refine ⟨hread, ?_⟩
  obtain ⟨accounts, -, hending, hgone, hframe, -⟩ := run_rewrites tree ⟨.root, []⟩ (pageArguments.inMode .write)
  rcases hending with ⟨hfiles, -⟩ | ⟨-, hne⟩
  · obtain ⟨⟨file, x⟩, rfl, hfile⟩ := List.map_eq_singleton_iff.mp hfiles
    have hpage : file = page := hfile
    rw [hpage] at hgone hframe
    refine ⟨x, ?_, hgone⟩
    by_contra hleft
    refine hchanged (hframe page fun y hy hw => ?_)
    rw [List.mem_singleton.mp hy] at hw
    exact absurd hw hleft
  · exact absurd hstatus hne

end ClassTidy.Command
