/-
  ClassTidy.Proofs.ValidSettings — which objects are settings, and which.

  What a field means is said without the reader: a choice is a boolean, the path is a text, a
  list of texts stands for its texts without repeats, and a custom language is an object with an
  id and rules (`MeansLanguage`, `MeansRule`). A field that is not there means its default
  (`Given`). An object means settings if every name in it is known or marks a comment, and every
  field means what the settings hold (`Means`).

  An object that means nothing is refused, and the fault says what is wrong with it (`Refuses`):
  the names that are unknown, in order, or a field and the part of its value that cannot be read.
  The reader looks fields up by name only, and comments are dropped first, so the order of
  fields and the comments among them decide nothing, not even which fault is found first.

  Proved (`ofFields_exact`): the reader gives settings exactly if the object means them, else it
  gives a fault that the object deserves; the same for every order and with other comments.
-/
import Mathlib.Data.List.Forall2
import ClassTidy.Proofs.Fields
import ClassTidy.Proofs.Sorting
import ClassTidy.Settings.Decode

namespace ClassTidy

/-! ## Names in order -/

namespace Text

theorem le_total (s t : Text) : le s t = true ∨ le t s = true := by
  induction s generalizing t with
  | nil => exact .inl rfl
  | cons a s ih =>
    cases t with
    | nil => exact .inr rfl
    | cons b t =>
      by_cases hab : a = b
      · simpa [le, hab] using ih t
      · have hne : a.toNat ≠ b.toNat := fun h => hab (Char.toNat_inj.mp h)
        simp only [le, hab, Ne.symm hab, if_false, decide_eq_true_eq]
        omega

theorem le_antisymm {s t : Text} (hst : le s t = true) (hts : le t s = true) : s = t := by
  induction s generalizing t with
  | nil =>
    cases t with
    | nil => rfl
    | cons b t => cases hts
  | cons a s ih =>
    cases t with
    | nil => cases hst
    | cons b t =>
      by_cases hab : a = b
      · subst hab
        rw [ih (by simpa [le] using hst) (by simpa [le] using hts)]
      · simp only [le, hab, Ne.symm hab, if_false, decide_eq_true_eq] at hst hts
        omega

theorem le_trans {s t u : Text} (hst : le s t = true) (htu : le t u = true) : le s u = true := by
  induction s generalizing t u with
  | nil => rfl
  | cons a s ih =>
    cases t with
    | nil => cases hst
    | cons b t =>
      cases u with
      | nil => cases htu
      | cons c u =>
        by_cases hab : a = b
        · subst hab
          by_cases hac : a = c
          · subst hac
            simp only [le, if_true] at hst htu ⊢
            exact ih hst htu
          · simpa [le, hac] using htu
        · by_cases hbc : b = c
          · subst hbc
            simpa [le, hab] using hst
          · simp only [le, hab, hbc, if_false, decide_eq_true_eq] at hst htu
            have hac : a ≠ c := by
              rintro rfl
              omega
            simp only [le, hac, if_false, decide_eq_true_eq]
            omega

end Text

namespace Settings

/-! ## Meanings -/

/-- What a field means: what its value means, or the default if it is not there. -/
inductive Given {α : Type} (fields : Json.Fields) (name : Text) (R : Json → α → Prop) (default : α) : α → Prop
  | absent (h : Json.field? fields name = none) : Given fields name R default default
  | present {v : Json} {x : α} (h : Json.field? fields name = some v) (means : R v x) : Given fields name R default x

/-- A list of texts, each with more than blanks, stands for the texts in it, where they come first. -/
inductive MeansTexts : Json → List Text → Prop
  | mk {ts : List Text} (solid : ∀ t ∈ ts, ∃ c ∈ t, Text.isBlank c = false) :
      MeansTexts (.arr (ts.map .str)) ts.eraseDups

inductive MeansRule : Json → RawRule → Prop
  | mk {fields : Json.Fields} {r : RawRule} (regex : Json.field? fields "regex".toList = some (.str r.regex))
      (group : Given fields "capture_group".toList (fun v n => v = .int n) 1 r.group) : MeansRule (.obj fields) r

inductive MeansRules : Json → List RawRule → Prop
  | mk {vs : List Json} {rs : List RawRule} (h : List.Forall₂ MeansRule vs rs) : MeansRules (.arr vs) rs

inductive MeansLanguage : Json → Language → Prop
  | mk {fields : Json.Fields} {l : Language} (id : Json.field? fields "language_id".toList = some (.str l.id))
      (named : l.id ≠ []) (rules : Given fields "patterns".toList MeansRules [] l.rules) :
      MeansLanguage (.obj fields) l

inductive MeansLanguages : Json → List Language → Prop
  | mk {vs : List Json} {ls : List Language} (h : List.Forall₂ MeansLanguage vs ls) : MeansLanguages (.arr vs) ls

/-- An object that means settings. -/
structure Means (fields : Json.Fields) (s : Settings) : Prop where
  known : ∀ f ∈ fields, isComment f.1 = false → f.1 ∈ knownNames
  enable : Given fields enableName (fun v b => v = .bool b) true s.enable
  keepRepeats : Given fields keepRepeatsName (fun v b => v = .bool b) false s.keepRepeats
  keepGaps : Given fields keepGapsName (fun v b => v = .bool b) false s.keepGaps
  tablePath : Given fields tablePathName (fun v t => v = .str t) [] s.tablePath
  enabled : Given fields enabledName MeansTexts [] s.enabled
  functions : Given fields functionsName MeansTexts defaultFunctions s.functions
  custom : Given fields customName MeansLanguages [] s.custom

/-! ## Faults -/

/-- What can be wrong with a rule of a language. -/
inductive RefusesRule (language : Text) : Json → SettingsFault → Prop
  | regex {v : Json} (bad : ∀ fields t, v = .obj fields → Json.field? fields "regex".toList ≠ some (.str t)) :
      RefusesRule language v (.patternWithoutRegex language)
  | group {fields : Json.Fields} {v : Json} (given : Json.field? fields "capture_group".toList = some v)
      (bad : ∀ n, v ≠ .int n) : RefusesRule language (.obj fields) (.groupNotInteger language v)

/-- What can be wrong with a custom language. -/
inductive RefusesLanguage : Json → SettingsFault → Prop
  | kind {v : Json} (bad : ∀ fields, v ≠ .obj fields) : RefusesLanguage v .languageNotObject
  | id {fields : Json.Fields} (bad : ∀ id, Json.field? fields "language_id".toList = some (.str id) → id = []) :
      RefusesLanguage (.obj fields) .languageWithoutId
  | rules {fields : Json.Fields} {id : Text} {v : Json}
      (language : Json.field? fields "language_id".toList = some (.str id))
      (given : Json.field? fields "patterns".toList = some v) (bad : ∀ vs, v ≠ .arr vs) :
      RefusesLanguage (.obj fields) (.patternsNotList id)
  | rule {fields : Json.Fields} {id : Text} {vs : List Json} {v : Json} {f : SettingsFault}
      (language : Json.field? fields "language_id".toList = some (.str id))
      (given : Json.field? fields "patterns".toList = some (.arr vs)) (among : v ∈ vs) (bad : RefusesRule id v f) :
      RefusesLanguage (.obj fields) f

/-- What can be wrong with an object. -/
inductive Refuses (fields : Json.Fields) : SettingsFault → Prop
  | unknown {names : List Text} (found : names ≠ []) (ordered : names.Pairwise fun a b => Text.le a b = true)
      (members : ∀ n, n ∈ names ↔ n ∈ fields.map (·.1) ∧ isComment n = false ∧ n ∉ knownNames) :
      Refuses fields (.unknownNames names)
  | choice {name : Text} {v : Json} (choice : name ∈ [enableName, keepRepeatsName, keepGapsName])
      (given : Json.field? fields name = some v) (bad : ∀ b, v ≠ .bool b) : Refuses fields (.notBoolean name)
  | path {v : Json} (given : Json.field? fields tablePathName = some v) (bad : ∀ t, v ≠ .str t) :
      Refuses fields .pathNotText
  | texts {name : Text} {v : Json} (list : name ∈ [enabledName, functionsName])
      (given : Json.field? fields name = some v)
      (bad : ∀ vs, v ≠ .arr vs) : Refuses fields (.notTexts name)
  | entry {name : Text} {vs : List Json} {v : Json} (list : name ∈ [enabledName, functionsName])
      (given : Json.field? fields name = some (.arr vs)) (among : v ∈ vs)
      (bad : ∀ t, v = .str t → Text.isBlankOnly t = true) : Refuses fields (.blankEntry name v)
  | languages {v : Json} (given : Json.field? fields customName = some v) (bad : ∀ vs, v ≠ .arr vs) :
      Refuses fields .languagesNotList
  | language {vs : List Json} {v : Json} {f : SettingsFault} (given : Json.field? fields customName = some (.arr vs))
      (among : v ∈ vs) (bad : RefusesLanguage v f) : Refuses fields f

/-! ## Reading one field -/

section Readers

variable {fields : Json.Fields} {name : Text}

theorem given_absent {α : Type} {R : Json → α → Prop} {d x : α} (h : Json.field? fields name = none) :
    Given fields name R d x ↔ x = d := by
  constructor
  · rintro (_ | ⟨hv, -⟩)
    · rfl
    · rw [h] at hv
      cases hv
  · rintro rfl
    exact .absent h

theorem given_present {α : Type} {R : Json → α → Prop} {d x : α} {v : Json}
    (h : Json.field? fields name = some v) :
    Given fields name R d x ↔ R v x := by
  constructor
  · rintro (hv | ⟨hv, hx⟩)
    · rw [h] at hv
      cases hv
    · rw [h] at hv
      cases hv
      exact hx
  · exact .present h

theorem readBool_eq_ok {d b : Bool} :
    readBool fields name d = .ok b ↔ Given fields name (fun v b => v = .bool b) d b := by
  unfold readBool
  cases h : Json.field? fields name with
  | none => simp [given_absent h, eq_comm]
  | some v =>
    rw [given_present h]
    cases v <;> simp

theorem readBool_error {d : Bool} {f : SettingsFault} (h : readBool fields name d = .error f) :
    f = .notBoolean name ∧ ∃ v, Json.field? fields name = some v ∧ ∀ b, v ≠ .bool b := by
  unfold readBool at h
  split at h
  · cases h
  · cases h
  · rename_i v hbad hv
    cases h
    exact ⟨rfl, v, hv, hbad⟩

theorem readPath_eq_ok {t : Text} :
    readPath fields = .ok t ↔ Given fields tablePathName (fun v t => v = .str t) [] t := by
  unfold readPath
  cases h : Json.field? fields tablePathName with
  | none => simp [given_absent h, eq_comm]
  | some v =>
    rw [given_present h]
    cases v <;> simp

theorem readPath_error {f : SettingsFault} (h : readPath fields = .error f) :
    f = .pathNotText ∧ ∃ v, Json.field? fields tablePathName = some v ∧ ∀ t, v ≠ .str t := by
  unfold readPath at h
  split at h
  · cases h
  · cases h
  · rename_i v hbad hv
    cases h
    exact ⟨rfl, v, hv, hbad⟩

/-! ## Lists of texts -/

theorem isBlankOnly_eq_false {t : Text} : Text.isBlankOnly t = false ↔ ∃ c ∈ t, Text.isBlank c = false := by
  simp [Text.isBlankOnly]

theorem readEntries_ok {vs : List Json} {ts : List Text} (h : readEntries name vs = .ok ts) :
    vs = ts.map .str ∧ ∀ t ∈ ts, ∃ c ∈ t, Text.isBlank c = false := by
  fun_induction readEntries name vs generalizing ts with
  | case1 =>
    cases h
    exact ⟨rfl, List.forall_mem_nil _⟩
  | case2 t vs hblank => cases h
  | case3 t vs hblank ts' hread ih =>
    cases h
    obtain ⟨rfl, hsolid⟩ := ih hread
    exact ⟨rfl, List.forall_mem_cons.mpr ⟨isBlankOnly_eq_false.mp (Bool.eq_false_iff.mpr hblank), hsolid⟩⟩
  | case4 t vs hblank f hread ih => cases h
  | case5 v vs hbad => cases h

theorem readEntries_texts {ts : List Text} (h : ∀ t ∈ ts, ∃ c ∈ t, Text.isBlank c = false) :
    readEntries name (ts.map .str) = .ok ts := by
  induction ts with
  | nil => rfl
  | cons t ts ih =>
    obtain ⟨ht, hts⟩ := List.forall_mem_cons.mp h
    have hblank : ¬ Text.isBlankOnly t = true := Bool.eq_false_iff.mp (isBlankOnly_eq_false.mpr ht)
    rw [List.map_cons, readEntries, if_neg hblank, ih hts]

theorem readEntries_error {vs : List Json} {f : SettingsFault} (h : readEntries name vs = .error f) :
    ∃ v ∈ vs, f = .blankEntry name v ∧ ∀ t, v = .str t → Text.isBlankOnly t = true := by
  fun_induction readEntries name vs with
  | case1 => cases h
  | case2 t vs hblank =>
    cases h
    refine ⟨.str t, List.mem_cons_self, rfl, fun u hu => ?_⟩
    cases hu
    exact hblank
  | case3 t vs hblank ts hread => cases h
  | case4 t vs hblank f' hread ih =>
    cases h
    obtain ⟨v, hv, hf, hbad⟩ := ih hread
    exact ⟨v, List.mem_cons_of_mem _ hv, hf, hbad⟩
  | case5 v vs hbad =>
    cases h
    exact ⟨v, List.mem_cons_self, rfl, fun t ht => absurd ht (hbad t)⟩

/-- Texts without repeats: each stands where it came first. -/
theorem distinct_eq (seen ts : List Text) : distinct seen ts = (ts.filter fun t => !seen.contains t).eraseDups := by
  induction ts generalizing seen with
  | nil => rfl
  | cons t ts ih =>
    by_cases hseen : seen.contains t = true
    · rw [distinct, if_pos hseen, List.filter_cons_of_neg (by simpa using hseen), ih]
    · rw [distinct, if_neg hseen, List.filter_cons_of_pos (by simpa using hseen), List.eraseDups_cons,
        List.filter_filter, ih]
      congr 3
      funext u
      rw [Bool.eq_iff_iff]
      simp

theorem bind_eq_ok {ε α β : Type} {x : Except ε α} {g : α → Except ε β} {b : β} :
    (x >>= g) = .ok b ↔ ∃ a, x = .ok a ∧ g a = .ok b := by
  cases x <;> simp [bind, Except.bind]

theorem bind_eq_error {ε α β : Type} {x : Except ε α} {g : α → Except ε β} {e : ε} :
    (x >>= g) = .error e ↔ x = .error e ∨ ∃ a, x = .ok a ∧ g a = .error e := by
  cases x <;> simp [bind, Except.bind]

theorem map_eq_ok {ε α β : Type} {x : Except ε α} {g : α → β} {b : β} :
    x.map g = .ok b ↔ ∃ a, x = .ok a ∧ g a = b := by
  cases x <;> simp [Except.map]

theorem map_eq_error {ε α β : Type} {x : Except ε α} {g : α → β} {e : ε} :
    x.map g = .error e ↔ x = .error e := by
  cases x <;> simp [Except.map]

theorem readTexts_eq_ok {d ts : List Text} :
    readTexts fields name d = .ok ts ↔ Given fields name MeansTexts d ts := by
  unfold readTexts
  cases h : Json.field? fields name with
  | none => simp [given_absent h, eq_comm]
  | some v =>
    rw [given_present h]
    cases v with
    | arr vs =>
      have hdistinct : ∀ ts, distinct [] ts = ts.eraseDups := fun ts => by
        rw [distinct_eq, List.filter_eq_self.mpr (by simp)]
      simp only [map_eq_ok, hdistinct]
      constructor
      · intro ⟨all, hread, hall⟩
        obtain ⟨rfl, hsolid⟩ := readEntries_ok hread
        rw [← hall]
        exact .mk hsolid
      · intro h
        cases h with
        | mk hsolid => exact ⟨_, readEntries_texts hsolid, rfl⟩
    | null | bool | int | float | str | obj =>
      simp only [reduceCtorEq, false_iff]
      nofun

theorem readTexts_error {d : List Text} {f : SettingsFault} (hname : name ∈ [enabledName, functionsName])
    (h : readTexts fields name d = .error f) : Refuses fields f := by
  unfold readTexts at h
  split at h
  · cases h
  · rename_i vs hv
    obtain ⟨v, hmem, rfl, hbad⟩ := readEntries_error (map_eq_error.mp h)
    exact .entry hname hv hmem hbad
  · rename_i v hbad hv
    cases h
    exact .texts hname hv hbad

/-! ## Custom languages -/

/-- Values read one after the other, up to the first that cannot be read. -/
theorem mapM_eq_ok {α : Type} {read : Json → Except SettingsFault α} {vs : List Json} {xs : List α} :
    vs.mapM read = .ok xs ↔ List.Forall₂ (fun v x => read v = .ok x) vs xs := by
  induction vs generalizing xs with
  | nil => cases xs <;> simp [pure, Except.pure]
  | cons v vs ih =>
    rw [List.mapM_cons, bind_eq_ok]
    constructor
    · rintro ⟨x, hx, h⟩
      obtain ⟨ys, hys, h⟩ := bind_eq_ok.mp h
      cases h
      exact .cons hx (ih.mp hys)
    · intro h
      cases h with
      | cons hx hxs => exact ⟨_, hx, bind_eq_ok.mpr ⟨_, ih.mpr hxs, rfl⟩⟩

theorem mapM_error {α : Type} {read : Json → Except SettingsFault α} {vs : List Json} {f : SettingsFault}
    (h : vs.mapM read = .error f) : ∃ v ∈ vs, read v = .error f := by
  induction vs with
  | nil => cases h
  | cons v vs ih =>
    rw [List.mapM_cons] at h
    rcases bind_eq_error.mp h with hv | ⟨x, hx, h⟩
    · exact ⟨v, List.mem_cons_self, hv⟩
    · rcases bind_eq_error.mp h with hvs | ⟨xs, hxs, h⟩
      · obtain ⟨w, hw, hread⟩ := ih hvs
        exact ⟨w, List.mem_cons_of_mem v hw, hread⟩
      · cases h

theorem readRule_eq_ok {language : Text} {v : Json} {r : RawRule} : readRule language v = .ok r ↔ MeansRule v r := by
  constructor
  · intro h
    unfold readRule at h
    split at h
    · rename_i fields
      split at h
      · rename_i regex hregex
        split at h
        · rename_i hgroup
          cases h
          exact .mk hregex (.absent hgroup)
        · rename_i n hgroup
          cases h
          exact .mk hregex (.present hgroup rfl)
        · cases h
      · cases h
    · cases h
  · intro h
    obtain ⟨hregex, hgroup⟩ := h
    rename_i fields
    obtain ⟨regex, group⟩ := r
    cases hfield : Json.field? fields "capture_group".toList with
    | none =>
      obtain rfl : group = 1 := (given_absent hfield).mp hgroup
      simp only [readRule, hregex, hfield]
    | some v =>
      obtain rfl : v = .int group := (given_present (R := fun v n => v = .int n) hfield).mp hgroup
      simp only [readRule, hregex, hfield]

theorem readRule_error {language : Text} {v : Json} {f : SettingsFault} (h : readRule language v = .error f) :
    RefusesRule language v f := by
  unfold readRule at h
  split at h
  · rename_i fields
    split at h
    · rename_i regex hregex
      split at h
      · cases h
      · cases h
      · rename_i v hbad hv
        cases h
        exact .group hv hbad
    · rename_i hbad
      cases h
      refine .regex fun fields' t heq => ?_
      cases heq
      exact hbad t
  · rename_i hbad
    cases h
    exact .regex fun fields t heq => absurd heq (hbad fields)

theorem readRules_eq (language : Text) (vs : List Json) : readRules language vs = vs.mapM (readRule language) := by
  induction vs with
  | nil => rfl
  | cons v vs ih =>
    rw [readRules, List.mapM_cons, ih]
    cases readRule language v with
    | error f => rfl
    | ok r => cases List.mapM (readRule language) vs <;> rfl

theorem readLanguageList_eq (vs : List Json) : readLanguageList vs = vs.mapM readLanguage := by
  induction vs with
  | nil => rfl
  | cons v vs ih =>
    rw [readLanguageList, List.mapM_cons, ih]
    cases readLanguage v with
    | error f => rfl
    | ok l => cases List.mapM readLanguage vs <;> rfl

theorem readLanguage_eq_ok {v : Json} {l : Language} : readLanguage v = .ok l ↔ MeansLanguage v l := by
  have hrules : ∀ {id : Text} {vs : List Json} {rs : List RawRule}, readRules id vs = .ok rs ↔
      MeansRules (.arr vs) rs := by
    intro id vs rs
    simp only [readRules_eq, mapM_eq_ok, readRule_eq_ok]
    exact ⟨.mk, fun ⟨h⟩ => h⟩
  constructor
  · intro h
    unfold readLanguage at h
    split at h
    · rename_i fields
      split at h
      · cases h
      · rename_i id hne hid
        split at h
        · rename_i hfield
          cases h
          exact .mk hid hne (.absent hfield)
        · rename_i vs hfield
          obtain ⟨rs, hrs, rfl⟩ := map_eq_ok.mp h
          exact .mk hid hne (.present hfield (hrules.mp hrs))
        · cases h
      · cases h
    · cases h
  · intro h
    obtain ⟨hid, hne, hgiven⟩ := h
    rename_i fields
    obtain ⟨id, rules⟩ := l
    obtain ⟨c, id, rfl⟩ := List.exists_cons_of_ne_nil hne
    cases hfield : Json.field? fields "patterns".toList with
    | none =>
      obtain rfl : rules = [] := (given_absent hfield).mp hgiven
      simp only [readLanguage, hid, hfield]
    | some v =>
      have hmeans := (given_present hfield).mp hgiven
      cases hmeans with
      | mk h => simp only [readLanguage, hid, hfield, hrules.mpr (.mk h), Except.map]

theorem readLanguage_error {v : Json} {f : SettingsFault} (h : readLanguage v = .error f) : RefusesLanguage v f := by
  unfold readLanguage at h
  split at h
  · rename_i fields
    split at h
    · rename_i hid
      cases h
      refine .id fun id hid' => ?_
      rw [hid] at hid'
      cases hid'
      rfl
    · rename_i id hne hid
      split at h
      · cases h
      · rename_i vs hfield
        have hread := map_eq_error.mp h
        rw [readRules_eq] at hread
        obtain ⟨w, hw, hbad⟩ := mapM_error hread
        exact .rule hid hfield hw (readRule_error hbad)
      · rename_i w hbad hfield
        cases h
        exact .rules hid hfield hbad
    · rename_i hempty hbad
      cases h
      exact .id fun id hid => absurd hid (hbad id)
  · rename_i hbad
    cases h
    exact .kind hbad

theorem readLanguages_eq_ok {ls : List Language} :
    readLanguages fields = .ok ls ↔ Given fields customName MeansLanguages [] ls := by
  unfold readLanguages
  cases h : Json.field? fields customName with
  | none => simp [given_absent h, eq_comm]
  | some v =>
    rw [given_present h]
    cases v with
    | arr vs =>
      simp only [readLanguageList_eq, mapM_eq_ok, readLanguage_eq_ok]
      exact ⟨.mk, fun ⟨h⟩ => h⟩
    | null | bool | int | float | str | obj =>
      simp only [reduceCtorEq, false_iff]
      nofun

theorem readLanguages_error {f : SettingsFault} (h : readLanguages fields = .error f) : Refuses fields f := by
  unfold readLanguages at h
  split at h
  · cases h
  · rename_i vs hv
    rw [readLanguageList_eq] at h
    obtain ⟨v, hmem, hbad⟩ := mapM_error h
    exact .language hv hmem (readLanguage_error hbad)
  · rename_i v hbad hv
    cases h
    exact .languages hv hbad

end Readers

/-! ## Whole objects -/

theorem not_comment_of_known {name : Text} (h : name ∈ knownNames) : isComment name = false := by
  have hall : (knownNames.all fun n => !isComment n) = true := by decide
  simpa using List.all_eq_true.mp hall name h

theorem field?_relevant (fields : Json.Fields) {name : Text} (h : name ∈ knownNames) :
    Json.field? (relevant fields) name = Json.field? fields name :=
  Json.field?_filter (p := fun n => !isComment n) (by simp [not_comment_of_known h])

theorem given_relevant {α : Type} {R : Json → α → Prop} {d x : α} {fields : Json.Fields} {name : Text}
    (h : name ∈ knownNames) :
    Given (relevant fields) name R d x ↔ Given fields name R d x := by
  have hfield := field?_relevant fields h
  cases hv : Json.field? fields name with
  | none => rw [given_absent hv, given_absent (hfield.trans hv)]
  | some v => rw [given_present hv, given_present (hfield.trans hv)]

theorem mem_names_relevant {fields : Json.Fields} {name : Text} :
    name ∈ (relevant fields).map (·.1) ↔ name ∈ fields.map (·.1) ∧ isComment name = false := by
  simp [relevant]

theorem mem_unknown {fields : Json.Fields} {name : Text} :
    name ∈ unknown fields ↔ name ∈ fields.map (·.1) ∧ name ∉ knownNames := by
  simp [unknown]

theorem unknown_ordered (fields : Json.Fields) : (unknown fields).Pairwise fun a b => Text.le a b = true :=
  Sorting.sortBy_pairwise _ Text.le_total (fun _ _ _ => Text.le_trans) _

/-- Nothing is unknown exactly if every name is known or marks a comment. -/
theorem unknown_eq_nil {fields : Json.Fields} :
    unknown (relevant fields) = [] ↔ ∀ f ∈ fields, isComment f.1 = false → f.1 ∈ knownNames := by
  rw [List.eq_nil_iff_forall_not_mem]
  simp only [mem_unknown, mem_names_relevant]
  constructor
  · intro h f hf hcomment
    by_contra hnew
    exact h f.1 ⟨⟨List.mem_map_of_mem hf, hcomment⟩, hnew⟩
  · rintro h name ⟨⟨hname, hcomment⟩, hnew⟩
    obtain ⟨f, hf, rfl⟩ := List.mem_map.mp hname
    exact hnew (h f hf hcomment)

theorem ofFields_of_unknown {fields : Json.Fields} (h : unknown (relevant fields) ≠ []) :
    ofFields fields = .error (.unknownNames (unknown (relevant fields))) := by
  unfold ofFields
  simp only [List.isEmpty_eq_false_iff.mpr h]
  rfl

theorem ofFields_of_known {fields : Json.Fields} (h : unknown (relevant fields) = []) :
    ofFields fields = (do
      let enable ← readBool (relevant fields) enableName true
      let keepRepeats ← readBool (relevant fields) keepRepeatsName false
      let keepGaps ← readBool (relevant fields) keepGapsName false
      let tablePath ← readPath (relevant fields)
      let enabled ← readTexts (relevant fields) enabledName []
      let functions ← readTexts (relevant fields) functionsName defaultFunctions
      let custom ← readLanguages (relevant fields)
      return ⟨enable, tablePath, keepRepeats, keepGaps, enabled, custom, functions⟩) := by
  unfold ofFields
  simp only [h]
  rfl

theorem ofFields_eq_ok {fields : Json.Fields} {s : Settings} : ofFields fields = .ok s ↔ Means fields s := by
  by_cases h : unknown (relevant fields) = []
  · rw [ofFields_of_known h]
    simp only [bind_eq_ok, readBool_eq_ok, readPath_eq_ok, readTexts_eq_ok, readLanguages_eq_ok,
      given_relevant (by decide : enableName ∈ knownNames),
        given_relevant (by decide : keepRepeatsName ∈ knownNames),
      given_relevant (by decide : keepGapsName ∈ knownNames),
        given_relevant (by decide : tablePathName ∈ knownNames),
      given_relevant (by decide : enabledName ∈ knownNames),
        given_relevant (by decide : functionsName ∈ knownNames),
      given_relevant (by decide : customName ∈ knownNames)]
    constructor
    · rintro ⟨_, henable, _, hrepeats, _, hgaps, _, hpath, _, henabled, _, hfunctions, _, hcustom, heq⟩
      cases heq
      exact ⟨unknown_eq_nil.mp h, henable, hrepeats, hgaps, hpath, henabled, hfunctions, hcustom⟩
    · intro hs
      exact ⟨_, hs.enable, _, hs.keepRepeats, _, hs.keepGaps, _, hs.tablePath, _, hs.enabled, _, hs.functions,
        _, hs.custom, rfl⟩
  · rw [ofFields_of_unknown h]
    constructor
    · nofun
    · exact fun hs => absurd (unknown_eq_nil.mpr hs.known) h

/-- What is wrong with the fields that are no comments is wrong with the object. -/
theorem Refuses.of_relevant {fields : Json.Fields} {f : SettingsFault} (h : Refuses (relevant fields) f) :
    Refuses fields f := by
  have hchoices : ∀ n ∈ [enableName, keepRepeatsName, keepGapsName], n ∈ knownNames := by decide
  have hlists : ∀ n ∈ [enabledName, functionsName], n ∈ knownNames := by decide
  have hpath : tablePathName ∈ knownNames := by decide
  have hcustom : customName ∈ knownNames := by decide
  have hgiven : ∀ {name : Text} {v : Json}, name ∈ knownNames → Json.field? (relevant fields) name = some v →
      Json.field? fields name = some v := fun hname hv => (field?_relevant fields hname).symm.trans hv
  cases h with
  | unknown found ordered members =>
    refine .unknown found ordered fun n => (members n).trans ?_
    rw [mem_names_relevant]
    exact ⟨fun ⟨⟨hname, _⟩, hrest⟩ => ⟨hname, hrest⟩,
      fun ⟨hname, hcomment, hnew⟩ => ⟨⟨hname, hcomment⟩, hcomment, hnew⟩⟩
  | choice choice given bad => exact .choice choice (hgiven (hchoices _ choice) given) bad
  | path given bad => exact .path (hgiven hpath given) bad
  | texts list given bad => exact .texts list (hgiven (hlists _ list) given) bad
  | entry list given among bad => exact .entry list (hgiven (hlists _ list) given) among bad
  | languages given bad => exact .languages (hgiven hcustom given) bad
  | language given among bad => exact .language (hgiven hcustom given) among bad

theorem ofFields_error {fields : Json.Fields} {f : SettingsFault} (h : ofFields fields = .error f) :
    Refuses fields f := by
  have hchoice : ∀ {name : Text} {d : Bool}, name ∈ [enableName, keepRepeatsName, keepGapsName] →
      readBool (relevant fields) name d = .error f → Refuses (relevant fields) f := by
    intro name d hname hread
    obtain ⟨rfl, v, hv, hbad⟩ := readBool_error hread
    exact .choice hname hv hbad
  by_cases hknown : unknown (relevant fields) = []
  · apply Refuses.of_relevant
    rw [ofFields_of_known hknown] at h
    -- the first reader that fails gives the fault
    rcases bind_eq_error.mp h with hread | ⟨_, _, h⟩
    · exact hchoice (by decide) hread
    rcases bind_eq_error.mp h with hread | ⟨_, _, h⟩
    · exact hchoice (by decide) hread
    rcases bind_eq_error.mp h with hread | ⟨_, _, h⟩
    · exact hchoice (by decide) hread
    rcases bind_eq_error.mp h with hread | ⟨_, _, h⟩
    · obtain ⟨rfl, v, hv, hbad⟩ := readPath_error hread
      exact .path hv hbad
    rcases bind_eq_error.mp h with hread | ⟨_, _, h⟩
    · exact readTexts_error (by decide) hread
    rcases bind_eq_error.mp h with hread | ⟨_, _, h⟩
    · exact readTexts_error (by decide) hread
    rcases bind_eq_error.mp h with hread | ⟨_, _, h⟩
    · exact readLanguages_error hread
    · cases h
  · rw [ofFields_of_unknown hknown] at h
    cases h
    refine .unknown hknown (unknown_ordered _) fun n => ?_
    rw [mem_unknown, mem_names_relevant, and_assoc]

theorem unknown_of_perm {fields other : Json.Fields} (h : other.Perm fields) : unknown other = unknown fields := by
  have hperm : (unknown other).Perm (unknown fields) :=
    (Sorting.sortBy_perm _ _).trans (((h.map _).filter _).trans (Sorting.sortBy_perm _ _).symm)
  exact hperm.eq_of_pairwise (fun _ _ _ _ hab hba => Text.le_antisymm hab hba) (unknown_ordered other)
    (unknown_ordered fields)

/-- Neither comments nor the order of fields decide anything. -/
theorem ofFields_of_perm {fields other : Json.Fields} (hn : ((relevant fields).map (·.1)).Nodup)
    (h : (relevant other).Perm (relevant fields)) : ofFields other = ofFields fields := by
  have hfield := Json.field?_of_perm hn h
  have hunknown := unknown_of_perm h
  by_cases hknown : unknown (relevant fields) = []
  · rw [ofFields_of_known hknown, ofFields_of_known (hunknown.trans hknown)]
    -- every reader goes through lookups alone
    simp only [readBool, readPath, readTexts, readLanguages, hfield]
  · rw [ofFields_of_unknown hknown, ofFields_of_unknown (hunknown ▸ hknown), hunknown]

/-- An object is read as the settings that it means; one that means none is refused for what is wrong with it. The
order of its fields and its comments change nothing. -/
theorem ofFields_exact (fields : Json.Fields) :
    (∀ s, ofFields fields = .ok s ↔ Means fields s) ∧
      ((¬ ∃ s, Means fields s) → ∃ f, ofFields fields = .error f ∧ Refuses fields f) ∧
      (∀ other, ((relevant fields).map (·.1)).Nodup → (relevant other).Perm (relevant fields) →
        ofFields other = ofFields fields) := by
  refine ⟨fun s => ofFields_eq_ok, fun hnone => ?_, fun other => ofFields_of_perm⟩
  cases h : ofFields fields with
  | ok s => exact absurd ⟨s, ofFields_eq_ok.mp h⟩ hnone
  | error f => exact ⟨f, rfl, ofFields_error h⟩

/-- Repeats, a rule without a group, and comments; and two faults in either order. -/
theorem ofFields_exact_mixed :
    Means [("_note".toList, .null), (enabledName, .arr [.str "ruby".toList, .str "vue".toList, .str "ruby".toList]),
        (customName, .arr [.obj [
          ("patterns".toList, .arr [
            .obj [("regex".toList, .str "c".toList)],
            .obj [("capture_group".toList, .int 2), ("regex".toList, .str "d".toList)]]),
          ("language_id".toList, .str "x".toList)]]),
        (enableName, .bool false)]
      ⟨false, [], false, false, ["ruby".toList, "vue".toList],
        [⟨"x".toList, [⟨"c".toList, 1⟩, ⟨"d".toList, 2⟩]⟩], defaultFunctions⟩ ∧
    ofFields [(keepGapsName, .int 1), ("_note".toList, .null), (enableName, .str "no".toList)] =
      ofFields [(enableName, .str "no".toList), (keepGapsName, .int 1)] ∧
    ofFields [(enableName, .str "no".toList), (keepGapsName, .int 1)] = .error (.notBoolean enableName) :=
  ⟨((ofFields_exact _).1 _).mp rfl, (ofFields_exact _).2.2 _ (by decide) (.swap _ _ []), rfl⟩

end Settings

end ClassTidy
