/-
  ClassTidy.Proofs.RuleFaults — rules that cannot be used, and what they leave alone.

  Reading a rule ends in one of four ways (`read_cases`): the group is negative, the pattern
  is read, the pattern has a fault, or reading breaks down. Where nothing breaks down, the
  rules of a list are those in use and those that are errors, each of them in order
  (`usable_raws`, `errors_raws`).

  An error is not in use, and a rule whose group its pattern does not have finds nothing.
  Such rules can stand anywhere between others (`Woven`). What is found is the same without
  them (`ofMatches_woven`), except that a torn match ends the search, whichever rule it
  belongs to (`torn_woven`, `find_woven`).

  Proved (`faults_apart`): all of this holds of every list of rules, and an error in one
  language changes nothing in a registry but what is told about it: the strict registry is the
  other one, or the errors of the other one.
-/
import ClassTidy.Proofs.SpanPlaces
import ClassTidy.Settings.Registry

namespace ClassTidy

/-! ## One rule -/

namespace RawRule

/-- Reading the pattern ends, with the pattern or with a fault. -/
def isReadable (raw : RawRule) : Bool :=
  match Pattern.read raw.regex with
  | .error (.breakdown _) => false
  | _ => true

/-- The pattern is one, and the group is not negative. -/
def isSound (raw : RawRule) : Bool := 0 ≤ raw.group && (Pattern.read raw.regex).isOk

/-- The group is negative, the pattern has a fault, or it does not have the group. -/
def isUseless (raw : RawRule) : Bool :=
  raw.group < 0 || match Pattern.read raw.regex with
    | .ok p => p.groups < raw.group
    | .error (.fault _) => true
    | .error (.breakdown _) => false

end RawRule

/-- The cause of an error is what is wrong with its rule. -/
def RuleError.Tells (e : RuleError) : Prop :=
  match e.cause with
  | .negativeGroup g => e.rule.group < 0 ∧ g = e.rule.group
  | .badPattern f => 0 ≤ e.rule.group ∧ Pattern.read e.rule.regex = .error (.fault f)

namespace Rule

/-- A rule as it was given. -/
def raw (r : Rule) : RawRule := ⟨r.regex, r.group⟩

theorem read_cases (raw : RawRule) :
    raw.group < 0 ∧ read raw = .error (.negativeGroup raw.group) ∨
    0 ≤ raw.group ∧ ((∃ p, Pattern.read raw.regex = .ok p ∧
      read raw = .rule ⟨raw.regex, p, raw.group.toNat⟩) ∨
      (∃ f, Pattern.read raw.regex = .error (.fault f) ∧ read raw = .error (.badPattern f)) ∨
      ∃ b, Pattern.read raw.regex = .error (.breakdown b) ∧ read raw = .breakdown b) := by
  unfold read
  split
  · rename_i hneg
    exact Or.inl ⟨hneg, rfl⟩
  · rename_i hneg
    refine Or.inr ⟨Int.not_lt.mp hneg, ?_⟩
    split
    · rename_i p hp
      exact Or.inl ⟨p, hp, rfl⟩
    · rename_i f hf
      exact Or.inr (Or.inl ⟨f, hf, rfl⟩)
    · rename_i b hb
      exact Or.inr (Or.inr ⟨b, hb, rfl⟩)

theorem read_rule {raw : RawRule} {r : Rule} (h : read raw = .rule r) :
    r.raw = raw ∧ Pattern.read r.regex = .ok r.pattern := by
  rcases read_cases raw with ⟨-, e⟩ | ⟨hgroup, ⟨p, hp, e⟩ | ⟨f, -, e⟩ | ⟨b, -, e⟩⟩
  · rw [e] at h; cases h
  · rw [e] at h
    obtain rfl := RuleReading.rule.inj h
    refine ⟨?_, hp⟩
    show (⟨raw.regex, (raw.group.toNat : Int)⟩ : RawRule) = raw
    rw [Int.toNat_of_nonneg hgroup]
  · rw [e] at h; cases h
  · rw [e] at h; cases h

theorem read_error {raw : RawRule} {c : RuleCause} (language : Text) (h : read raw = .error c) :
    RuleError.Tells ⟨raw, c, language⟩ := by
  rcases read_cases raw with ⟨hgroup, e⟩ | ⟨hgroup, ⟨p, -, e⟩ | ⟨f, hf, e⟩ | ⟨b, -, e⟩⟩
  · rw [e] at h
    obtain rfl := RuleReading.error.inj h
    exact ⟨hgroup, rfl⟩
  · rw [e] at h; cases h
  · rw [e] at h
    obtain rfl := RuleReading.error.inj h
    exact ⟨hgroup, hf⟩
  · rw [e] at h; cases h

/-- A useless rule is an error, or its group is none of its pattern's. -/
theorem read_useless {raw : RawRule} (h : raw.isUseless = true) :
    (∃ c, read raw = .error c) ∨ ∃ r, read raw = .rule r ∧ r.isIdle = true := by
  rcases read_cases raw with ⟨-, e⟩ | ⟨hgroup, ⟨p, hp, e⟩ | ⟨f, -, e⟩ | ⟨b, hb, -⟩⟩
  · exact Or.inl ⟨_, e⟩
  · have hidle : p.groups < raw.group.toNat := by
      simp only [RawRule.isUseless, hp, Bool.or_eq_true, decide_eq_true_eq] at h
      omega
    exact Or.inr ⟨_, e, decide_eq_true hidle⟩
  · exact Or.inl ⟨_, e⟩
  · simp only [RawRule.isUseless, hb, Bool.or_false, decide_eq_true_eq] at h
    omega

/-! ## Lists of rules -/

variable {raws xs ys zs : List RawRule} {r : Rule} {t : Text} {names : List Text}

theorem usable_rule {x : RawRule} (h : read x = .rule r) (raws : List RawRule) :
    usable (x :: raws) = r :: usable raws :=
  List.filterMap_cons_some (by rw [h])

theorem usable_error {x : RawRule} {c : RuleCause} (h : read x = .error c) (raws : List RawRule) :
    usable (x :: raws) = usable raws :=
  List.filterMap_cons_none (by rw [h])

theorem usable_breakdown {x : RawRule} {b : Breakdown} (h : read x = .breakdown b) (raws : List RawRule) :
    usable (x :: raws) = usable raws :=
  List.filterMap_cons_none (by rw [h])

theorem mem_usable : r ∈ usable raws ↔ ∃ raw ∈ raws, read raw = .rule r := by
  unfold usable
  rw [List.mem_filterMap]
  refine exists_congr fun raw => and_congr_right fun _ => ?_
  cases read raw <;> simp

theorem mem_errors {language : Text} {e : RuleError} (h : e ∈ errors language raws) :
    e.language = language ∧ e.Tells := by
  obtain ⟨raw, -, hraw⟩ := List.mem_filterMap.mp h
  split at hraw
  · rename_i c hread
    obtain rfl := Option.some.inj hraw
    exact ⟨rfl, read_error language hread⟩
  · cases hraw

/-- The rules in use are the sound ones, in order. -/
theorem usable_raws (raws : List RawRule) : (usable raws).map raw = raws.filter RawRule.isSound := by
  induction raws with
  | nil => rfl
  | cons x raws ih =>
    rcases read_cases x with ⟨hgroup, e⟩ | ⟨hgroup, ⟨p, hp, e⟩ | ⟨f, hf, e⟩ | ⟨b, hb, e⟩⟩
    · rw [usable_error e, ih, List.filter_cons_of_neg]
      simp [RawRule.isSound, hgroup]
    · rw [usable_rule e, List.map_cons, ih, (read_rule e).1, List.filter_cons_of_pos]
      simp [RawRule.isSound, hgroup, hp, Except.isOk, Except.toBool]
    · rw [usable_error e, ih, List.filter_cons_of_neg]
      simp [RawRule.isSound, hf, Except.isOk, Except.toBool]
    · rw [usable_breakdown e, ih, List.filter_cons_of_neg]
      simp [RawRule.isSound, hb, Except.isOk, Except.toBool]

/-- The errors are those of the other rules, in order. -/
theorem errors_raws (language : Text) (h : ∀ raw ∈ raws, raw.isReadable = true) :
    (errors language raws).map (·.rule) = raws.filter fun raw => !raw.isSound := by
  induction raws with
  | nil => rfl
  | cons x raws ih =>
    obtain ⟨hx, hrest⟩ := List.forall_mem_cons.mp h
    have ih := ih hrest
    unfold errors at ih ⊢
    rcases read_cases x with ⟨hgroup, e⟩ | ⟨hgroup, ⟨p, hp, e⟩ | ⟨f, hf, e⟩ | ⟨b, hb, e⟩⟩
    · rw [List.filterMap_cons_some (by rw [e]), List.map_cons, ih, List.filter_cons_of_pos]
      simp [RawRule.isSound, hgroup]
    · rw [List.filterMap_cons_none (by rw [e]), ih, List.filter_cons_of_neg]
      simp [RawRule.isSound, hgroup, hp, Except.isOk, Except.toBool]
    · rw [List.filterMap_cons_some (by rw [e]), List.map_cons, ih, List.filter_cons_of_pos]
      simp [RawRule.isSound, hf, Except.isOk, Except.toBool]
    · rw [RawRule.isReadable, hb] at hx; cases hx

theorem breakdown?_eq_none : breakdown? raws = none ↔ ∀ raw ∈ raws, ∀ b, read raw ≠ .breakdown b := by
  unfold breakdown?
  rw [List.findSome?_eq_none_iff]
  refine forall₂_congr fun raw _ => ?_
  cases read raw <;> simp

theorem breakdown?_of_readable (h : ∀ raw ∈ raws, raw.isReadable = true) : breakdown? raws = none := by
  refine breakdown?_eq_none.mpr fun raw hraw b hread => ?_
  rcases read_cases raw with ⟨-, e⟩ | ⟨-, ⟨p, -, e⟩ | ⟨f, -, e⟩ | ⟨b', hb, -⟩⟩
  · rw [e] at hread; cases hread
  · rw [e] at hread; cases hread
  · rw [e] at hread; cases hread
  · have := h raw hraw
    rw [RawRule.isReadable, hb] at this; cases this

/-- Rules are read, or reading one of them breaks down. -/
theorem compile_eq (h : breakdown? raws = none) (language : Text) :
    compile language false raws = .ok (usable raws) := by
  rw [compile, h]
  rfl

theorem compile_strict (h : breakdown? raws = none) (language : Text) :
    compile language true raws =
      if errors language raws = [] then .ok (usable raws) else .error (.errors (errors language raws)) := by
  rw [compile, h]
  cases errors language raws <;> rfl

/-! ## Rules between others -/

/-- The rules of `zs` put between those of `xs`. -/
inductive Woven : List RawRule → List RawRule → List RawRule → Prop
  | nil : Woven [] [] []
  | keep {xs zs ys : List RawRule} (x : RawRule) : Woven xs zs ys → Woven (x :: xs) zs (x :: ys)
  | put {xs zs ys : List RawRule} (z : RawRule) : Woven xs zs ys → Woven xs (z :: zs) (z :: ys)

theorem Woven.mem_iff (h : Woven xs zs ys) {raw : RawRule} : raw ∈ ys ↔ raw ∈ xs ∨ raw ∈ zs := by
  induction h with
  | nil => simp
  | keep x _ ih => simp only [List.mem_cons, ih, or_assoc]
  | put z _ ih => simp only [List.mem_cons, ih, or_left_comm]

theorem breakdown?_woven (h : Woven xs zs ys) (hz : ∀ z ∈ zs, z.isUseless = true) (hx : breakdown? xs = none) :
    breakdown? ys = none := by
  refine breakdown?_eq_none.mpr fun raw hraw b hread => ?_
  rcases h.mem_iff.mp hraw with hin | hin
  · exact breakdown?_eq_none.mp hx raw hin b hread
  · rcases read_useless (hz raw hin) with ⟨c, e⟩ | ⟨r, e, -⟩
    · rw [e] at hread; cases hread
    · rw [e] at hread; cases hread

/-- A rule whose group its pattern does not have finds nothing. -/
theorem span?_idle (h : r.isIdle = true) (m : Match) : r.span? t m = none := if_pos h

theorem ofMatches_woven (t : Text) (h : Woven xs zs ys) (hz : ∀ z ∈ zs, z.isUseless = true) :
    Span.ofMatches t (usable ys) = Span.ofMatches t (usable xs) := by
  induction h with
  | nil => rfl
  | keep x _ ih =>
    have ih := ih hz
    cases hread : read x with
    | rule r =>
      rw [usable_rule hread, usable_rule hread]
      unfold Span.ofMatches at ih ⊢
      rw [List.flatMap_cons, List.flatMap_cons, ih]
    | error c => rw [usable_error hread, usable_error hread, ih]
    | breakdown b => rw [usable_breakdown hread, usable_breakdown hread, ih]
  | put z _ ih =>
    obtain ⟨huseless, hz⟩ := List.forall_mem_cons.mp hz
    have ih := ih hz
    rcases read_useless huseless with ⟨c, e⟩ | ⟨r, e, hidle⟩
    · rw [usable_error e, ih]
    · have hnone : (r.pattern.allMatches t).filterMap (r.span? t) = [] :=
        List.filterMap_eq_nil_iff.mpr fun m _ => span?_idle hidle m
      rw [usable_rule e]
      unfold Span.ofMatches at ih ⊢
      rw [List.flatMap_cons, hnone, List.nil_append, ih]

/-- Whether a match is torn is a matter of one rule. -/
theorem torn_woven (t : Text) (h : Woven xs zs ys) :
    Span.Torn t (usable ys) ↔ Span.Torn t (usable xs) ∨ Span.Torn t (usable zs) := by
  unfold Span.Torn
  rw [← exists_or]
  refine exists_congr fun r => ?_
  rw [← or_and_right]
  refine and_congr_left fun _ => ?_
  simp only [mem_usable, h.mem_iff, or_and_right, exists_or]

end Rule

namespace Span

theorem find_torn {t : Text} {rules : List Rule} (h : Torn t rules) (names : List Text) :
    find t rules names = .error .tornGroup := by
  rcases ofRules_cases t rules with ⟨hrules, -⟩ | ⟨-, hwhole⟩
  · rw [find, hrules]
  · exact absurd h hwhole

theorem find_whole {t : Text} {rules : List Rule} (h : ¬ Torn t rules) (names : List Text) :
    find t rules names = .ok (merge (ofMatches t rules) (ofCalls t names)) := by
  rcases ofRules_cases t rules with ⟨-, htorn⟩ | ⟨hrules, -⟩
  · exact absurd htorn h
  · rw [find, hrules]

/-- Useless rules change nothing in what is found, unless a match of their own is torn. -/
theorem find_woven {xs zs ys : List RawRule} (h : Rule.Woven xs zs ys) (hz : ∀ z ∈ zs, z.isUseless = true)
    {t : Text} (hwhole : ¬ Torn t (Rule.usable zs)) (names : List Text) :
    find t (Rule.usable ys) names = find t (Rule.usable xs) names := by
  by_cases htorn : Torn t (Rule.usable xs)
  · rw [find_torn htorn, find_torn ((Rule.torn_woven t h).mpr (Or.inl htorn))]
  · have hys : ¬ Torn t (Rule.usable ys) := fun hys => ((Rule.torn_woven t h).mp hys).elim htorn hwhole
    rw [find_whole htorn, find_whole hys, Rule.ofMatches_woven t h hz]

end Span

/-! ## Registries -/

namespace Registry

variable {s : Settings}

theorem breakdown?_of_readable (h : ∀ l ∈ s.languages, ∀ raw ∈ l.rules, raw.isReadable = true) :
    breakdown? s = none := by
  unfold breakdown?
  rw [List.findSome?_eq_none_iff]
  exact fun l hl => Rule.breakdown?_of_readable (h l hl)

/-- A registry that is built is the one with its errors kept beside. -/
theorem build_eq_ok {strict : Bool} {r : Registry} :
    build s strict = .ok r ↔ breakdown? s = none ∧ (strict = true → (lenient s).errors = []) ∧
      r = lenient s := by
  unfold build
  split
  · rename_i b h
    exact ⟨nofun, fun e => absurd (h.symm.trans e.1) nofun⟩
  · rename_i h
    simp only [h, true_and]
    split
    · rename_i hstrict
      simp only [Bool.and_eq_true, Bool.not_eq_true', List.isEmpty_eq_false_iff] at hstrict
      exact ⟨nofun, fun e => absurd (e.1 hstrict.1) hstrict.2⟩
    · rename_i hstrict
      simp only [Bool.and_eq_true, Bool.not_eq_true', List.isEmpty_eq_false_iff, not_and, not_not] at hstrict
      exact ⟨fun e => ⟨hstrict, (Except.ok.inj e).symm⟩, fun e => by rw [e.2]⟩

theorem build_strict (h : breakdown? s = none) :
    build s true = if (lenient s).errors = [] then .ok (lenient s) else .error (.badRules (lenient s).errors) := by
  rw [build, h]
  simp only
  cases (lenient s).errors <;> rfl

end Registry

/-- Where reading patterns ends with a pattern or a fault: each rule of a list is in use or an error, both in order,
and each error names its rule and what is wrong with it. Useless rules put anywhere between them change nothing in
what is found, unless one of their own matches is torn, which ends the search. A strict registry is the same as one
that is not, or the errors of that one. -/
theorem faults_apart (language : Text) (raws : List RawRule) (s : Settings)
    (hraws : ∀ raw ∈ raws, raw.isReadable = true)
    (hs : ∀ l ∈ s.languages, ∀ raw ∈ l.rules, raw.isReadable = true) :
    (∃ rules, Rule.compile language false raws = .ok rules ∧
      rules.map Rule.raw = raws.filter RawRule.isSound ∧ (∀ r ∈ rules, Pattern.read r.regex = .ok r.pattern) ∧
      (Rule.errors language raws).map (·.rule) = raws.filter (fun raw => !raw.isSound) ∧
      (∀ e ∈ Rule.errors language raws, e.language = language ∧ e.Tells) ∧
      (Rule.compile language true raws =
        if Rule.errors language raws = [] then .ok rules else .error (.errors (Rule.errors language raws))) ∧
      ∀ zs ys, Rule.Woven raws zs ys → (∀ z ∈ zs, z.isUseless = true) →
        ∃ more, Rule.compile language false ys = .ok more ∧ ∀ t names,
          (¬ Span.Torn t (Rule.usable zs) → Span.find t more names = Span.find t rules names) ∧
          (Span.Torn t (Rule.usable zs) → Span.find t more names = .error .tornGroup)) ∧
    ∃ r, Registry.build s false = .ok r ∧ r.errors = s.languages.flatMap (fun l => Rule.errors l.id l.rules) ∧
      Registry.build s true = if r.errors = [] then .ok r else .error (.badRules r.errors) := by
  have hwhole := Rule.breakdown?_of_readable hraws
  have hread := Registry.breakdown?_of_readable hs
  refine ⟨⟨_, Rule.compile_eq hwhole language, Rule.usable_raws raws, fun r hr => ?_,
    Rule.errors_raws language hraws,
    fun e he => Rule.mem_errors he, Rule.compile_strict hwhole language, fun zs ys hwoven hz => ?_⟩,
    _, Registry.build_eq_ok.mpr ⟨hread, nofun, rfl⟩, ?_, Registry.build_strict hread⟩
  · obtain ⟨raw, -, hraw⟩ := Rule.mem_usable.mp hr
    exact (Rule.read_rule hraw).2
  · refine ⟨_, Rule.compile_eq (Rule.breakdown?_woven hwoven hz hwhole) language,
      fun t names => ⟨fun h => ?_, fun h => ?_⟩⟩
    · exact Span.find_woven hwoven hz h names
    · exact Span.find_torn ((Rule.torn_woven t hwoven).mpr (Or.inr h)) names
  · exact List.flatMap_map ..

/-- Errors of both kinds around a rule that is in use, with two more rules put in that find nothing, and a custom
language with an error. -/
theorem faults_apart_mixed :
    let good := Language.rule "class=\"([^\"]+)\""
    let raws : List RawRule := [Language.rule "(", good, ⟨"a(b)".toList, -1⟩]
    let zs : List RawRule := [⟨"(x)".toList, 2⟩, Language.rule "["]
    let ys : List RawRule :=
      [⟨"(x)".toList, 2⟩, Language.rule "(", Language.rule "[", good, ⟨"a(b)".toList, -1⟩]
    let t : Text := "<p class=\"flex\"> x".toList
    let s : Settings := { Settings.default with custom := [⟨"svelte".toList, [Language.rule "([", good]⟩] }
    (∃ rules more, Rule.compile [] false raws = .ok rules ∧ Rule.compile [] false ys = .ok more ∧
      rules.map Rule.raw = [good] ∧ ¬ Span.Torn t (Rule.usable zs) ∧
        ∀ names, Span.find t more names = Span.find t rules names) ∧
    ∃ r, Registry.build s false = .ok r ∧ r.errors.map (·.rule) = [Language.rule "(["] ∧
      Registry.build s true = .error (.badRules r.errors) := by
  intro good raws zs ys t s
  have hraws : ∀ raw ∈ raws, raw.isReadable = true := by decide +kernel
  have hs : s.languages.all (fun l => l.rules.all RawRule.isReadable) = true := by decide +kernel
  have hwhole : ¬ Span.Torn t (Rule.usable zs) := by unfold Span.Torn; decide +kernel
  have hwoven : Rule.Woven raws zs ys := .put _ (.keep _ (.put _ (.keep _ (.keep _ .nil))))
  obtain ⟨⟨rules, hrules, hsound, -, -, -, -, hput⟩, r, hr, herrors, hstrict⟩ :=
    faults_apart [] raws s hraws fun l hl raw hraw =>
    List.all_eq_true.mp (List.all_eq_true.mp hs l hl) raw hraw
  obtain ⟨more, hmore, hfind⟩ := hput zs ys hwoven (by decide +kernel)
  have hlist : r.errors.map (·.rule) = [Language.rule "(["] := by rw [herrors]; decide +kernel
  have hgood : raws.filter RawRule.isSound = [good] := by decide +kernel
  refine ⟨⟨rules, more, hrules, hmore, hsound.trans hgood, hwhole, fun names => (hfind t names).1 hwhole⟩,
    r, hr, hlist, ?_⟩
  rw [hstrict, if_neg]
  intro hnone
  rw [hnone] at hlist
  cases hlist

/-- The group is none of the pattern's, so the rule finds nothing; a match of it is torn all the same, and the class
string of the other rule is lost. -/
theorem torn_useless :
    let z : RawRule := ⟨"(?:(ab)|a)*+".toList, 2⟩
    let x := Language.rule "class=\"([^\"]+)\""
    let t : Text := "class=\"flex\" abaa".toList
    z.isUseless = true ∧ Span.find t (Rule.usable [z, x]) [] = .error .tornGroup ∧
      Span.find t (Rule.usable [x]) [] = .ok [⟨"class=\"flex\"".toList, "flex".toList, 0, 7, 11, .rule⟩] := by
  decide +kernel

end ClassTidy
