/-
  ClassTidy.Proofs.Strings — strings as the search for a parenthesis sees them.

  Two readers look for strings in the arguments of a call. The search for the closing
  parenthesis goes in and out of quotes on its way (`strings`), and then literals are looked
  for in what it has gone through. The search hides any character behind a backslash,
  wherever that stands. A literal knows backslashes between its own quotes only, and none
  before a newline. So they can part in two places (`Alike`): at a newline that is hidden
  between quotes, where the literal is given up, and at a quote that is hidden outside of
  them, where a literal may begin. From there on quotes are paired off by one.

  Elsewhere they go through the text side by side, over one character, one pair or one string
  at a time (`Passed`, `literals_eq_strings_iff`). Where they part they never meet again: one
  reports something at an offset that the other has left behind.

  Proved (`literals_iff_alike`): the literals are the strings that the search has gone in and
  out of exactly if no newline is hidden between quotes and no quote that is hidden outside of
  them begins a literal. A line that is continued in a string breaks it
  (`literals_iff_alike_continued`): what stands between that string and the next one is taken
  for a literal, and both strings are missed.
-/
import ClassTidy.Proofs.Balance

namespace ClassTidy.Literal

/-! ## Literals -/

/-- A literal's value and where it starts. -/
def entry (l : Literal) : Text × Nat := (l.value, l.start)

theorem scan_pass {c : Char} (hq : isQuote c = false) (i : Nat) (t : Text) : scan 0 i (c :: t) = scan 0 (i + 1) t := by
  simp [scan, hq]

/-- Behind a literal the scan goes on. -/
theorem scan_quoted {q : Char} (hq : isQuote q = true) {v : Text} (h : Body q v) (i : Nat) (t : Text) :
    scan 0 i (q :: v ++ q :: t) = ⟨v, i + 1, q :: v ++ [q]⟩ :: scan 0 (i + 1 + v.length + 1) t := by
  have hdrop : (v ++ q :: t).drop (v.length + 1) = t := by simp
  rw [List.cons_append, scan_read hq (h.read (quote_ne_backslash hq) t), scan_eq_sweep, Text.sweep_skip,
    ← scan_eq_sweep, hdrop, Nat.add_assoc (i + 1)]

theorem body_plain_iff {q c : Char} {v : Text} (quote : c ≠ q) (backslash : c ≠ '\\') :
    Body q (c :: v) ↔ Body q v := by
  constructor
  · intro h
    cases h with
    | plain _ _ rest => exact rest
    | pair _ _ => exact absurd rfl backslash
  · exact .plain quote backslash

theorem body_pair_iff {q c : Char} {v : Text} : Body q ('\\' :: c :: v) ↔ c ≠ '\n' ∧ Body q v := by
  constructor
  · intro h
    cases h with
    | plain _ backslash _ => exact absurd rfl backslash
    | pair line rest => exact ⟨line, rest⟩
  · rintro ⟨line, rest⟩
    exact .pair line rest

/-- A literal that begins with a string ends with it. -/
theorem eq_of_body?_quoted {q : Char} {v : Text} (h : Span.Quoted q v) {t w : Text}
    (hread : body? q (v ++ q :: t) = some w) (hq : q ≠ '\\') : w = v := by
  induction h generalizing w with
  | nil =>
    rw [List.nil_append, body?_cons, if_pos rfl] at hread
    exact (Option.some.inj hread).symm
  | plain quote backslash _ ih =>
    rw [List.cons_append, body?_cons, if_neg quote, if_neg backslash] at hread
    obtain ⟨w, hw, rfl⟩ := Option.map_eq_some_iff.mp hread
    rw [ih hw]
  | pair c _ ih =>
    rw [List.cons_append, List.cons_append, body?_cons, if_neg hq.symm, if_pos rfl] at hread
    by_cases hline : c = '\n'
    · simp [hline] at hread
    · simp only [if_neg hline] at hread
      obtain ⟨w, hw, rfl⟩ := Option.map_eq_some_iff.mp hread
      rw [ih hw]

end ClassTidy.Literal

namespace ClassTidy.Span

open Literal (isQuote body? scan Body)

/-! ## Strings -/

/-- The strings that the search goes in and out of, each with the offset behind its opening quote. The text starts at
offset `i`; between quotes, `value` is what has been passed since offset `start`. -/
def strings (s : Nat × Option Char × Bool) (i : Nat) (value : Text) (start : Nat) : Text → List (Text × Nat)
  | [] => []
  | c :: t =>
    match advance s.1 s.2.1 s.2.2 c with
    | none => []
    | some s' =>
      match s.2.1, s'.2.1 with
      | none, _ => strings s' (i + 1) [] (i + 1) t
      | some _, some _ => strings s' (i + 1) (value ++ [c]) start t
      | some _, none => (value, start) :: strings s' (i + 1) [] (i + 1) t

/-- The strings that are passed on the way from the parenthesis at an offset to the one that closes it; offsets count
from behind the parenthesis. -/
def stringsAt (t : Text) (i : Nat) : List (Text × Nat) := strings (0, none, false) 0 [] 0 (t.drop (i + 1))

section Steps

variable {depth d : Nat} {escaped e : Bool} {c q q' : Char}

theorem strings_outside {quote : Option Char} (h : advance depth none escaped c = some (d, quote, e)) (i : Nat)
    (value : Text) (start : Nat) (t : Text) :
    strings (depth, none, escaped) i value start (c :: t) = strings (d, quote, e) (i + 1) [] (i + 1) t := by
  simp [strings, h]

theorem strings_inside (h : advance depth (some q) escaped c = some (d, some q', e)) (i : Nat) (value : Text)
    (start : Nat) (t : Text) :
    strings (depth, some q, escaped) i value start (c :: t) = strings (d, some q', e) (i + 1)
      (value ++ [c]) start t := by
  simp [strings, h]

theorem strings_leave (h : advance depth (some q) escaped c = some (d, none, e)) (i : Nat) (value : Text) (start : Nat)
    (t : Text) :
    strings (depth, some q, escaped) i value start (c :: t) =
      (value, start) :: strings (d, none, e) (i + 1) [] (i + 1) t := by
  simp [strings, h]

end Steps

/-- A string is left behind its closing quote. -/
theorem strings_quoted {q : Char} (hq : isQuote q = true) {v : Text} (h : Quoted q v) (depth i : Nat) (value : Text)
    (start : Nat) (t : Text) :
    strings (depth, some q, false) i value start (v ++ q :: t) =
      (value ++ v, start) :: strings (depth, none, false) (i + v.length + 1) [] (i + v.length + 1) t := by
  induction h generalizing i value with
  | nil =>
    rw [List.nil_append, strings_leave (advance_leave depth hq), List.append_nil]
    rfl
  | @plain c v quote backslash _ ih =>
    have hlen : i + 1 + v.length = i + (c :: v).length := by rw [List.length_cons]; omega
    rw [List.cons_append, strings_inside (advance_inside depth quote backslash), ih, hlen, List.append_assoc,
      List.singleton_append]
  | @pair c v _ ih =>
    have hlen : i + 1 + 1 + v.length = i + ('\\' :: c :: v).length := by rw [List.length_cons, List.length_cons]; omega
    rw [List.cons_append, List.cons_append, strings_inside (advance_backslash depth (some q)),
      strings_inside (advance_hidden depth (some q) c), ih, hlen, List.append_assoc, List.append_assoc,
        List.singleton_append,
      List.singleton_append]

/-- Strings start behind the offset where the text does, an open one apart. -/
theorem le_start_of_strings {k : Nat} {t : Text} {s : Nat × Option Char × Bool} {i start : Nat} {value : Text}
    (hi : k ≤ i + 1) (hstart : s.2.1.isSome → k ≤ start) : ∀ x ∈ strings s i value start t, k ≤ x.2 := by
  induction t generalizing s i value start with
  | nil => exact fun x hx => absurd hx List.not_mem_nil
  | cons c t ih =>
    intro x hx
    rw [strings] at hx
    split at hx
    · cases hx
    · split at hx
      · exact ih (by omega) (fun _ => hi) x hx
      · rename_i hsome _
        exact ih (by omega) (fun _ => hstart (by simp [hsome])) x hx
      · rename_i hsome _
        rcases List.mem_cons.mp hx with rfl | hx
        · exact hstart (by simp [hsome])
        · exact ih (by omega) (fun _ => hi) x hx

/-- The search ends at the parenthesis that it looks for. -/
theorem strings_found {u : Text} {s : Nat × Option Char × Bool} (h : known s u = some (0, none, false)) (i : Nat)
    (value : Text) (start : Nat) (rest : Text) :
    strings s i value start (u ++ ')' :: rest) = strings s i value start u := by
  induction u generalizing s i value start with
  | nil =>
    obtain rfl : s = (0, none, false) := by simpa [known] using h
    simp [strings, advance_found]
  | cons c u ih =>
    cases hstep : advance s.1 s.2.1 s.2.2 c with
    | none => simp [known, hstep] at h
    | some s' =>
      have hrest : known s' u = some (0, none, false) := by rwa [known_cons hstep] at h
      simp only [List.cons_append, strings, hstep, ih hrest]

/-! ## Where the readers can part -/

/-- Something holds at each character of a text, of what the search knows there, the character and what is behind it. -/
def Throughout (P : Nat × Option Char × Bool → Char → Text → Prop) (s : Nat × Option Char × Bool)
    (t : Text) : Prop :=
  ∀ a c b s', t = a ++ c :: b → known s a = some s' → P s' c b

section Throughout

variable {P : Nat × Option Char × Bool → Char → Text → Prop}

theorem throughout_nil (s : Nat × Option Char × Bool) : Throughout P s [] := by
  rintro a c b s' e
  simp at e

theorem throughout_cons {depth : Nat} {quote : Option Char} {escaped : Bool} {c : Char} {s : Nat × Option Char × Bool}
    (h : advance depth quote escaped c = some s) (t : Text) :
    Throughout P (depth, quote, escaped) (c :: t) ↔ P (depth, quote, escaped) c t ∧ Throughout P s t := by
  constructor
  · intro hall
    refine ⟨hall [] c t _ rfl rfl, fun a d b s' e hs => ?_⟩
    exact hall (c :: a) d b s' (by rw [e]; rfl) (by rw [known_cons h, hs])
  · rintro ⟨hfirst, hrest⟩ a d b s' e hs
    cases a with
    | nil =>
      obtain ⟨rfl, rfl⟩ := List.cons.inj e
      obtain rfl := Option.some.inj hs
      exact hfirst
    | cons x a =>
      obtain ⟨rfl, hbehind⟩ := List.cons.inj e
      rw [known_cons h] at hs
      exact hrest a d b s' hbehind hs

end Throughout

/-- The readers stay together at a character: a hidden one is no newline between quotes, and outside of them no quote
that begins a literal. -/
structure Alike (s : Nat × Option Char × Bool) (c : Char) (rest : Text) : Prop where
  line : s.2.1.isSome → s.2.2 = true → c ≠ '\n'
  quote : s.2.1 = none → s.2.2 = true → isQuote c = true → body? c rest = none

section Alike

variable (depth : Nat) (c : Char) (rest : Text)

theorem alike_open (quote : Option Char) : Alike (depth, quote, false) c rest :=
  ⟨fun _ h => absurd h Bool.false_ne_true, fun _ h => absurd h Bool.false_ne_true⟩

theorem alike_inside (q : Char) : Alike (depth, some q, true) c rest ↔ c ≠ '\n' :=
  ⟨fun h => h.line rfl rfl, fun h => ⟨fun _ _ => h, fun hnone => absurd hnone (Option.some_ne_none q)⟩⟩

theorem alike_outside : Alike (depth, none, true) c rest ↔ (isQuote c = true → body? c rest = none) :=
  ⟨fun h => h.quote rfl rfl, fun h => ⟨fun hsome => absurd hsome Bool.false_ne_true, fun _ _ => h⟩⟩

end Alike

/-- The readers stay together in a string that a literal can hold. -/
theorem throughout_quoted {q : Char} (hq : isQuote q = true) {v : Text} (h : Quoted q v) (depth : Nat) (t : Text) :
    Throughout Alike (depth, some q, false) (v ++ q :: t) ↔ Body q v ∧ Throughout Alike (depth, none, false) t := by
  induction h with
  | nil =>
    rw [List.nil_append, throughout_cons (advance_leave depth hq), and_iff_right (alike_open ..), and_iff_right .nil]
  | plain quote backslash _ ih =>
    rw [List.cons_append, throughout_cons (advance_inside depth quote backslash), and_iff_right (alike_open ..), ih,
      Literal.body_plain_iff quote backslash]
  | pair c _ ih =>
    rw [List.cons_append, List.cons_append, throughout_cons (advance_backslash depth (some q)),
      and_iff_right (alike_open ..),
      throughout_cons (advance_hidden depth (some q) c), alike_inside, ih, Literal.body_pair_iff, and_assoc]

/-! ## Side by side -/

/-- What the search goes through outside of quotes: characters, pairs and strings. -/
inductive Passed : Nat → Text → Prop
  | nil {depth : Nat} : Passed depth []
  | step {depth d : Nat} {c : Char} {t : Text} (backslash : c ≠ '\\') (quote : isQuote c = false)
      (next : advance depth none false c = some (d, none, false)) (rest : Passed d t) : Passed depth (c :: t)
  | pair {depth : Nat} (c : Char) {t : Text} (rest : Passed depth t) : Passed depth ('\\' :: c :: t)
  | string {depth : Nat} {q : Char} {v t : Text} (quote : isQuote q = true) (inner : Quoted q v)
      (rest : Passed depth t) : Passed depth (q :: v ++ q :: t)

theorem Balanced.passed {u : Text} (h : Balanced u) {depth : Nat} {t : Text} (ht : Passed depth t) :
    Passed depth (u ++ t) := by
  induction h generalizing depth t with
  | nil => exact ht
  | plain backslash quote opening closing _ ih =>
    exact .step backslash quote (advance_pass depth backslash quote opening closing) (ih ht)
  | pair c _ ih => exact .pair c (ih ht)
  | string quote inner _ ih =>
    rw [List.append_assoc, List.cons_append]
    exact .string quote inner (ih ht)
  | group _ _ ihu iht =>
    rw [List.append_assoc, List.cons_append, List.cons_append]
    have hclose := Passed.step (by decide) (by decide) (advance_close depth) (iht ht)
    exact .step (by decide) (by decide) (advance_open depth) (ihu hclose)

/-- The readers report the same as long as they stay together, and not any more where they part. -/
theorem literals_eq_strings_iff {depth : Nat} {u : Text} (h : Passed depth u) (i : Nat) (value : Text) (start : Nat) :
    (scan 0 i u).map Literal.entry = strings (depth, none, false) i value start u ↔
    Throughout Alike (depth, none, false) u := by
  induction h generalizing i value start with
  | nil => exact iff_of_true rfl (throughout_nil _)
  | step backslash quote next _ ih =>
    rw [Literal.scan_pass quote, strings_outside next, throughout_cons next, and_iff_right (alike_open ..), ih]
  | @pair depth c t _ ih =>
    rw [Literal.scan_pass (by decide), strings_outside (advance_backslash depth none),
      strings_outside (advance_hidden depth none c),
      throughout_cons (advance_backslash depth none), and_iff_right (alike_open ..),
      throughout_cons (advance_hidden depth none c), alike_outside]
    cases hq : isQuote c with
    | false => rw [Literal.scan_pass hq, ih, and_iff_right (fun h => absurd h Bool.false_ne_true)]
    | true =>
      cases hread : body? c t with
      | none => rw [Literal.scan_unread hread, ih, and_iff_right (fun _ => rfl)]
      | some w =>
        -- the literal starts at the hidden quote, and no string starts before the next character
        refine iff_of_false (fun heq => ?_) fun ⟨hunread, _⟩ => absurd (hunread rfl) (Option.some_ne_none w)
        rw [Literal.scan_read hq hread] at heq
        have hmem : (w, i + 1 + 1) ∈ strings (depth, none, false) (i + 1 + 1) [] (i + 1 + 1) t := by
          rw [← heq]
          exact List.mem_cons_self
        have hstart : i + 1 + 1 + 1 ≤ i + 1 + 1 := le_start_of_strings le_rfl (by simp) _ hmem
        omega
  | @string depth q v t hq inner _ ih =>
    have hstrings : strings (depth, none, false) i value start (q :: v ++ q :: t) =
        (v, i + 1) :: strings (depth, none, false) (i + 1 + v.length + 1) [] (i + 1 + v.length + 1) t := by
      rw [List.cons_append, strings_outside (advance_enter depth hq), strings_quoted hq inner, List.nil_append]
    rw [hstrings, List.cons_append, throughout_cons (advance_enter depth hq), and_iff_right (alike_open ..),
      throughout_quoted hq inner, ← List.cons_append]
    by_cases hbody : Body q v
    · rw [Literal.scan_quoted hq hbody, List.map_cons, and_iff_right hbody, ← ih, List.cons.injEq]
      exact and_iff_right rfl
    · -- the string is the next one, and no literal starts at its quote
      refine iff_of_false (fun heq => ?_) fun h => hbody h.1
      have hunread : body? q (v ++ q :: t) = none := by
        rw [Option.eq_none_iff_forall_ne_some]
        intro w hread
        obtain rfl := Literal.eq_of_body?_quoted inner hread (Literal.quote_ne_backslash hq)
        exact hbody (Literal.body_of_read hread)
      rw [List.cons_append, Literal.scan_unread hunread] at heq
      have hmem : (v, i + 1) ∈ (scan 0 (i + 1) (v ++ q :: t)).map Literal.entry := by
        rw [heq]
        exact List.mem_cons_self
      obtain ⟨l, hl, hentry⟩ := List.mem_map.mp hmem
      obtain ⟨k, -, hstart, -⟩ := stands_of_scan hl
      have hsame : l.start = i + 1 := (Prod.mk.inj hentry).2
      omega

/-! ## The arguments of a call -/

/-- Where the readers can part, in terms of the text. -/
theorem throughout_alike_iff (s : Nat × Option Char × Bool) (t : Text) :
    Throughout Alike s t ↔
      (∀ a b d q, t = a ++ '\n' :: b → known s a ≠ some (d, some q, true)) ∧
      (∀ a q v b d, t = a ++ q :: v ++ q :: b → isQuote q = true → known s a = some (d, none, true) →
        ¬ Body q v) := by
  constructor
  · intro h
    refine ⟨fun a b d q e hs => (h a '\n' b _ e hs).line rfl rfl rfl, fun a q v b d e hq hs hbody => ?_⟩
    have hnone := (h a q (v ++ q :: b) _ (by rw [e, List.append_assoc, List.cons_append]) hs).quote rfl rfl hq
    rw [hbody.read (Literal.quote_ne_backslash hq)] at hnone
    cases hnone
  · rintro ⟨hline, hquote⟩ a c b ⟨d, quote, escaped⟩ e hs
    refine ⟨fun hsome hescaped => ?_, fun hnone hescaped hq => ?_⟩
    · rintro rfl
      obtain ⟨q, rfl⟩ := Option.isSome_iff_exists.mp hsome
      obtain rfl := hescaped
      exact hline a b d q e hs
    · obtain rfl := hnone
      obtain rfl := hescaped
      rw [Option.eq_none_iff_forall_ne_some]
      intro w hread
      obtain ⟨rest, rfl⟩ := body?_prefix hread
      refine hquote a c w rest d ?_ hq hs (Literal.body_of_read hread)
      rw [e]
      simp

/-- The literals of what a parenthesis encloses are the strings that the search has gone in and out of, each with its
value and where it starts and in the same order, exactly if no newline is hidden between quotes and no quote that is
hidden outside of them begins a literal. -/
theorem literals_iff_alike (t : Text) (i : Int) (e : Enclosed) (h : enclosed? t i = some e) :
    (Literal.all e.content).map Literal.entry = stringsAt t i.toNat ↔
      (∀ a b d q, e.content = a ++ '\n' :: b → known (0, none, false) a ≠ some (d, some q, true)) ∧
      (∀ a q v b d, e.content = a ++ q :: v ++ q :: b → isQuote q = true →
        known (0, none, false) a = some (d, none, true) →
        ¬ Body q v) := by
  obtain ⟨a, rest, rfl, rfl, -, hbalanced⟩ := encloses_iff.mp (enclosed?_iff.mp h)
  have hdrop : (a ++ '(' :: (e.content ++ ')' :: rest)).drop (a.length + 1) = e.content ++ ')' :: rest := by simp
  have hpassed : Passed 0 e.content := by simpa using hbalanced.passed .nil
  rw [← throughout_alike_iff, ← literals_eq_strings_iff hpassed 0 [] 0, stringsAt, Int.toNat_natCast, hdrop,
    strings_found (known_balanced hbalanced 0)]
  rfl

/-- A backslash before the end of a line hides it from the search, and the string goes on. No literal does: none is
found in front, and the next one begins at the closing quote. What is reported stands between the strings. -/
theorem literals_iff_alike_continued :
    let t : Text := "cn('m-1\\\nm-2', 'p-4 flex')".toList
    let e : Enclosed := ⟨"'m-1\\\nm-2', 'p-4 flex'".toList, 25⟩
    enclosed? t 2 = some e ∧ (Literal.all e.content).map Literal.entry = [(", ".toList, 10)] ∧
      stringsAt t 2 = [("m-1\\\nm-2".toList, 1), ("p-4 flex".toList, 13)] ∧
      (Literal.all e.content).map Literal.entry ≠ stringsAt t 2 := by
  intro t e
  have he : enclosed? t 2 = some e := by decide +kernel
  have hknown : known (0, none, false) "'m-1\\".toList = some (0, some '\'', true) := by decide +kernel
  refine ⟨he, by decide +kernel, by decide +kernel, fun heq => ?_⟩
  exact ((literals_iff_alike t 2 e he).mp heq).1 "'m-1\\".toList "m-2', 'p-4 flex'".toList 0 '\''
    (by decide +kernel) hknown

end ClassTidy.Span
