/-
  ClassTidy.Proofs.CallReading — how the pattern of a call is read.

  The pattern is written from names: each is escaped, so that none of its characters means
  anything but itself, bars stand between them, and blanks and a parenthesis behind. What
  each character does to the reader is said once (`sequence_char`); a name is then read as
  its characters (`sequence_escaped`), the names as branches (`alternatives_names`), and the
  group around them is taken apart again, as it only holds them together.

  Proved (`read_callText`): for every list of names but the empty one, what is read are the
  branches of the names' characters with the end of a call behind them.
-/
import ClassTidy.Pattern.Reader
import ClassTidy.Text.Basic

namespace ClassTidy.Pattern

/-! ## Escaped text -/

/-- Characters that are escaped to stand for themselves. -/
def specials : Text :=
  ['(', ')', '[', ']', '\x7b', '\x7d', '?', '*', '+', '-', '|', '^', '$', '\\', '.', '&', '~', '#',
    ' ', '\t', '\n', '\r',
    '\x0b', '\x0c']

def escapedChar (c : Char) : Text := if c ∈ specials then ['\\', c] else [c]

/-- A text as a pattern that matches it alone. -/
def escaped (w : Text) : Text := w.flatMap escapedChar

/-- The parts for the characters of a text. -/
def chars (w : Text) : List Part := w.map fun c => .char c.toNat false

theorem escape_special : ∀ c ∈ specials, escape c = pure (.code c.toNat) := by
  simp only [specials, List.forall_mem_cons]
  and_intros
  all_goals first | rfl | exact fun c hc => absurd hc List.not_mem_nil

/-! ## Tokens -/

/-- What is known once `n` more characters have been taken. -/
def Progress.skip (s : Progress) (n : Nat) : Progress := { s with rest := s.rest.drop n, position := s.position + n }

theorem Progress.skip_skip (s : Progress) (m n : Nat) : (s.skip m).skip n = s.skip (m + n) := by
  simp [Progress.skip, List.drop_drop, Nat.add_assoc]

/-- A token is taken, unless a backslash at the end comes next. -/
theorem take_eq {s : Progress} {token : Token} (h : tokenOf s.rest = some token)
    (hrest : s.rest.drop token.size ≠ ['\\']) : take s = .ok (some token, s.skip token.size) := by
  simp only [take, h, fetch, if_neg hrest]
  rfl

theorem tokenOf_plain {c : Char} (hc : c ≠ '\\') (rest : Text) : tokenOf (c :: rest) = some (.plain c) := by
  unfold tokenOf
  split
  · rename_i heq; cases heq
  · rename_i heq; exact absurd (List.cons.inj heq).1 hc
  · rename_i heq; rw [(List.cons.inj heq).1]

theorem takeIf_taken {c : Char} (hc : c ≠ '\\') {s : Progress} {rest : Text} (hs : s.rest = c :: rest)
    (hrest : rest ≠ ['\\']) : takeIf c s = .ok (true, s.skip 1) := by
  have htoken : tokenOf s.rest = some (.plain c) := by rw [hs, tokenOf_plain hc]
  have htake : take s = .ok (some (.plain c), s.skip 1) := take_eq htoken (by rw [hs]; exact hrest)
  simp only [takeIf, bind, StateT.bind, peek, Except.bind, htoken, if_true, htake]
  rfl

theorem takeIf_left {c d : Char} (hd : d ≠ '\\') (hc : c ≠ d) {s : Progress} {rest : Text}
    (hs : s.rest = d :: rest) :
    takeIf c s = .ok (false, s) := by
  have htoken : tokenOf s.rest = some (.plain d) := by rw [hs, tokenOf_plain hd]
  simp only [takeIf, bind, StateT.bind, peek, Except.bind, htoken]
  rw [if_neg (by simpa using hc.symm)]
  rfl

theorem takeIf_end (c : Char) {s : Progress} (hs : s.rest = []) : takeIf c s = .ok (false, s) := by
  have htoken : tokenOf s.rest = none := by rw [hs]; rfl
  simp only [takeIf, bind, StateT.bind, peek, Except.bind, htoken]
  rfl

/-! ## Characters -/

theorem sequence_plain (top first : Bool) (fuel : Nat) (parts : List Part) {c : Char} (hc : c ∉ specials)
    {s : Progress} {rest : Text} (hs : s.rest = c :: rest) (hrest : rest ≠ ['\\']) :
    sequence top first (fuel + 1) false parts s = sequence top first fuel false
      (.char c.toNat false :: parts) (s.skip 1) := by
  have hne : ∀ d ∈ specials, c ≠ d := by
    rintro d hd rfl
    exact hc hd
  have htoken : tokenOf s.rest = some (.plain c) := by rw [hs, tokenOf_plain (hne '\\' (by decide))]
  simp only [specials, List.forall_mem_cons] at hne
  have htake : take s = .ok (some (.plain c), s.skip 1) := take_eq htoken (by rw [hs]; exact hrest)
  have hquant : quantifier? c = none := by
    unfold quantifier?
    split <;> simp_all
  rw [sequence]
  simp only [bind, StateT.bind, position, peek, htoken, Except.bind, hquant, Bool.false_and,
    Bool.false_eq_true, if_false]
  simp only [hne, decide_false, Bool.or_self, Bool.false_eq_true, if_false, StateT.bind, bind, Except.bind, htake]

theorem sequence_special (top first : Bool) (fuel : Nat) (parts : List Part) {c : Char} (hc : c ∈ specials)
    {s : Progress} {rest : Text} (hs : s.rest = '\\' :: c :: rest) (hrest : rest ≠ ['\\']) :
    sequence top first (fuel + 1) false parts s = sequence top first fuel false
      (.char c.toNat false :: parts) (s.skip 2) := by
  have htoken : tokenOf s.rest = some (.escaped c) := by rw [hs]; rfl
  have htake : take s = .ok (some (.escaped c), s.skip 2) := take_eq htoken (by rw [hs]; exact hrest)
  rw [sequence]
  simp only [bind, StateT.bind, position, peek, htoken, Except.bind, htake, escape_special c hc]
  rfl

/-- A character, escaped if it has to be, is read as itself. -/
theorem sequence_char (top first : Bool) (fuel : Nat) (parts : List Part) (c : Char) {s : Progress} {rest : Text}
    (hs : s.rest = escapedChar c ++ rest) (hrest : rest ≠ ['\\']) :
    sequence top first (fuel + 1) false parts s =
      sequence top first fuel false (.char c.toNat false :: parts) (s.skip (escapedChar c).length) := by
  unfold escapedChar at hs ⊢
  by_cases hc : c ∈ specials
  · rw [if_pos hc] at hs ⊢
    exact sequence_special top first fuel parts hc hs hrest
  · rw [if_neg hc] at hs ⊢
    exact sequence_plain top first fuel parts hc hs hrest

/-- A text begins with a character that ends a sequence. -/
def Stops (rest : Text) : Prop := ∃ c t, rest = c :: t ∧ (c = '|' ∨ c = ')')

theorem length_escapedChar_pos (c : Char) : 0 < (escapedChar c).length := by
  unfold escapedChar
  split <;> exact Nat.zero_lt_succ _

theorem length_le_escaped (w : Text) : w.length ≤ (escaped w).length := by
  induction w with
  | nil => exact Nat.le_refl 0
  | cons c w ih =>
    have := length_escapedChar_pos c
    simp only [escaped, List.flatMap_cons, List.length_append, List.length_cons] at ih ⊢
    omega

theorem escaped_ne (w : Text) {rest : Text} (h : Stops rest) : escaped w ++ rest ≠ ['\\'] := by
  obtain ⟨d, t, rfl, hd⟩ := h
  cases w with
  | nil =>
    intro e
    obtain rfl := (List.cons.inj e).1
    revert hd
    decide
  | cons c w =>
    intro e
    have hlen := congrArg List.length e
    have hpos := length_escapedChar_pos c
    simp [escaped] at hlen
    omega

theorem sequence_stop (top first : Bool) (fuel : Nat) (parts : List Part) {s : Progress} (h : Stops s.rest) :
    sequence top first (fuel + 1) false parts s = .ok (parts.reverse.flatMap (·.unwrap), s) := by
  obtain ⟨c, t, hs, hc⟩ := h
  have htoken : tokenOf s.rest = some (.plain c) := by
    rw [hs, tokenOf_plain]
    rcases hc with rfl | rfl <;> decide
  rw [sequence]
  simp only [bind, StateT.bind, position, peek, htoken, Except.bind]
  rw [if_pos (by simpa using hc)]
  rfl

theorem unwrap_chars (w : Text) : (chars w).flatMap (·.unwrap) = chars w := by
  induction w with
  | nil => rfl
  | cons c w ih => exact congrArg (Part.char c.toNat false :: ·) ih

/-- An escaped text is read as its characters. -/
theorem sequence_escaped (top first : Bool) (w : Text) (fuel : Nat) (hfuel : w.length < fuel) (before : Text)
    {s : Progress} {rest : Text} (hs : s.rest = escaped w ++ rest) (hrest : Stops rest) :
    sequence top first fuel false (chars before).reverse s =
      .ok (chars (before ++ w), s.skip (escaped w).length) := by
  induction w generalizing fuel before s with
  | nil =>
    obtain ⟨fuel, rfl⟩ := Nat.exists_eq_add_of_lt hfuel
    rw [sequence_stop top first _ _ (hs ▸ hrest), List.reverse_reverse, unwrap_chars, List.append_nil]
    rfl
  | cons c w ih =>
    obtain ⟨fuel, rfl⟩ : ∃ n, fuel = n + 1 := Nat.exists_eq_add_one.mpr (by omega)
    have hrest' : escaped (c :: w) ++ rest = escapedChar c ++ (escaped w ++ rest) := by simp [escaped]
    have hskip : (s.skip (escapedChar c).length).rest = escaped w ++ rest := by
      rw [Progress.skip, hs, hrest', List.drop_left]
    rw [sequence_char top first fuel _ c (hs.trans hrest') (escaped_ne w hrest),
      show Part.char c.toNat false :: (chars before).reverse = (chars (before ++ [c])).reverse by simp [chars],
      ih fuel (by simpa using hfuel) (before ++ [c]) hskip, Progress.skip_skip]
    simp [escaped]

/-! ## Names -/

/-- Texts with bars between them, as a pattern that matches one of them. -/
def anyOf (names : List Text) : Text := Text.join ['|'] (names.map escaped)

theorem anyOf_cons (w v : Text) (ws : List Text) : anyOf (w :: v :: ws) = escaped w ++ '|' :: anyOf (v :: ws) := by
  simp [anyOf, Text.join]

theorem anyOf_ne (w : Text) (ws : List Text) (rest : Text) : anyOf (w :: ws) ++ ')' :: rest ≠ ['\\'] := by
  cases ws with
  | nil => exact escaped_ne w ⟨')', rest, rfl, Or.inr rfl⟩
  | cons v ws =>
    rw [anyOf_cons, List.append_assoc]
    exact escaped_ne w ⟨'|', anyOf (v :: ws) ++ ')' :: rest, rfl, Or.inl rfl⟩

/-- Escaped texts with bars between them are read as branches of their characters. -/
theorem alternatives_names (w : Text) (ws : List Text) (fuel : Nat) (hfuel : (anyOf (w :: ws)).length + 1 < fuel)
    (before : List Text) {s : Progress} {rest : Text} (hs : s.rest = anyOf (w :: ws) ++ ')' :: rest) :
    alternatives false fuel false (before.map chars) s =
      .ok (ofBranches ((before ++ w :: ws).map chars), s.skip (anyOf (w :: ws)).length) := by
  induction ws generalizing w fuel before s with
  | nil =>
    obtain ⟨fuel, rfl⟩ : ∃ n, fuel = n + 1 := Nat.exists_eq_add_one.mpr (by omega)
    have hlen := length_le_escaped w
    rw [show anyOf [w] = escaped w from rfl] at hs hfuel ⊢
    have hseq := sequence_escaped false (before.map chars).isEmpty w fuel (by omega) [] hs
      ⟨')', rest, rfl, Or.inr rfl⟩
    have hleft : takeIf '|' (s.skip (escaped w).length) = .ok (false, s.skip (escaped w).length) :=
      takeIf_left (d := ')') (by decide) (by decide) (by rw [Progress.skip, hs]; exact List.drop_left)
    rw [List.nil_append] at hseq
    rw [alternatives]
    simp only [bind, StateT.bind, Except.bind, show ([] : List Part) = (chars []).reverse from rfl, hseq, hleft,
      Bool.false_eq_true, if_false, List.map_append, List.map_singleton]
    rfl
  | cons v ws ih =>
    obtain ⟨fuel, rfl⟩ : ∃ n, fuel = n + 1 := Nat.exists_eq_add_one.mpr (by omega)
    have hlen := length_le_escaped w
    rw [anyOf_cons] at hs hfuel ⊢
    simp only [List.length_append, List.length_cons] at hfuel ⊢
    rw [List.append_assoc, List.cons_append] at hs
    have hseq := sequence_escaped false (before.map chars).isEmpty w fuel (by omega) [] hs
      ⟨'|', anyOf (v :: ws) ++ ')' :: rest, rfl, Or.inl rfl⟩
    have hbar : (s.skip (escaped w).length).rest = '|' :: (anyOf (v :: ws) ++ ')' :: rest) := by
      rw [Progress.skip, hs, List.drop_left]
    have htaken := takeIf_taken (by decide) hbar (anyOf_ne v ws rest)
    have hbehind : ((s.skip (escaped w).length).skip 1).rest = anyOf (v :: ws) ++ ')' :: rest := by
      rw [Progress.skip, hbar]; rfl
    have hmore := ih v fuel (by omega) (before ++ [w]) hbehind
    rw [List.nil_append] at hseq
    rw [List.map_append, List.map_singleton, List.append_assoc, List.singleton_append, Progress.skip_skip,
      Progress.skip_skip] at hmore
    rw [alternatives]
    simp only [bind, StateT.bind, Except.bind, show ([] : List Part) = (chars []).reverse from rfl,
      hseq, htaken, if_true,
      Bool.false_eq_true, if_false, Progress.skip_skip]
    refine hmore.trans ?_
    rw [show (escaped w).length + 1 + (anyOf (v :: ws)).length =
      (escaped w).length + ((anyOf (v :: ws)).length + 1) by omega]

/-! ## Calls -/

/-- Any number of blanks and a parenthesis. -/
def callEnd : List Part := [.rep .greedy 0 none [.set false [.category .blank false]], .char 40 false]

theorem sequence_callEnd (top first : Bool) (fuel : Nat) (parts : List Part) {s : Progress}
    (hs : s.rest = ['\\', 's', '*', '\\', '(']) : sequence top first (fuel + 4) false parts s =
      .ok (parts.reverse.flatMap (·.unwrap) ++ callEnd, s.skip 5) := by
  obtain ⟨rest, position, length, groups, names, widths, behind, asked, flags⟩ := s
  obtain rfl : rest = _ := hs
  have hflat : ∀ xs : List Part, (callEnd.reverse ++ xs).reverse.flatMap (·.unwrap) =
      xs.reverse.flatMap (·.unwrap) ++ callEnd := by
    intro xs
    rw [List.reverse_append, List.reverse_reverse, List.flatMap_append]
    rfl
  rw [← hflat]
  rfl

theorem opening_plain (start : Nat) {s : Progress} {rest : Text} (hs : s.rest = '?' :: ':' :: rest)
    (hrest : rest ≠ ['\\']) :
    opening start s = .ok (.plain [] [], s.skip 2) := by
  have hmark := takeIf_taken (by decide) hs (by simp)
  have hcolon : take (s.skip 1) = .ok (some (.plain ':'), (s.skip 1).skip 1) :=
    take_eq (by rw [Progress.skip, hs]; rfl) (by rw [Progress.skip, hs]; exact hrest)
  rw [Progress.skip_skip] at hcolon
  simp only [opening, bind, StateT.bind, Except.bind, hmark, if_true, hcolon]
  rfl

theorem group_names (start : Nat) (w : Text) (ws : List Text) (fuel : Nat) (hfuel : (anyOf (w :: ws)).length + 1 < fuel)
    {s : Progress} {rest : Text} (hs : s.rest = anyOf (w :: ws) ++ ')' :: rest) (hrest : rest ≠ ['\\']) :
    group start (fuel + 1) false (.plain [] []) s =
      .ok (some (.group none [] [] (ofBranches ((w :: ws).map chars))), s.skip ((anyOf (w :: ws)).length + 1)) := by
  have hbody := alternatives_names w ws fuel hfuel [] hs
  have hclose := takeIf_taken (by decide) (show (s.skip (anyOf (w :: ws)).length).rest = ')' :: rest by
    rw [Progress.skip, hs, List.drop_left]) hrest
  rw [Progress.skip_skip] at hclose
  rw [group]
  simp only [bind, StateT.bind, Except.bind, Bool.false_or, List.contains_nil, Bool.false_and]
  rw [show ([] : List (List Part)) = ([] : List Text).map chars from rfl, hbody]
  simp only [closing, bind, StateT.bind, Except.bind, hclose]
  rfl

theorem sequence_group (top first : Bool) (w : Text) (ws : List Text) (fuel : Nat)
    (hfuel : (anyOf (w :: ws)).length + 2 < fuel) (parts : List Part) {s : Progress} {rest : Text}
    (hs : s.rest = '(' :: '?' :: ':' :: (anyOf (w :: ws) ++ ')' :: rest)) (hrest : rest ≠ ['\\']) :
    sequence top first (fuel + 1) false parts s =
      sequence top first fuel false (.group none [] [] (ofBranches ((w :: ws).map chars)) :: parts)
        (s.skip ((anyOf (w :: ws)).length + 4)) := by
  obtain ⟨fuel, rfl⟩ : ∃ n, fuel = n + 1 := Nat.exists_eq_add_one.mpr (by omega)
  have htoken : tokenOf s.rest = some (.plain '(') := by rw [hs]; rfl
  have htake : take s = .ok (some (.plain '('), s.skip 1) := take_eq htoken (by rw [hs]; simp [Token.size])
  have hopening := opening_plain s.position (s := s.skip 1) (by rw [Progress.skip, hs]; rfl) (anyOf_ne w ws rest)
  rw [Progress.skip_skip] at hopening
  have hgroup := group_names s.position w ws fuel (by omega) (s := s.skip 3) (by rw [Progress.skip, hs]; rfl) hrest
  rw [Progress.skip_skip, show 3 + ((anyOf (w :: ws)).length + 1) = (anyOf (w :: ws)).length + 4 by omega] at hgroup
  rw [sequence]
  simp only [bind, StateT.bind, position, peek, htoken, Except.bind]
  rw [if_neg (by decide)]
  simp only [StateT.bind, bind, Except.bind, htake, Bool.false_and, Bool.false_eq_true, Char.reduceEq,
    if_false, if_true,
    hopening, hgroup]

/-- The pattern of a call to one of some names, as it is written. -/
def callText (names : List Text) : Text := "(?:".toList ++ anyOf names ++ ")\\s*\\(".toList

/-- What is known before a text is read. -/
def Progress.initial (t : Text) : Progress := { rest := t, position := 0, length := t.length }

theorem alternatives_callText (w : Text) (ws : List Text) (fuel : Nat) (hfuel : (anyOf (w :: ws)).length + 6 < fuel) :
    alternatives true fuel false [] (.initial (callText (w :: ws))) =
      .ok (ofBranches ((w :: ws).map chars) ++ callEnd,
        (Progress.initial (callText (w :: ws))).skip ((anyOf (w :: ws)).length + 9)) := by
  obtain ⟨fuel, rfl⟩ : ∃ n, fuel = n + 4 + 1 + 1 := ⟨fuel - 6, by omega⟩
  have hs : (Progress.initial (callText (w :: ws))).rest =
      '(' :: '?' :: ':' :: (anyOf (w :: ws) ++ ')' :: ['\\', 's', '*', '\\', '(']) := by
    simp [Progress.initial, callText]
  have hgroup := sequence_group true true w ws (fuel + 4) (by omega) [] hs (by decide)
  generalize Progress.initial (callText (w :: ws)) = s at hs hgroup ⊢
  have hbehind : (s.skip ((anyOf (w :: ws)).length + 4)).rest = ['\\', 's', '*', '\\', '('] := by
    rw [Progress.skip, hs, show (anyOf (w :: ws)).length + 4 = ((anyOf (w :: ws)).length + 1) + 3 by omega]
    simp only [List.drop_succ_cons]
    rw [← List.drop_drop, List.drop_left]
    rfl
  have hend := sequence_callEnd true true fuel [.group none [] [] (ofBranches ((w :: ws).map chars))] hbehind
  rw [Progress.skip_skip] at hend
  have hnil : (s.skip ((anyOf (w :: ws)).length + 4 + 5)).rest = [] := by
    rw [← Progress.skip_skip, Progress.skip, hbehind]
    rfl
  rw [alternatives]
  simp only [bind, StateT.bind, Except.bind, List.isEmpty_nil, hgroup, hend, takeIf_end '|' hnil,
    Bool.false_eq_true, if_false]
  rw [List.reverse_singleton, List.flatMap_singleton]
  rfl

/-- Where reading the parts has met no flags, groups and conditions, the pattern is that of the parts. -/
theorem whole_ok {fuel n : Nat} {s : Progress} {parts : List Part} {p : Pattern}
    (h : alternatives true fuel false [] s = .ok (parts, { rest := [], position := n, length := n }))
    (hp : Pattern.ofParts (fun _ => (0, 0)) {} false 0 parts = .ok p) :
    whole fuel s = .ok (p, { rest := [], position := n, length := n }) := by
  have hp' : Pattern.ofParts (groupWidth { rest := [], position := n, length := n }) (Flags.change {} [] []) false 0
    parts = .ok p := hp
  simp only [whole, bind, StateT.bind, Except.bind, h, get, getThe, MonadStateOf.get, StateT.get, pure, Except.pure,
    List.contains_nil, Bool.false_and, Bool.false_eq_true, if_false, peek, tokenOf, Option.isSome_none, List.find?_nil,
    hp']
  rfl

/-- The text of a call pattern is read as branches of the names' characters, with the end of the call behind them. -/
theorem read_callText (w : Text) (ws : List Text) {p : Pattern}
    (hp : Pattern.ofParts (fun _ => (0, 0)) {} false 0 (ofBranches ((w :: ws).map chars) ++ callEnd) = .ok p) :
    Pattern.read (callText (w :: ws)) = .ok p := by
  have hlen : (callText (w :: ws)).length = (anyOf (w :: ws)).length + 9 := by simp [callText]
  have halt := alternatives_callText w ws (4 * (callText (w :: ws)).length + 8) (by omega)
  generalize callText (w :: ws) = t at hlen halt ⊢
  have hend : (Progress.initial t).skip ((anyOf (w :: ws)).length + 9) =
      { rest := [], position := t.length, length := t.length } := by
    rw [← hlen, Progress.skip, Progress.initial, List.drop_length, Nat.zero_add]
  have hfetch : fetch (.initial t) = .ok (.initial t) := if_neg fun e => by
    rw [show t = ['\\'] from e] at hlen
    simp at hlen
  rw [hend] at halt
  unfold Pattern.read
  rw [show ({ rest := t, position := 0, length := t.length } : Progress) = .initial t from rfl, hfetch]
  simp only [bind, Except.bind, StateT.run, whole_ok halt hp]
  rfl

end ClassTidy.Pattern
