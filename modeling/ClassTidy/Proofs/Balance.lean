/-
  ClassTidy.Proofs.Balance — what a pair of parentheses can enclose.

  The search for a closing parenthesis goes through a text once, with a depth, an open quote
  and a backslash to remember. `Balanced` says the same without a search: a text is balanced
  if it is a sequence of characters that mean nothing, pairs of a backslash and any character,
  strings between two quotes, and balanced texts between two parentheses.

  A balanced text changes nothing that the search knows (`known_balanced`). The other way round
  the depth makes it harder: at depth `d` what is passed up to the last parenthesis closes `d`
  others before it, with balanced texts between them (`Closes`, `closes_of_closing`).

  Proved (`enclosed_iff_balanced`): a parenthesis encloses exactly the balanced text up to a
  closing one, there is at most one such, and where there is none the search fails.
-/
import ClassTidy.Proofs.Calls
import ClassTidy.Proofs.Literals

namespace ClassTidy.Span

open Literal (isQuote)

/-! ## Balanced texts -/

/-- What stands between two quotes `q`: the quote itself only behind a backslash, which hides any character. -/
inductive Quoted (q : Char) : Text → Prop
  | nil : Quoted q []
  | plain {c : Char} {t : Text} (quote : c ≠ q) (backslash : c ≠ '\\') (rest : Quoted q t) : Quoted q (c :: t)
  | pair (c : Char) {t : Text} (rest : Quoted q t) : Quoted q ('\\' :: c :: t)

/-- A sequence of plain characters, hidden characters, strings, and balanced texts between parentheses. -/
inductive Balanced : Text → Prop
  | nil : Balanced []
  | plain {c : Char} {t : Text} (backslash : c ≠ '\\') (quote : isQuote c = false)
      (opening : c ≠ '(') (closing : c ≠ ')') (rest : Balanced t) : Balanced (c :: t)
  | pair (c : Char) {t : Text} (rest : Balanced t) : Balanced ('\\' :: c :: t)
  | string {q : Char} {v t : Text} (quote : isQuote q = true) (inner : Quoted q v) (rest : Balanced t) :
      Balanced (q :: v ++ q :: t)
  | group {u t : Text} (inner : Balanced u) (rest : Balanced t) : Balanced ('(' :: u ++ ')' :: t)

theorem Balanced.append {u v : Text} (hu : Balanced u) (hv : Balanced v) : Balanced (u ++ v) := by
  induction hu with
  | nil => exact hv
  | plain backslash quote opening closing _ ih => exact .plain backslash quote opening closing ih
  | pair c _ ih => exact .pair c ih
  | string quote inner _ ih =>
    rw [List.append_assoc, List.cons_append]
    exact .string quote inner ih
  | group inner _ _ ih =>
    rw [List.append_assoc, List.cons_append]
    exact .group inner ih

/-! ## Steps of the search -/

section Steps

variable (depth : Nat) (quote : Option Char)

theorem advance_hidden (c : Char) : advance depth quote true c = some (depth, quote, false) := rfl

theorem advance_backslash : advance depth quote false '\\' = some (depth, quote, true) := rfl

variable {c q : Char}

theorem advance_inside (hq : c ≠ q) (hb : c ≠ '\\') :
    advance depth (some q) false c = some (depth, some q, false) := by
  simp [advance, hq, hb]

theorem advance_leave (hq : isQuote q = true) : advance depth (some q) false q = some (depth, none, false) := by
  simp [advance, Literal.quote_ne_backslash hq]

theorem advance_enter (hq : isQuote q = true) : advance depth none false q = some (depth, some q, false) := by
  simp [advance, Literal.quote_ne_backslash hq, hq]

theorem advance_open : advance depth none false '(' = some (depth + 1, none, false) := rfl

theorem advance_close : advance (depth + 1) none false ')' = some (depth, none, false) := rfl

theorem advance_found : advance 0 none false ')' = none := rfl

theorem advance_pass (hb : c ≠ '\\') (hq : isQuote c = false) (ho : c ≠ '(') (hc : c ≠ ')') :
    advance depth none false c = some (depth, none, false) := by
  simp [advance, hb, hq, ho, hc]

end Steps

/-- What the search tells apart. -/
theorem char_cases (c : Char) :
    c = '\\' ∨ isQuote c = true ∨ c = '(' ∨ c = ')' ∨
      (c ≠ '\\' ∧ isQuote c = false ∧ c ≠ '(' ∧ c ≠ ')') := by
  cases isQuote c <;> tauto

section Search

variable {depth d : Nat} {quote q : Option Char} {escaped e : Bool} {c : Char}

/-- One character further, if it is not the one that is looked for. -/
theorem closing?_step (h : advance depth quote escaped c = some (d, q, e)) (t : Text) :
    closing? depth quote escaped (c :: t) = (closing? d q e t).map (· + 1) := by
  rw [closing?_cons, h]

theorem exists_of_closing?_step (h : advance depth quote escaped c = some (d, q, e)) {t : Text} {n : Nat}
    (hn : closing? depth quote escaped (c :: t) = some n) : ∃ m, closing? d q e t = some m ∧ m + 1 = n := by
  rw [closing?_step h] at hn
  exact Option.map_eq_some_iff.mp hn

/-- Behind a backslash stands a character that it hides. -/
theorem exists_of_closing?_pair {t : Text} {n : Nat} (hn : closing? depth quote false ('\\' :: t) = some n) :
    ∃ c rest m, t = c :: rest ∧ closing? depth quote false rest = some m ∧ m + 2 = n := by
  obtain ⟨k, hk, rfl⟩ := exists_of_closing?_step (advance_backslash depth quote) hn
  cases t with
  | nil => cases hk
  | cons c rest =>
    obtain ⟨m, hm, rfl⟩ := exists_of_closing?_step (advance_hidden depth quote c) hk
    exact ⟨c, rest, m, rfl, hm, rfl⟩

end Search

/-! ## What is passed -/

/-- What the search knows behind a text, unless it ends in it. -/
def known (s : Nat × Option Char × Bool) (t : Text) : Option (Nat × Option Char × Bool) :=
  t.foldlM (fun s c => advance s.1 s.2.1 s.2.2 c) s

theorem known_cons {depth : Nat} {quote : Option Char} {escaped : Bool} {c : Char} {s : Nat × Option Char × Bool}
    (h : advance depth quote escaped c = some s) (t : Text) : known (depth, quote, escaped) (c :: t) = known s t := by
  simp [known, h]

theorem known_append {s s' : Nat × Option Char × Bool} {u : Text} (h : known s u = some s') (t : Text) :
    known s (u ++ t) = known s' t := by
  rw [known, List.foldlM_append, ← known, h]
  rfl

theorem closing?_append {u : Text} {depth d : Nat} {quote q : Option Char} {escaped e : Bool}
    (h : known (depth, quote, escaped) u = some (d, q, e)) (t : Text) :
    closing? depth quote escaped (u ++ t) = (closing? d q e t).map (· + u.length) := by
  induction u generalizing depth quote escaped with
  | nil =>
    obtain ⟨rfl, rfl, rfl⟩ : depth = d ∧ quote = q ∧ escaped = e := by simpa [known] using h
    simp
  | cons c u ih =>
    cases hstep : advance depth quote escaped c with
    | none => simp [known, hstep] at h
    | some s =>
      rw [known_cons hstep] at h
      rw [List.cons_append, closing?_step hstep, ih h, Option.map_map]
      rfl

/-- What stands between quotes leaves the quote open. -/
theorem known_quoted {q : Char} {v : Text} (h : Quoted q v) (depth : Nat) :
    known (depth, some q, false) v = some (depth, some q, false) := by
  induction h with
  | nil => rfl
  | plain quote backslash _ ih => rw [known_cons (advance_inside depth quote backslash), ih]
  | pair c _ ih => rw [known_cons (advance_backslash depth (some q)), known_cons (advance_hidden depth (some q) c), ih]

/-- Behind a balanced text the search knows what it knew before. -/
theorem known_balanced {u : Text} (h : Balanced u) (depth : Nat) :
    known (depth, none, false) u = some (depth, none, false) := by
  induction h generalizing depth with
  | nil => rfl
  | plain backslash quote opening closing _ ih =>
    rw [known_cons (advance_pass depth backslash quote opening closing), ih]
  | pair c _ ih => rw [known_cons (advance_backslash depth none), known_cons (advance_hidden depth none c), ih]
  | string quote inner _ ih =>
    rw [List.cons_append, known_cons (advance_enter depth quote), known_append (known_quoted inner depth),
      known_cons (advance_leave depth quote), ih]
  | group _ _ ihu iht =>
    -- one level deeper through the inner text, and back with its closing parenthesis
    rw [List.cons_append, known_cons (advance_open depth), known_append (ihu (depth + 1)),
      known_cons (advance_close depth), iht]

/-! ## What the search goes through -/

/-- Balanced texts with `depth` closing parentheses between them. -/
inductive Closes : Nat → Text → Prop
  | level {u : Text} (inner : Balanced u) : Closes 0 u
  | close {u v : Text} {depth : Nat} (inner : Balanced u) (rest : Closes depth v) : Closes (depth + 1) (u ++ ')' :: v)

theorem Closes.prepend {depth : Nat} {u v : Text} (hv : Closes depth v) (hu : Balanced u) : Closes depth (u ++ v) := by
  cases hv with
  | level inner => exact .level (hu.append inner)
  | close inner rest =>
    rw [← List.append_assoc]
    exact .close (hu.append inner) rest

/-- Between quotes the search goes up to the closing quote. -/
theorem quoted_of_closing {depth : Nat} {q : Char} (hq : isQuote q = true) {t : Text} {n : Nat}
    (h : closing? depth (some q) false t = some n) :
    ∃ v rest m, t = v ++ q :: rest ∧ Quoted q v ∧ closing? depth none false rest = some m ∧
      v.length + 1 + m = n := by
  induction hlen : t.length using Nat.strong_induction_on generalizing t n with
  | _ len ih =>
    subst hlen
    cases t with
    | nil => cases h
    | cons c t =>
      by_cases hb : c = '\\'
      · subst hb
        obtain ⟨c, t, k, rfl, hk, rfl⟩ := exists_of_closing?_pair h
        obtain ⟨v, rest, m, rfl, hv, hm, rfl⟩ := ih t.length (by simp only [List.length_cons]; omega) hk rfl
        exact ⟨'\\' :: c :: v, rest, m, rfl, .pair c hv, hm, by simp only [List.length_cons]; omega⟩
      · by_cases hc : c = q
        · subst hc
          obtain ⟨k, hk, rfl⟩ := exists_of_closing?_step (advance_leave depth hq) h
          exact ⟨[], t, k, rfl, .nil, hk, by simp only [List.length_nil]; omega⟩
        · obtain ⟨k, hk, rfl⟩ := exists_of_closing?_step (advance_inside depth hc hb) h
          obtain ⟨v, rest, m, rfl, hv, hm, rfl⟩ := ih t.length (by simp) hk rfl
          exact ⟨c :: v, rest, m, rfl, .plain hc hb hv, hm, by simp only [List.length_cons]; omega⟩

/-- Up to the parenthesis that is looked for, the open ones are closed, and what stands between is balanced. -/
theorem closes_of_closing {depth : Nat} {t : Text} {n : Nat} (h : closing? depth none false t = some n) :
    ∃ u rest, t = u ++ ')' :: rest ∧ u.length = n ∧ Closes depth u := by
  -- a string or a pair is passed as a whole, so the induction is on the length of what is left
  induction hlen : t.length using Nat.strong_induction_on generalizing depth t n with
  | _ len ih =>
    subst hlen
    cases t with
    | nil => cases h
    | cons c t =>
      rcases char_cases c with rfl | hq | rfl | rfl | ⟨hb, hq, ho, hc⟩
      · obtain ⟨c, t, k, rfl, hk, rfl⟩ := exists_of_closing?_pair h
        obtain ⟨u, rest, rfl, rfl, hu⟩ := ih t.length (by simp only [List.length_cons]; omega) hk rfl
        exact ⟨'\\' :: c :: u, rest, rfl, rfl, hu.prepend (.pair c .nil)⟩
      · obtain ⟨k, hk, rfl⟩ := exists_of_closing?_step (advance_enter depth hq) h
        obtain ⟨v, t, m, rfl, hv, hm, rfl⟩ := quoted_of_closing hq hk
        obtain ⟨u, rest, rfl, rfl, hu⟩ :=
          ih t.length (by simp only [List.length_cons, List.length_append]; omega) hm rfl
        have hstring := hu.prepend (Balanced.string hq hv .nil)
        rw [List.append_assoc] at hstring
        exact ⟨c :: v ++ c :: u, rest, by simp, by simp; omega, hstring⟩
      · obtain ⟨k, hk, rfl⟩ := exists_of_closing?_step (advance_open depth) h
        obtain ⟨w, rest, rfl, rfl, hw⟩ := ih t.length (by simp) hk rfl
        -- of the parentheses that follow, the first one closes this one
        cases hw with
        | @close u v _ inner hv =>
          have hgroup := hv.prepend (Balanced.group inner .nil)
          rw [List.append_assoc] at hgroup
          exact ⟨'(' :: u ++ ')' :: v, rest, by simp, by simp, hgroup⟩
      · cases depth with
        | zero =>
          rw [closing?_cons, advance_found] at h
          exact ⟨[], t, rfl, Option.some.inj h, .level .nil⟩
        | succ depth =>
          obtain ⟨k, hk, rfl⟩ := exists_of_closing?_step (advance_close depth) h
          obtain ⟨u, rest, rfl, rfl, hu⟩ := ih t.length (by simp) hk rfl
          exact ⟨')' :: u, rest, rfl, rfl, .close .nil hu⟩
      · obtain ⟨k, hk, rfl⟩ := exists_of_closing?_step (advance_pass depth hb hq ho hc) h
        obtain ⟨u, rest, rfl, rfl, hu⟩ := ih t.length (by simp) hk rfl
        exact ⟨c :: u, rest, rfl, rfl, hu.prepend (.plain hb hq ho hc .nil)⟩

/-- The parenthesis that is found is the one behind a balanced text. -/
theorem closing_iff_balanced {t : Text} {n : Nat} :
    closing? 0 none false t = some n ↔ ∃ u rest, t = u ++ ')' :: rest ∧ u.length = n ∧ Balanced u := by
  constructor
  · intro h
    obtain ⟨u, rest, rfl, rfl, hu⟩ := closes_of_closing h
    cases hu with
    | level inner => exact ⟨u, rest, rfl, rfl, inner⟩
  · rintro ⟨u, rest, rfl, rfl, hu⟩
    rw [closing?_append (known_balanced hu 0), closing?_cons, advance_found]
    simp

/-! ## What a parenthesis encloses -/

/-- The text between the parenthesis at `i` and one behind it at `stop` is balanced. -/
structure Encloses (t : Text) (i : Int) (content : Text) (stop : Nat) : Prop where
  inside : 0 ≤ i ∧ i < t.length
  opening : t[i.toNat]? = some '('
  behind : i < stop
  content_eq : content = Text.slice t (i.toNat + 1) stop
  balanced : Balanced content
  closing : t[stop]? = some ')'

/-- The same as one text around the content. -/
theorem encloses_iff {t : Text} {i : Int} {content : Text} {stop : Nat} :
    Encloses t i content stop ↔
      ∃ a rest, t = a ++ '(' :: (content ++ ')' :: rest) ∧ i = a.length ∧ stop = a.length + 1 + content.length ∧
        Balanced content := by
  constructor
  · rintro ⟨⟨hnonneg, -⟩, hopen, hbehind, rfl, hbalanced, hclose⟩
    obtain ⟨k, rfl⟩ := Int.eq_ofNat_of_zero_le hnonneg
    rw [Int.toNat_natCast] at hopen hbalanced ⊢
    have hk : k < stop := by omega
    obtain ⟨hstop, hclose⟩ := List.getElem?_eq_some_iff.mp hclose
    obtain ⟨hlt, hopen⟩ := List.getElem?_eq_some_iff.mp hopen
    have hlen : (Text.slice t (k + 1) stop).length = stop - (k + 1) := by
      rw [Text.slice, List.length_take, List.length_drop]
      omega
    refine ⟨t.take k, t.drop (stop + 1), ?_, by simp; omega, by rw [hlen, List.length_take]; omega, hbalanced⟩
    have hrest : t.drop (k + 1) = Text.slice t (k + 1) stop ++ ')' :: t.drop (stop + 1) := by
      conv_lhs => rw [← List.take_append_drop (stop - (k + 1)) (t.drop (k + 1))]
      rw [List.drop_drop, show k + 1 + (stop - (k + 1)) = stop by omega, List.drop_eq_getElem_cons hstop, hclose]
      rfl
    rw [← hrest, ← hopen, ← List.drop_eq_getElem_cons hlt, List.take_append_drop]
  · rintro ⟨a, rest, rfl, rfl, rfl, hbalanced⟩
    have hstands : Text.Stands (a ++ '(' :: (content ++ ')' :: rest)) (a.length + 1) (content ++ [')']) := by
      rw [Text.Stands, ← List.drop_drop, List.drop_left]
      exact ⟨rest, by simp⟩
    have hcontent : Text.Stands (a ++ '(' :: (content ++ ')' :: rest)) (a.length + 1) content :=
      (List.prefix_append content [')']).trans hstands
    refine ⟨⟨by omega, by simp; omega⟩, by simp, by omega, hcontent.slice.symm, hbalanced, ?_⟩
    rw [hstands.getElem? (by simp)]
    simp

/-- What is found stands between two parentheses, with a balanced text between them. -/
theorem enclosed?_iff {t : Text} {i : Int} {content : Text} {stop : Nat} :
    enclosed? t i = some ⟨content, stop⟩ ↔ Encloses t i content stop := by
  rw [encloses_iff]
  constructor
  · intro h
    unfold enclosed? at h
    split at h
    · cases h
    · rename_i hi
      unfold enclosedAt? at h
      split at h
      · rename_i rest hdrop
        split at h
        · rename_i n hn
          obtain ⟨rfl, rfl⟩ := Enclosed.mk.inj (Option.some.inj h)
          obtain ⟨u, behind, rfl, rfl, hu⟩ := closing_iff_balanced.mp hn
          have hlt : i.toNat < t.length := by
            by_contra hge
            rw [List.drop_eq_nil_of_le (by omega)] at hdrop
            cases hdrop
          have hfront : (t.take i.toNat).length = i.toNat := by rw [List.length_take]; omega
          refine ⟨t.take i.toNat, behind, ?_, by omega, ?_, ?_⟩
          · rw [List.take_left, ← hdrop, List.take_append_drop]
          · rw [hfront, List.take_left]
          · rwa [List.take_left]
        · cases h
      · cases h
  · rintro ⟨a, rest, rfl, rfl, rfl, hbalanced⟩
    rw [enclosed?, if_neg (by omega), Int.toNat_natCast, enclosedAt?_append,
      closing_iff_balanced.mpr ⟨content, rest, rfl, rfl, hbalanced⟩, Option.map_some, List.take_left]

/-- A parenthesis encloses a text exactly if it is balanced up to a closing one; there is only one such, and if there
is none nothing is found. -/
theorem enclosed_iff_balanced (t : Text) (i : Int) :
    (∀ content stop, enclosed? t i = some ⟨content, stop⟩ ↔ Encloses t i content stop) ∧
    (∀ content stop content' stop', Encloses t i content stop → Encloses t i content' stop' → stop = stop' ∧
      content = content') ∧
    (enclosed? t i = none ↔ ¬ ∃ content stop, Encloses t i content stop) := by
  refine ⟨fun content stop => enclosed?_iff, fun content stop content' stop' h h' => ?_, ?_⟩
  · -- the search finds both
    have hsame := (enclosed?_iff.mpr h).symm.trans (enclosed?_iff.mpr h')
    obtain ⟨rfl, rfl⟩ := Enclosed.mk.inj (Option.some.inj hsame)
    exact ⟨rfl, rfl⟩
  · rw [Option.eq_none_iff_forall_ne_some]
    constructor
    · rintro h ⟨content, stop, henc⟩
      exact h _ (enclosed?_iff.mpr henc)
    · intro h e he
      exact h ⟨e.content, e.stop, enclosed?_iff.mp he⟩

/-- Behind a backslash neither a quote nor a parenthesis counts, and a string hides the parentheses in it. -/
example : enclosed? "f(a\\), \"b)\", (c))".toList 1 = some ⟨"a\\), \"b)\", (c)".toList, 16⟩ := by decide +kernel

end ClassTidy.Span
