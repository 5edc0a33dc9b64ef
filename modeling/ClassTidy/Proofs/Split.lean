/-
  ClassTidy.Proofs.Split — tokens and gaps as another form of a text.

  Splitting gives a well-formed list: gaps are runs of separators, tokens hold none, only
  the first token may be empty, and there are as many gaps as tokens or one less. Putting a
  split text together gives the text back (`join_split`), and splitting what a well-formed
  list is put together to gives the list back (`split_join`).

  Proved (`split_inverse`): splitting and putting together undo each other, on every text and
  on the well-formed lists, and on no other list.

  `words` are the tokens that are not empty. They are cut at every separator
  (`words_append_separator`), whatever stands around it.
-/
import Mathlib.Data.List.Basic
import ClassTidy.ClassList.Basic

namespace ClassTidy.ClassList

/-- A list as splitting gives it. -/
structure WellFormed (l : ClassList) : Prop where
  gaps : ∀ g ∈ l.gaps, isGap g = true
  tokens : ∀ n ∈ l.tokens, ∀ c ∈ n, isSeparator c = false
  /-- Only the first token may be empty. -/
  filled : ∀ n ∈ l.tokens.tail, n ≠ []
  front : l.tokens.head? = some [] → l.gaps ≠ []
  count : l.gaps.length = l.tokens.length ∨ l.gaps.length + 1 = l.tokens.length

theorem gap_ne_nil {g : Text} (h : isGap g = true) : g ≠ [] := by
  intro e; simp [isGap, e] at h

theorem gap_separators {g : Text} (h : isGap g = true) : ∀ c ∈ g, isSeparator c = true := by
  simp only [isGap, Bool.and_eq_true, List.all_eq_true] at h; exact h.2

/-! ## Parts -/

/-- The text of parts. -/
def Parts.text (p : Parts) : Text := p.head ++ p.tail.flatMap fun x => x.1 ++ x.2

/-- Gaps with the tokens behind them; only the last token may be empty. -/
def ProperTail : List (Text × Text) → Prop
  | [] => True
  | (g, n) :: rest =>
    isGap g = true ∧ (∀ c ∈ n, isSeparator c = false) ∧ (rest ≠ [] → n ≠ []) ∧ ProperTail rest

structure Parts.Proper (p : Parts) : Prop where
  head : ∀ c ∈ p.head, isSeparator c = false
  tail : ProperTail p.tail

theorem Parts.cons_text (c : Char) (p : Parts) : (p.cons c).text = c :: p.text := by
  unfold Parts.cons
  split
  · split
    · rename_i h1 h2; simp [Parts.text, h1, h2]
    · rfl
  · rfl

/-- Cutting a text loses nothing. -/
theorem parts_text (t : Text) : (parts t).text = t := by
  induction t with
  | nil => rfl
  | cons c t ih => rw [parts, Parts.cons_text, ih]

theorem Parts.Proper.cons {p : Parts} (h : p.Proper) (c : Char) : (p.cons c).Proper := by
  unfold Parts.cons
  split
  · rename_i hc
    split
    · rename_i gap token rest h1 h2
      have ht := h.tail
      rw [h2] at ht
      refine ⟨fun d hd => absurd hd List.not_mem_nil, ?_, ht.2⟩
      have := gap_separators ht.1
      simp only [isGap, List.isEmpty_cons, Bool.not_false, Bool.true_and, List.all_cons, hc, List.all_eq_true]
      exact this
    · rename_i hno
      refine ⟨fun d hd => absurd hd List.not_mem_nil, by simp [isGap, hc], h.head, fun hne => ?_, h.tail⟩
      -- a gap before a gap is one gap, so the token between them is not empty
      intro e
      obtain ⟨⟨gap, token⟩, rest, hrest⟩ := List.exists_cons_of_ne_nil hne
      exact hno gap token rest e hrest
  · rename_i hc
    refine ⟨fun d hd => ?_, h.tail⟩
    rcases List.mem_cons.mp hd with rfl | hd
    · simpa using hc
    · exact h.head d hd

theorem parts_proper (t : Text) : (parts t).Proper := by
  induction t with
  | nil => exact ⟨fun c hc => absurd hc List.not_mem_nil, trivial⟩
  | cons c t ih => exact ih.cons c

theorem parts_append_token {n : Text} (hn : ∀ c ∈ n, isSeparator c = false) (t : Text) :
    parts (n ++ t) = ⟨n ++ (parts t).head, (parts t).tail⟩ := by
  induction n with
  | nil => rfl
  | cons c n ih =>
    rw [List.cons_append, parts, ih fun d hd => hn d (List.mem_cons_of_mem c hd)]
    simp [Parts.cons, hn c List.mem_cons_self]

theorem parts_append_gap {g t : Text} (hg : isGap g = true) (ht : (parts t).tail ≠ [] → (parts t).head ≠ []) :
    parts (g ++ t) = ⟨[], (g, (parts t).head) :: (parts t).tail⟩ := by
  have hs := gap_separators hg
  induction g with
  | nil => exact absurd rfl (gap_ne_nil hg)
  | cons c g ih =>
    have hc : isSeparator c = true := hs c List.mem_cons_self
    rw [List.cons_append, parts]
    cases g with
    | nil =>
      simp only [List.nil_append, Parts.cons, hc, if_true]
      split
      · rename_i h1 h2
        exact absurd h1 (ht (by rw [h2]; simp))
      · rfl
    | cons d g =>
      have hs' : ∀ x ∈ d :: g, isSeparator x = true := fun x hx => hs x (List.mem_cons_of_mem c hx)
      rw [ih (by simpa [isGap] using hs') hs']
      simp [Parts.cons, hc]

theorem parts_properTail {l : List (Text × Text)} (h : ProperTail l) :
    parts (l.flatMap fun x => x.1 ++ x.2) = ⟨[], l⟩ := by
  induction l with
  | nil => rfl
  | cons x l ih =>
    obtain ⟨hg, hn, hne, hl⟩ := h
    have hrest := parts_append_token hn (l.flatMap fun x => x.1 ++ x.2)
    rw [ih hl, List.append_nil] at hrest
    rw [List.flatMap_cons, List.append_assoc, parts_append_gap hg (by rw [hrest]; exact hne), hrest]

/-- Cutting the text of proper parts gives them back. -/
theorem parts_of_proper {p : Parts} (h : p.Proper) : parts p.text = p := by
  rw [Parts.text, parts_append_token h.head, parts_properTail h.tail, List.append_nil]

/-! ## Putting together -/

theorem joinParts_tail (n : Text) (l : List (Text × Text)) :
    joinParts (n :: l.map (·.2)) (l.map (·.1)) = n ++ l.flatMap fun x => x.1 ++ x.2 := by
  induction l generalizing n with
  | nil => simp [joinParts]
  | cons x l ih => simp [joinParts, ih]

/-- An empty token behind the last gap makes no difference. -/
theorem joinParts_empty_last (ns gs : List Text) (h : gs.length ≤ ns.length) :
    joinParts (ns ++ [[]]) gs = joinParts ns gs := by
  induction ns generalizing gs with
  | nil => simp_all [joinParts]
  | cons n ns ih =>
    cases gs with
    | nil => simp [joinParts, ih]
    | cons g gs => simp [joinParts, ih gs (by simpa using h)]

theorem dropEmptyLast_append (ns : List Text) : dropEmptyLast (ns ++ [[]]) = ns := by simp [dropEmptyLast]

theorem dropEmptyLast_of_ne {ns : List Text} (h : ns.getLast? ≠ some []) :
    dropEmptyLast ns = ns := by simp [dropEmptyLast, h]

/-- Either the last token is empty and dropped, or it stays. -/
theorem dropEmptyLast_cases (ns : List Text) :
    (∃ ms, ns = ms ++ [[]] ∧ dropEmptyLast ns = ms) ∨ (ns.getLast? ≠ some [] ∧ dropEmptyLast ns = ns) := by
  by_cases h : ns.getLast? = some []
  · obtain ⟨ms, rfl⟩ := List.getLast?_eq_some_iff.mp h
    exact Or.inl ⟨ms, rfl, dropEmptyLast_append ms⟩
  · exact Or.inr ⟨h, dropEmptyLast_of_ne h⟩

/-- A split text is put together to itself. -/
theorem join_split (t : Text) : (split t).join = t := by
  have hp := joinParts_tail (parts t).head (parts t).tail
  have ht : joinParts ((parts t).head :: (parts t).tail.map (·.2)) ((parts t).tail.map (·.1)) = t :=
    hp.trans (parts_text t)
  simp only [split, join]
  rcases dropEmptyLast_cases ((parts t).head :: (parts t).tail.map (·.2)) with ⟨ms, hms, hd⟩ | ⟨_, hd⟩
  · rw [hd, ← joinParts_empty_last, ← hms, ht]
    have := congrArg List.length hms
    simp at this
    simp [this]
  · rw [hd, ht]

/-! ## Well-formed lists -/

theorem ProperTail.tokens {l : List (Text × Text)} (h : ProperTail l) :
    (∀ x ∈ l, isGap x.1 = true ∧ ∀ c ∈ x.2, isSeparator c = false) ∧
    ∀ n ∈ (l.map (·.2)).dropLast, n ≠ [] := by
  induction l with
  | nil => simp
  | cons x l ih =>
    obtain ⟨hg, hn, hne, hl⟩ := h
    obtain ⟨h1, h2⟩ := ih hl
    refine ⟨fun y hy => ?_, fun n hmem => ?_⟩
    · rcases List.mem_cons.mp hy with rfl | hy
      · exact ⟨hg, hn⟩
      · exact h1 y hy
    · cases l with
      | nil => simp at hmem
      | cons y l =>
        rw [List.map_cons, List.map_cons, List.dropLast_cons_cons] at hmem
        rcases List.mem_cons.mp hmem with rfl | hmem
        · exact hne (by simp)
        · exact h2 n hmem

theorem properTail_zip {gs ns : List Text} (hlen : gs.length = ns.length) (hg : ∀ g ∈ gs, isGap g = true)
    (hn : ∀ n ∈ ns, ∀ c ∈ n, isSeparator c = false) (hne : ∀ n ∈ ns.dropLast, n ≠ []) :
    ProperTail (gs.zip ns) := by
  induction ns generalizing gs with
  | nil => simp [ProperTail]
  | cons n ns ih =>
    cases gs with
    | nil => simp at hlen
    | cons g gs =>
      have hlen' : gs.length = ns.length := by simpa using hlen
      refine ⟨hg g List.mem_cons_self, hn n List.mem_cons_self, fun hz => ?_, ?_⟩
      · have : ns ≠ [] := by rintro rfl; simp at hz
        exact hne n (by rw [List.dropLast_cons_of_ne_nil this]; exact List.mem_cons_self)
      · refine ih hlen' (fun x hx => hg x (List.mem_cons_of_mem g hx)) (fun x hx => hn x (List.mem_cons_of_mem n hx))
          fun x hx => ?_
        cases ns with
        | nil => simp at hx
        | cons m ns => exact hne x (by rw [List.dropLast_cons_cons]; exact List.mem_cons_of_mem n hx)

/-- The parts of a well-formed list, given what stands behind its first token. -/
theorem split_zip {n : Text} {ns gs : List Text} (hlen : gs.length = ns.length) (hg : ∀ g ∈ gs, isGap g = true)
    (hn : ∀ m ∈ n :: ns, ∀ c ∈ m, isSeparator c = false) (hne : ∀ m ∈ ns.dropLast, m ≠ []) :
    split (joinParts (n :: ns) gs) = ⟨dropEmptyLast (n :: ns), gs⟩ := by
  have h1 : (gs.zip ns).map (·.1) = gs := List.map_fst_zip (by omega)
  have h2 : (gs.zip ns).map (·.2) = ns := List.map_snd_zip (by omega)
  have hp : (⟨n, gs.zip ns⟩ : Parts).Proper :=
    ⟨hn n List.mem_cons_self, properTail_zip hlen hg (fun m hm => hn m (List.mem_cons_of_mem n hm)) hne⟩
  have ht : (⟨n, gs.zip ns⟩ : Parts).text = joinParts (n :: ns) gs := by
    have := joinParts_tail n (gs.zip ns)
    rw [h1, h2] at this
    exact this.symm
  simp only [split, ← ht, parts_of_proper hp, h1, h2]

/-- A well-formed list is what its text is split into. -/
theorem split_join {l : ClassList} (h : l.WellFormed) : split l.join = l := by
  obtain ⟨tokens, gs⟩ := l
  cases tokens with
  | nil =>
    have : gs = [] := by simpa using h.count
    subst this; rfl
  | cons n ns =>
    have hfilled : ∀ m ∈ ns, m ≠ [] := h.filled
    rcases h.count with hc | hc
    · -- the empty token behind the last gap comes and goes
      have hlen : gs.length = (ns ++ [[]]).length := by simpa using hc
      have hz := split_zip (n := n) hlen h.gaps
        (fun m hm => by
          rcases List.mem_append.mp (show m ∈ (n :: ns) ++ [[]] from hm) with hm | hm
          · exact h.tokens m hm
          · simp at hm; simp [hm])
        (by simpa using hfilled)
      rw [← List.cons_append, joinParts_empty_last _ _ (by simp at hc ⊢; omega), dropEmptyLast_append] at hz
      exact hz
    · have hlen : gs.length = ns.length := by simpa using hc
      have hz := split_zip hlen h.gaps h.tokens
        (fun m hm => hfilled m (List.dropLast_subset ns hm))
      rw [dropEmptyLast_of_ne] at hz
      · exact hz
      · intro hl
        rcases List.eq_nil_or_concat ns with rfl | ⟨init, last, rfl⟩
        · exact h.front (by simpa using hl) (by simpa using hc)
        · rw [List.concat_eq_append, ← List.cons_append] at hl
          simp only [List.getLast?_append, List.getLast?_singleton] at hl
          exact hfilled last (by simp) (by simpa using hl)

theorem split_wellFormed (t : Text) : (split t).WellFormed := by
  obtain ⟨hhead, htail⟩ := parts_proper t
  obtain ⟨hx, hinner⟩ := htail.tokens
  have hgaps : ∀ g ∈ (parts t).tail.map (·.1), isGap g = true := fun g hg => by
    obtain ⟨x, hxm, rfl⟩ := List.mem_map.mp hg
    exact (hx x hxm).1
  have htok : ∀ n ∈ (parts t).head :: (parts t).tail.map (·.2), ∀ c ∈ n, isSeparator c = false :=
    fun n hn => by
    rcases List.mem_cons.mp hn with rfl | hn
    · exact hhead
    · obtain ⟨x, hxm, rfl⟩ := List.mem_map.mp hn
      exact (hx x hxm).2
  simp only [split]
  rcases dropEmptyLast_cases ((parts t).head :: (parts t).tail.map (·.2)) with ⟨ms, hms, hd⟩ | ⟨hlast, hd⟩
  · rw [hd]
    have hlen : (parts t).tail.length = ms.length := by simpa using congrArg List.length hms
    refine ⟨hgaps, fun n hn => htok n (by rw [hms]; exact List.mem_append_left _ hn), fun n hn => ?_, fun hf => ?_,
      Or.inl (by simpa using hlen)⟩
    · cases ms with
      | nil => cases hn
      | cons m ms =>
        rw [List.cons_append, List.cons.injEq] at hms
        exact hinner n (by rw [hms.2, List.dropLast_concat]; exact hn)
    · rintro e
      rw [List.map_eq_nil_iff] at e
      rw [e] at hlen
      rw [List.eq_nil_of_length_eq_zero hlen.symm] at hf
      cases hf
  · rw [hd]
    refine ⟨hgaps, htok, fun n hn e => ?_, fun hf e => ?_, Or.inr (by simp)⟩
    · -- the last token is not empty, and the others before it are not
      subst e
      rw [List.tail_cons] at hn
      obtain ⟨init, last, hil⟩ :=
        List.eq_nil_or_concat ((parts t).tail.map (·.2)) |>.resolve_left (List.ne_nil_of_mem hn)
      rw [List.concat_eq_append] at hil
      rw [hil] at hn hinner hlast
      rw [List.dropLast_concat] at hinner
      rcases List.mem_append.mp hn with hn | hn
      · exact hinner [] hn rfl
      · rw [List.mem_singleton] at hn
        subst hn
        rw [← List.cons_append, List.getLast?_append, List.getLast?_singleton] at hlast
        exact hlast rfl
    · rw [List.map_eq_nil_iff] at e
      simp [e] at hf hlast
      exact hlast hf

/-- A split text is well formed and is put together to itself, and the lists that their text is split into are exactly
the well-formed ones. -/
theorem split_inverse (t : Text) (l : ClassList) :
    (split t).join = t ∧ (split t).WellFormed ∧ (l.WellFormed ↔ split l.join = l) := by
  refine ⟨join_split t, split_wellFormed t, ?_⟩
  constructor
  · intro h
    exact split_join h
  · intro h
    rw [← h]
    exact split_wellFormed l.join

/-! ## Words -/

/-- The tokens of a text that are not empty. -/
def words (t : Text) : List Text := (split t).tokens.filter fun n => !n.isEmpty

theorem words_eq_parts (t : Text) :
    words t = ((parts t).head :: (parts t).tail.map (·.2)).filter fun n => !n.isEmpty := by
  simp only [words, split]
  rcases dropEmptyLast_cases ((parts t).head :: (parts t).tail.map (·.2)) with ⟨ms, hms, hd⟩ | ⟨_, hd⟩
  · rw [hd, hms]; simp
  · rw [hd]

theorem words_join {l : ClassList} (h : l.WellFormed) : words l.join = l.tokens.filter fun n => !n.isEmpty := by
  rw [words, split_join h]

@[simp] theorem words_nil : words [] = [] := rfl

theorem words_of_token {n : Text} (hn : ∀ c ∈ n, isSeparator c = false) (hne : n ≠ []) : words n = [n] := by
  have h := parts_append_token hn []
  rw [List.append_nil] at h
  rw [words_eq_parts, h]
  simp [parts, hne]

theorem cons_separator {c : Char} (hc : isSeparator c = true) (p : Parts) :
    (p.cons c).head = [] ∧ ((p.cons c).tail.map (·.2)).filter (fun n => !n.isEmpty) =
      (p.head :: p.tail.map (·.2)).filter fun n => !n.isEmpty := by
  simp only [Parts.cons, hc, if_true]
  split
  · rename_i h1 h2; simp [h1, h2]
  · exact ⟨rfl, rfl⟩

theorem parts_append_separator {c : Char} (hc : isSeparator c = true) (a b : Text) :
    (parts (a ++ c :: b)).head = (parts a).head ∧
    ((parts (a ++ c :: b)).tail.map (·.2)).filter (fun n => !n.isEmpty) =
      ((parts a).tail.map (·.2)).filter (fun n => !n.isEmpty) ++ words b := by
  induction a with
  | nil =>
    rw [words_eq_parts]
    exact cons_separator hc (parts b)
  | cons x a ih =>
    obtain ⟨h1, h2⟩ := ih
    rw [List.cons_append, parts, parts]
    by_cases hx : isSeparator x = true
    · obtain ⟨e1, e2⟩ := cons_separator hx (parts (a ++ c :: b))
      obtain ⟨f1, f2⟩ := cons_separator hx (parts a)
      refine ⟨e1.trans f1.symm, ?_⟩
      rw [e2, f2, h1]
      simp only [List.filter_cons, h2]
      split <;> simp
    · simp only [Parts.cons, hx, if_false, Bool.false_eq_true, h1]
      exact ⟨trivial, h2⟩

/-- Words are cut at every separator. -/
theorem words_append_separator {c : Char} (hc : isSeparator c = true) (a b : Text) :
    words (a ++ c :: b) = words a ++ words b := by
  obtain ⟨h1, h2⟩ := parts_append_separator hc a b
  rw [words_eq_parts, words_eq_parts a]
  simp only [List.filter_cons, h1, h2]
  split <;> simp

theorem words_gap_append {g : Text} (hg : ∀ c ∈ g, isSeparator c = true) (t : Text) : words (g ++ t) = words t := by
  induction g with
  | nil => rfl
  | cons c g ih =>
    rw [List.cons_append, ← List.nil_append (c :: (g ++ t)), words_append_separator (hg c List.mem_cons_self)]
    simpa using ih fun d hd => hg d (List.mem_cons_of_mem c hd)

theorem words_append_gap {g : Text} (hg : isGap g = true) (a b : Text) : words (a ++ g ++ b) = words a ++ words b := by
  obtain ⟨c, g, rfl⟩ := List.exists_cons_of_ne_nil (gap_ne_nil hg)
  have hs := gap_separators hg
  rw [List.append_assoc, List.cons_append, words_append_separator (hs c List.mem_cons_self),
    words_gap_append fun d hd => hs d (List.mem_cons_of_mem c hd)]

/-- A character that is no separator begins the first word. -/
theorem words_cons_token {c : Char} (hc : isSeparator c = false) (t : Text) :
    ∃ w ws, words (c :: t) = (c :: w) :: ws := by
  refine ⟨(parts t).head, ((parts t).tail.map (·.2)).filter fun n => !n.isEmpty, ?_⟩
  rw [words_eq_parts, parts]
  simp [Parts.cons, hc]

/-- Read backwards, a text has its words backwards. -/
theorem words_reverse (t : Text) : words t.reverse = ((words t).map List.reverse).reverse := by
  -- a text is a token, or it is cut at a separator into two shorter ones
  induction hn : t.length using Nat.strongRecOn generalizing t with
  | _ n ih =>
  subst hn
  by_cases hsep : ∃ c ∈ t, isSeparator c = true
  · obtain ⟨c, hmem, hc⟩ := hsep
    obtain ⟨a, b, rfl⟩ := List.append_of_mem hmem
    have ha := ih a.length (by simp only [List.length_append, List.length_cons]; omega) a rfl
    have hb := ih b.length (by simp only [List.length_append, List.length_cons]; omega) b rfl
    rw [List.reverse_append, List.reverse_cons, List.append_assoc, List.singleton_append, words_append_separator hc,
      words_append_separator hc, ha, hb, List.map_append, List.reverse_append]
  · have htoken : ∀ c ∈ t, isSeparator c = false := fun c hc => by simpa using fun h => hsep ⟨c, hc, h⟩
    cases t with
    | nil => rfl
    | cons c t =>
      rw [words_of_token htoken (List.cons_ne_nil c t),
        words_of_token (fun d hd => htoken d (List.mem_reverse.mp hd)) (by simp)]
      rfl

/-- Words hold every character that is no separator, in order. -/
theorem words_flatten (t : Text) : (words t).flatten = t.filter fun c => !isSeparator c := by
  have filled : ∀ ns : List Text, (ns.filter fun n => !n.isEmpty).flatten = ns.flatten := by
    intro ns
    induction ns with
    | nil => rfl
    | cons n ns ih => cases n <;> simp [ih]
  rw [words_eq_parts]
  induction t with
  | nil => rfl
  | cons c t ih =>
    rw [filled] at ih ⊢
    rw [parts]
    by_cases hc : isSeparator c = true
    · obtain ⟨h1, h2⟩ := cons_separator hc (parts t)
      rw [h1, List.flatten_cons, List.nil_append, ← filled, h2, filled, ih]
      simp [hc]
    · simp [Parts.cons, hc] at ih ⊢
      exact ih

end ClassTidy.ClassList
