/-
  ClassTidy.Proofs.Literals — literals whose class string is replaced.

  A backslash hides the character behind it, unless it is hidden itself (`hides`). What
  stands between two quotes is read as one literal if the quote is never unhidden in it, and
  if no backslash is left without a character to hide: none stands at the end or before a
  newline, which it cannot hide (`Literal.all_quoted`, `Literal.body_iff`).

  Sorting knows no backslashes. It moves classes and blanks, and neither a class nor a blank
  is hidden by what stands before it, save for a blank behind a backslash. So a property of
  characters that is the same for all blanks is kept, if it holds of a text with a blank
  behind it (`closed_normalize`). One is that the quote is never unhidden, another that no
  blank is hidden.

  Proved (`calls_sorted_literal`): the sorted class string of a literal is a literal again
  exactly if no backslash dangles in it, and none does if no backslash of the literal hides a
  blank. One that hides the blank at the end is left without it, and hides the closing quote
  (`calls_sorted_literal_cut`).
-/
import ClassTidy.Proofs.Canonical
import ClassTidy.Proofs.SpanPlaces

namespace ClassTidy

/-! ## Hidden characters -/

namespace Text

/-- What is hidden behind a character that may be hidden itself. -/
def hidesNext (hidden : Bool) (c : Char) : Bool := !hidden && c == '\\'

/-- Whether the character behind a text is hidden; `hidden` says it of the first one. -/
def hides (hidden : Bool) (t : Text) : Bool := t.foldl hidesNext hidden

/-- Each character of a text, hidden or not, has a property. -/
def Each (P : Bool → Char → Prop) : Bool → Text → Prop
  | _, [] => True
  | hidden, c :: t => P hidden c ∧ Each P (hidesNext hidden c) t

theorem hides_append (hidden : Bool) (a b : Text) :
    hides hidden (a ++ b) = hides (hides hidden a) b := List.foldl_append

variable {P : Bool → Char → Prop}

theorem each_append (hidden : Bool) (a b : Text) :
    Each P hidden (a ++ b) ↔ Each P hidden a ∧ Each P (hides hidden a) b := by
  induction a generalizing hidden with
  | nil => simp [Each, hides]
  | cons c a ih =>
    simp only [List.cons_append, Each, ih, and_assoc]
    rfl

theorem each_iff (hidden : Bool) (t : Text) :
    Each P hidden t ↔ ∀ a c b, t = a ++ c :: b → P (hides hidden a) c := by
  constructor
  · rintro h a c b rfl
    exact ((each_append hidden a (c :: b)).mp h).2.1
  · intro h
    induction t generalizing hidden with
    | nil => trivial
    | cons c t ih => exact ⟨h [] c t rfl, ih _ fun a d b e => h (c :: a) d b (by rw [e]; rfl)⟩

/-- A hidden character stands behind a backslash that is not hidden. -/
theorem hides_iff (t : Text) : hides false t = true ↔ ∃ a, t = a ++ ['\\'] ∧ hides false a = false := by
  rcases List.eq_nil_or_concat' t with rfl | ⟨a, c, rfl⟩
  · simp [hides]
  · have hlast : hides false (a ++ [c]) = true ↔ hides false a = false ∧ c = '\\' := by
      rw [hides_append]
      simp [hides, hidesNext]
    rw [hlast]
    constructor
    · rintro ⟨ha, rfl⟩
      exact ⟨a, rfl, ha⟩
    · rintro ⟨b, e, hb⟩
      obtain ⟨rfl, hc⟩ := List.append_inj' e rfl
      exact ⟨hb, (List.cons.inj hc).1⟩

theorem blank_ne_backslash {c : Char} (h : isBlank c = true) : c ≠ '\\' := by
  rintro rfl
  exact absurd h (by decide)

/-- A run of blanks hides nothing. -/
theorem hides_blanks {g : Text} (hne : g ≠ []) (hg : ∀ c ∈ g, isBlank c = true) (hidden : Bool) :
    hides hidden g = false := by
  obtain ⟨g, c, rfl⟩ := (List.eq_nil_or_concat' g).resolve_left hne
  have hc : c ≠ '\\' := blank_ne_backslash (hg c (by simp))
  rw [hides_append]
  simp [hides, hidesNext, hc]

/-- A backslash that is not hidden has nothing behind it to hide. -/
def Dangles (t : Text) : Prop := ∃ a b, t = a ++ '\\' :: b ∧ hides false a = false ∧ ∀ c ∈ b.head?, c = '\n'

/-- No backslash dangles if no newline is hidden and nothing behind the text is. -/
theorem not_dangles_iff (t : Text) :
    ¬ Dangles t ↔ Each (fun h c => h = true → c ≠ '\n') false t ∧ hides false t = false := by
  rw [each_iff]
  constructor
  · intro h
    refine ⟨fun a c b e hidden => ?_, ?_⟩
    · rintro rfl
      obtain ⟨a, rfl, ha⟩ := (hides_iff a).mp hidden
      exact h ⟨a, '\n' :: b, by rw [e]; simp, ha, by simp⟩
    · rw [Bool.eq_false_iff]
      intro hidden
      obtain ⟨a, rfl, ha⟩ := (hides_iff t).mp hidden
      exact h ⟨a, [], rfl, ha, by simp⟩
  · rintro ⟨hline, hend⟩ ⟨a, b, rfl, ha, hb⟩
    have hbehind : hides false (a ++ ['\\']) = true := (hides_iff _).mpr ⟨a, rfl, ha⟩
    cases b with
    | nil => exact absurd (hend.symm.trans hbehind) (by decide)
    | cons c b => exact hline (a ++ ['\\']) c b (by simp) hbehind (hb c rfl)

end Text

/-! ## What a literal can hold -/

namespace Literal

open Text (hides hidesNext Each Dangles)

/-- What can stand between two quotes `q`. -/
inductive Body (q : Char) : Text → Prop
  | nil : Body q []
  | plain {c : Char} {t : Text} (quote : c ≠ q) (backslash : c ≠ '\\') (rest : Body q t) : Body q (c :: t)
  | pair {c : Char} {t : Text} (line : c ≠ '\n') (rest : Body q t) : Body q ('\\' :: c :: t)

/-- What a literal can hold is read up to the first quote behind it. -/
theorem Body.read {q : Char} (hq : q ≠ '\\') {v : Text} (h : Body q v) (t : Text) :
    body? q (v ++ q :: t) = some v := by
  induction h with
  | nil => cases t <;> simp [body?]
  | @plain c v quote backslash rest ih =>
    obtain ⟨d, u, hu⟩ := List.exists_cons_of_ne_nil (l := v ++ q :: t) (by simp)
    rw [hu] at ih
    simp [hu, body?, quote, backslash, ih]
  | pair line rest ih => simp [body?, line, ih, hq.symm]

theorem body_of_read {q : Char} {t v : Text} (h : body? q t = some v) : Body q v := by
  fun_induction body? q t generalizing v with
  | case1 => cases h
  | case2 =>
    obtain rfl := Option.some.inj h
    exact .nil
  | case3 => cases h
  | case4 d t =>
    obtain rfl := Option.some.inj h
    exact .nil
  | case5 => cases h
  | case6 d t hline hq ih =>
    obtain ⟨w, hw, rfl⟩ := Option.map_eq_some_iff.mp h
    exact .pair hline (ih hw)
  | case7 c d t hq hb ih =>
    obtain ⟨w, hw, rfl⟩ := Option.map_eq_some_iff.mp h
    exact .plain hq hb (ih hw)

theorem quote_ne_backslash {q : Char} (hq : isQuote q = true) : q ≠ '\\' := by
  rintro rfl
  exact absurd hq (by decide)

theorem quote_filled {q : Char} (hq : isQuote q = true) : Text.isBlank q = false := by
  simp only [isQuote, Bool.or_eq_true, beq_iff_eq] at hq
  rcases hq with rfl | rfl <;> decide

theorem scan_skip (i : Nat) (t : Text) : scan t.length i t = [] := by
  induction t generalizing i with
  | nil => rfl
  | cons c t ih => exact ih (i + 1)

theorem scan_read {q : Char} (hq : isQuote q = true) {t w : Text} (h : body? q t = some w) (i : Nat) :
    scan 0 i (q :: t) = ⟨w, i + 1, q :: w ++ [q]⟩ :: scan (w.length + 1) (i + 1) t := by
  simp [scan, hq, h]

theorem scan_unread {q : Char} {t : Text} (h : body? q t = none) (i : Nat) : scan 0 i (q :: t) = scan 0 (i + 1) t := by
  simp [scan, h]

/-- A text between quotes is read as one literal of that value exactly if a literal can hold it. -/
theorem all_quoted {q : Char} (hq : isQuote q = true) (v : Text) :
    (all (q :: v ++ [q])).map (·.value) = [v] ↔ Body q v := by
  rw [all, List.cons_append]
  constructor
  · intro h
    cases hbody : body? q (v ++ [q]) with
    | some w =>
      rw [scan_read hq hbody] at h
      obtain rfl : w = v := (List.cons.inj h).1
      exact body_of_read hbody
    | none =>
      -- no literal inside is long enough
      rw [scan_unread hbody] at h
      obtain ⟨l, hl, hvalue⟩ := List.map_eq_singleton_iff.mp h
      obtain ⟨k, q', -, hfull, -, hstands, -⟩ := Span.stands_of_scan (hl ▸ List.mem_singleton_self l)
      rw [hfull, hvalue] at hstands
      have hlen := hstands.le_length (by simp)
      simp only [List.length_append, List.length_cons, List.length_nil] at hlen
      omega
  · intro h
    have hskip := scan_skip 1 (v ++ [q])
    rw [List.length_append, List.length_singleton] at hskip
    rw [scan_read hq (h.read (quote_ne_backslash hq) [])]
    simp only [hskip, List.map_cons, List.map_nil]

theorem body_of_each {q : Char} : ∀ v : Text, Each (fun h c => h = false → c ≠ q) false v →
    Each (fun h c => h = true → c ≠ '\n') false v → hides false v = false → Body q v
  | [], _, _, _ => .nil
  | [c], hquote, _, hend => by
    have hb : c ≠ '\\' := by
      rintro rfl
      cases hend
    exact .plain (hquote.1 rfl) hb .nil
  | c :: d :: t, hquote, hline, hend => by
    by_cases hb : c = '\\'
    · subst hb
      exact .pair (hline.2.1 rfl) (body_of_each t hquote.2.2 hline.2.2 hend)
    · have hnext : hidesNext false c = false := by simpa [hidesNext] using hb
      have hquote' := hquote.2
      have hline' := hline.2
      have hend' : hides (hidesNext false c) (d :: t) = false := hend
      rw [hnext] at hquote' hline' hend'
      exact .plain (hquote.1 rfl) hb (body_of_each (d :: t) hquote' hline' hend')

/-- Between two quotes can stand what has no unhidden quote and no dangling backslash. -/
theorem body_iff {q : Char} (hq : q ≠ '\\') (v : Text) :
    Body q v ↔ Each (fun h c => h = false → c ≠ q) false v ∧ ¬ Dangles v := by
  rw [Text.not_dangles_iff]
  constructor
  · intro h
    induction h with
    | nil => exact ⟨trivial, trivial, rfl⟩
    | @plain c t quote backslash rest ih =>
      have hnext : hidesNext false c = false := by simpa [hidesNext] using backslash
      simp only [Each, hides, List.foldl_cons, hnext]
      exact ⟨⟨fun _ => quote, ih.1⟩, ⟨fun h => absurd h Bool.false_ne_true, ih.2.1⟩, ih.2.2⟩
    | pair line rest ih =>
      exact ⟨⟨fun _ => hq.symm, fun h => absurd h (by decide), ih.1⟩,
        ⟨fun h => absurd h (by decide), fun _ => line, ih.2.1⟩, ih.2.2⟩
  · rintro ⟨hquote, hline, hend⟩
    exact body_of_each v hquote hline hend

end Literal

/-! ## Sorting -/

namespace ClassList

open Text (isBlank hides hidesNext Each Dangles replaceLeading replaceTrailing)

/-- A property of characters that is the same for all blanks, and that blanks have that are not hidden. -/
structure BlankBlind (P : Bool → Char → Prop) : Prop where
  alike : ∀ hidden c, isBlank c = true → (P hidden c ↔ P hidden ' ')
  open_ : P false ' '

/-- Each character of a text has a property, and so has a blank behind it. -/
def Closed (P : Bool → Char → Prop) (t : Text) : Prop := Each P false (t ++ [' '])

section Closed

variable {P : Bool → Char → Prop}

theorem BlankBlind.each_blanks (hP : BlankBlind P) {g : Text} (hg : ∀ c ∈ g, isBlank c = true) :
    Each P false g := by
  induction g with
  | nil => trivial
  | cons c g ih =>
    obtain ⟨hc, hg⟩ := List.forall_mem_cons.mp hg
    have hnext : hidesNext false c = false := by simpa [hidesNext] using Text.blank_ne_backslash hc
    exact ⟨(hP.alike false c hc).mpr hP.open_, hnext.symm ▸ ih hg⟩

/-- What stands before blanks and what stands behind them have nothing to do with each other. -/
theorem BlankBlind.each_parted (hP : BlankBlind P) {g : Text} (hne : g ≠ []) (hg : ∀ c ∈ g, isBlank c = true)
    (a b : Text) :
    Each P false (a ++ g ++ b) ↔ Closed P a ∧ Each P false b := by
  obtain ⟨c, g, rfl⟩ := List.exists_cons_of_ne_nil hne
  obtain ⟨hc, hrest⟩ := List.forall_mem_cons.mp hg
  have hnext : ∀ hidden, hidesNext hidden c = false := fun hidden => by
    simp [hidesNext, Text.blank_ne_backslash hc]
  rw [Closed, Text.each_append, Text.hides_append, Text.hides_blanks hne hg, Text.each_append, Text.each_append]
  simp only [Each, hnext, hP.alike _ c hc, hP.each_blanks hrest, and_true]

theorem closed_nil (hP : BlankBlind P) : Closed P [] := ⟨hP.open_, trivial⟩

theorem closed_joinParts (hP : BlankBlind P) {ns gs : List Text} (hg : ∀ g ∈ gs, isGap g = true)
    (h : ns.length ≤ gs.length + 1) :
    Closed P (joinParts ns gs) ↔ ∀ n ∈ ns, Closed P n := by
  induction ns generalizing gs with
  | nil => simp [joinParts, closed_nil hP]
  | cons n ns ih =>
    cases gs with
    | nil =>
      obtain rfl : ns = [] := List.eq_nil_of_length_eq_zero (by simpa using h)
      simp [joinParts]
    | cons g gs =>
      have hgap := hg g List.mem_cons_self
      rw [joinParts, Closed, List.append_assoc, hP.each_parted (gap_ne_nil hgap)
        fun c hc => blank_of_separator (gap_separators hgap c hc)]
      rw [← Closed, ih (fun x hx => hg x (List.mem_cons_of_mem g hx)) (by simpa using h), List.forall_mem_cons]

theorem closed_split (hP : BlankBlind P) (t : Text) : Closed P t ↔ ∀ n ∈ (split t).tokens, Closed P n := by
  have hwell := split_wellFormed t
  have hcount := hwell.count
  conv_lhs => rw [← join_split t, join, closed_joinParts hP hwell.gaps (by omega)]

theorem closed_replaceLeading (hP : BlankBlind P) {r t : Text} (hr : ∀ c ∈ r, isBlank c = true) (h : Closed P t) :
    Closed P (replaceLeading r t) := by
  rcases replaceLeading_split r t with ⟨-, e⟩ | ⟨hne, e⟩
  · rwa [e]
  · rw [e, Closed, List.append_assoc]
    rw [Closed, ← List.takeWhile_append_dropWhile (p := isBlank) (l := t), List.append_assoc,
      ← List.nil_append (_ ++ _),
      ← List.append_assoc, hP.each_parted hne fun c hc => List.mem_takeWhile_imp hc] at h
    by_cases hrne : r = []
    · rw [hrne]
      exact h.2
    · rw [← List.nil_append (r ++ _), ← List.append_assoc]
      exact (hP.each_parted hrne hr [] _).mpr h

theorem closed_replaceTrailing (hP : BlankBlind P) {r t : Text} (hr : ∀ c ∈ r, isBlank c = true) (h : Closed P t) :
    Closed P (replaceTrailing r t) := by
  rw [replaceTrailing_eq]
  rcases replaceLeading_split r.reverse t.reverse with ⟨-, e⟩ | ⟨hne, e⟩
  · rwa [e, List.reverse_reverse]
  · have ht : t = (t.reverse.dropWhile isBlank).reverse ++ (t.reverse.takeWhile isBlank).reverse := by
      rw [← List.reverse_append, List.takeWhile_append_dropWhile, List.reverse_reverse]
    have hblank : ∀ c ∈ (t.reverse.takeWhile isBlank).reverse, isBlank c = true := fun c hc =>
      List.mem_takeWhile_imp (List.mem_reverse.mp hc)
    rw [ht, Closed, hP.each_parted (by simpa using hne) hblank] at h
    rw [e, List.reverse_append, List.reverse_reverse]
    by_cases hrne : r = []
    · rw [hrne, List.append_nil]
      exact h.1
    · exact (hP.each_parted hrne hr _ [' ']).mpr h

theorem closed_arranged (hP : BlankBlind P) {rank : Text → Rank} (hrank : rank [] = .unknown) (unique : Bool)
    {l : ClassList} (hl : l.Filled) (h : ∀ n ∈ l.tokens, Closed P n) :
    Closed P (arranged rank unique l).join := by
  have hfilled := hl.arranged hrank unique
  have hcount := hfilled.wellFormed.count
  exact (closed_joinParts hP hfilled.wellFormed.gaps (by omega)).mpr fun n hn => h n (mem_sortRanked.mp hn)

/-- The canonical form keeps what is closed. -/
theorem closed_normalize (hP : BlankBlind P) (table : RankTable) {o : Options} (hf : o.holdFirst = false)
    (hl : o.holdLast = false) {t : Text} (hgap : isGap t = false) (h : Closed P t) :
    Closed P (table.normalize o t) := by
  cases hfix : fixed? o t with
  | some u =>
    rw [RankTable.normalize, hfix, fixed?_of_not_gap hgap hfix]
    exact h
  | none =>
    have hfilled := filled_split (of_fixed?_none hfix).1 hgap
    have htokens := (closed_split hP t).mp h
    have hends : ∀ trim : Bool, ∀ c ∈ (if trim then [] else [' '] : Text), isBlank c = true := by
      intro trim c hc
      cases trim
      · obtain rfl := List.mem_singleton.mp hc
        decide
      · cases hc
    rw [normalize_eq table hf hl hfix]
    cases o.collapse with
    | none => exact closed_arranged hP table.rank_nil o.unique hfilled htokens
    | some e =>
      exact closed_replaceTrailing hP (hends _) (closed_replaceLeading hP (hends _)
        (closed_arranged hP table.rank_nil o.unique hfilled.collapse htokens))

end Closed

/-- A quote is not blank, so all blanks are alike to whether it is unhidden. -/
theorem blankBlind_quote {q : Char} (hq : isBlank q = false) :
    BlankBlind fun hidden c => hidden = false → c ≠ q := by
  have hne : ∀ c, isBlank c = true → c ≠ q := by
    rintro c hc rfl
    exact absurd (hc.symm.trans hq) (by decide)
  exact ⟨fun _ c hc => ⟨fun _ _ => hne ' ' (by decide), fun _ _ => hne c hc⟩, fun _ => hne ' ' (by decide)⟩

/-- No blank is hidden. -/
theorem blankBlind_blank : BlankBlind fun hidden c => hidden = true → isBlank c = false :=
  ⟨fun _ c hc => by simp [hc, show isBlank ' ' = true by decide], fun h => absurd h (by decide)⟩

/-- Where no blank is hidden, nor one behind the text, no backslash dangles. -/
theorem not_dangles_of_closed {t : Text} (h : Closed (fun hidden c => hidden = true → isBlank c = false) t) :
    ¬ Dangles t := by
  obtain ⟨heach, hend, -⟩ := (Text.each_append false t [' ']).mp h
  refine (Text.not_dangles_iff t).mpr ⟨?_, ?_⟩
  · rw [Text.each_iff] at heach ⊢
    rintro a c b e hidden rfl
    exact absurd (heach a '\n' b e hidden) (by decide)
  · rw [Bool.eq_false_iff]
    exact fun hidden => absurd (hend hidden) (by decide)

end ClassList

/-! ## The literals of calls -/

open Text (isBlank hides Each Dangles)

/-- The sorted class string of a literal among the arguments of a call makes a literal again, read as one between the
same quotes, exactly if no backslash dangles in it. None does if no backslash that is not hidden stands before a
blank. -/
theorem Span.calls_sorted_literal (t : Text) (names : List Text) (table : RankTable) (set : Settings) (x : Span)
    (hx : x ∈ ofCalls t names) :
    ∃ q n, t[x.start]? = some q ∧ Literal.isQuote q = true ∧
      ClassList.normalize table.ranker set.options x.classes = .ok n ∧
      ((Literal.all (q :: n ++ [q])).map (·.value) = [n] ↔ ¬ Dangles n) ∧
      ((∀ a c b, x.classes = a ++ '\\' :: c :: b → hides false a = false → isBlank c = false) →
        (Literal.all (q :: n ++ [q])).map (·.value) = [n]) := by
  have hplaced := placed_of_calls x hx
  obtain ⟨-, q, hq, hfull, rest, hread⟩ := quoted_of_calls hx
  obtain ⟨hguard, hclosed⟩ := (Literal.body_iff (Literal.quote_ne_backslash hq) _).mp (Literal.body_of_read hread)
  have hfront : t[x.start]? = some q := by
    have hget := hplaced.full.getElem? (j := 0) (by simp [hfull])
    rwa [Nat.add_zero, hfull] at hget
  have hgap := ClassList.not_gap hplaced.filled
  have hblind := ClassList.blankBlind_quote (Literal.quote_filled hq)
  -- the quote is not unhidden by sorting
  have hquote : Each (fun h c => h = false → c ≠ q) false (table.normalize set.options x.classes) := by
    have hin : ClassList.Closed (fun h c => h = false → c ≠ q) x.classes :=
      (Text.each_append _ _ _).mpr ⟨hguard, fun _ => hblind.open_ rfl, trivial⟩
    exact ((Text.each_append _ _ _).mp (ClassList.closed_normalize hblind table rfl rfl hgap hin)).1
  have hiff := (Literal.all_quoted hq (table.normalize set.options x.classes)).trans
    ((Literal.body_iff (Literal.quote_ne_backslash hq) _).trans (and_iff_right hquote))
  refine ⟨q, _, hfront, hq, table.normalize_ranker _ _, hiff, fun hfirm => hiff.mpr ?_⟩
  refine ClassList.not_dangles_of_closed (ClassList.closed_normalize ClassList.blankBlind_blank table rfl rfl hgap ?_)
  refine (Text.each_append _ _ _).mpr ⟨(Text.each_iff _ _).mpr fun a c b e hidden => ?_, fun hidden => ?_, trivial⟩
  · obtain ⟨a, rfl, ha⟩ := (Text.hides_iff a).mp hidden
    exact hfirm a c b (by rw [e]; simp) ha
  · exact absurd (((Text.not_dangles_iff _).mp hclosed).2.symm.trans hidden) (by decide)

/-- A backslash that hides the blank at the end is left behind when that is trimmed off, and hides the closing quote:
the class string of this call is sorted into a text that is no literal between its quotes. -/
theorem Span.calls_sorted_literal_cut :
    let t : Text := "cn('p-4\\ ')".toList
    let x : Span := ⟨"'p-4\\ '".toList, "p-4\\ ".toList, 3, 4, 9, .call⟩
    ofCalls t ["cn".toList] = [x] ∧
      ∃ n, ClassList.normalize (RankTable.ranker ⟨[("p-4".toList, 1)], []⟩) Settings.default.options
        x.classes = .ok n ∧
        Dangles n ∧ (Literal.all ('\'' :: n ++ ['\''])).map (·.value) ≠ [n] := by
  intro t x
  have hx : ofCalls t ["cn".toList] = [x] := by decide +kernel
  obtain ⟨q, n, hq, -, hn, hiff, -⟩ :=
    calls_sorted_literal t ["cn".toList] ⟨[("p-4".toList, 1)], []⟩
      Settings.default x (hx ▸ List.mem_singleton_self x)
  obtain rfl : '\'' = q := Option.some.inj hq
  have hsorted :
      ClassList.normalize (RankTable.ranker ⟨[("p-4".toList, 1)], []⟩) Settings.default.options x.classes =
        .ok "p-4\\".toList := by decide +kernel
  obtain rfl := Except.ok.inj (hn.symm.trans hsorted)
  have hdangles : Dangles "p-4\\".toList := ⟨"p-4".toList, [], by decide, by decide, by simp⟩
  exact ⟨hx, _, hn, hdangles, fun h => hiff.mp h hdangles⟩

end ClassTidy
