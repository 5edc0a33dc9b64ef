/-
  ClassTidy.Proofs.Calls — calls read both fillings alike.

  A call's name and its parenthesis are characters, and so is the parenthesis that closes
  it: quotes are counted by marks, which no hole holds, and the parentheses in a hole are
  closed in it. So the arguments of a call are the same pieces in both texts, and the
  literals among them too (`calls_fill`). A call that begins inside a hole has no literals.
-/
import ClassTidy.Proofs.Lockstep

namespace ClassTidy.Span

open Piece (fill chars)

variable {F : Fencing} {k b : Bool} {ps : List Piece} {names : List Text}

/-! ## Where a call opens -/

theorem callOpening_marked (F : Fencing) {name : Text} (h : ∀ c ∈ name, c ∉ F.marks) :
    (callOpening name).Marked F.marks where
  sharp := callOpening_sharp name
  lead := h
  gap c hc hmark := by
    have hblank : Text.isBlank c = true := hc
    rw [(F.plain c hmark).1] at hblank
    cases hblank
  behind p hp c hc hmark := by
    obtain rfl := List.mem_singleton.mp hp
    exact (F.plain c hmark).2.1 (eq_of_beq hc)
  fence p hp := absurd hp List.not_mem_nil

/-- The opening of a call ends with its parenthesis. -/
theorem reads_call {name s g m q : Text} (h : (callOpening name).Reads s g m q) : ∃ a, s = a ++ ['('] := by
  obtain ⟨rfl, -, hm, hq⟩ := h
  obtain ⟨c, l, hc, hl, rfl⟩ := List.forall₂_cons_left_iff.mp hm
  obtain rfl := List.forall₂_nil_left_iff.mp hl
  obtain rfl := List.forall₂_nil_left_iff.mp hq
  obtain rfl : c = '(' := eq_of_beq hc
  exact ⟨(callOpening name).lead ++ g, by simp⟩

theorem opens?_fill {name : Text} (hn : ∀ c ∈ name, c ∉ F.marks) {c : Char} (hf : Framed F k (.char c :: ps))
    {n : Nat} (h : opens? name (fill b (.char c :: ps)) = some n) :
    (∃ s rest, .char c :: ps = chars s ++ .char '(' :: rest ∧ s.length + 1 = n) ∧
      ∀ b', opens? name (fill b' (.char c :: ps)) = some n := by
  rw [opens?_eq] at h
  obtain ⟨s, rest, hps, rfl, ⟨g, m, q, hreads⟩, hall⟩ := Opening.size?_fill (callOpening_marked F hn) hf h
  obtain ⟨a, rfl⟩ := reads_call hreads
  exact ⟨⟨a, rest, by rw [hps]; simp [chars], by simp⟩, fun b' => by rw [opens?_eq, hall b']⟩

/-- A call in front of pieces: characters up to its parenthesis. -/
theorem call?_fill (hn : ∀ name ∈ names, ∀ c ∈ name, c ∉ F.marks) {c : Char}
    (hf : Framed F k (.char c :: ps)) {x : Nat × Nat} (h : call? names (fill b (.char c :: ps)) = some x) :
    (∃ s rest, .char c :: ps = chars s ++ .char '(' :: rest ∧ x = (s.length, s.length)) ∧
      ∀ b', call? names (fill b' (.char c :: ps)) = some x := by
  have hsame : ∀ b', firstOpening? names (fill b' (.char c :: ps)) =
      firstOpening? names (fill b (.char c :: ps)) := by
    intro b'
    have hopens : names.map (fun n => opens? n (fill b' (.char c :: ps))) =
        names.map fun n => opens? n (fill b (.char c :: ps)) :=
      List.map_congr_left fun name hname => Option.ext fun n =>
        ⟨fun e => (opens?_fill (hn name hname) hf e).2 b, fun e => (opens?_fill (hn name hname) hf e).2 b'⟩
    have hfind := congrArg (List.findSome? id) hopens
    rwa [List.findSome?_map, List.findSome?_map] at hfind
  obtain ⟨n, hfirst, rfl⟩ := Option.map_eq_some_iff.mp h
  obtain ⟨name, hname, hopen⟩ := List.exists_of_findSome?_eq_some hfirst
  obtain ⟨⟨s, rest, hps, rfl⟩, -⟩ := opens?_fill (hn name hname) hf hopen
  refine ⟨⟨s, rest, hps, rfl⟩, fun b' => ?_⟩
  rw [call?, hsame b', hfirst]
  rfl

theorem call_steady (hn : ∀ name ∈ names, ∀ c ∈ name, c ∉ F.marks) : Steady F (call? names) := by
  intro k c ps b x hf h
  obtain ⟨⟨s, rest, hps, rfl⟩, hall⟩ := call?_fill hn hf h
  refine ⟨chars s ++ [.char '('], rest, by rw [hps]; simp, by simp, fun b' => ⟨s.length, ?_⟩⟩
  rw [hall b']
  simp

/-- A call that begins in a text without marks has its parenthesis in it. -/
theorem call?_plain (hn : ∀ name ∈ names, ∀ c ∈ name, c ∉ F.marks) {v rest : Text}
    (hv : ∀ c ∈ v, c ∉ F.marks) (hrest : ∀ c ∈ rest.head?, c ∈ F.marks) {x : Nat × Nat}
    (h : call? names (v ++ rest) = some x) :
    ∃ a z, v = a ++ '(' :: z ∧ x = (a.length, a.length) := by
  obtain ⟨n, hfirst, rfl⟩ := Option.map_eq_some_iff.mp h
  obtain ⟨name, hname, hopen⟩ := List.exists_of_findSome?_eq_some hfirst
  rw [opens?_eq, Opening.size?_eq_some (callOpening_sharp name)] at hopen
  obtain ⟨s, t, ht, rfl, g, m, q, hreads⟩ := hopen
  obtain rfl : q = [] := List.forall₂_nil_left_iff.mp hreads.fence
  obtain ⟨z, rfl⟩ := hreads.prefix_plain (callOpening_marked F (hn name hname)) hv hrest ht
  obtain ⟨a, rfl⟩ := reads_call hreads
  exact ⟨a, z, by simp, by simp⟩

theorem call_contained (hn : ∀ name ∈ names, ∀ c ∈ name, c ∉ F.marks) : Contained F (call? names) := by
  intro k old new ps b hf u v huv hv n a h
  have hcalm := hf.calm_text (b := b)
  have hplain : ∀ c ∈ v, c ∉ F.marks :=
    fun c hc => (hcalm.plain c (by rw [huv]; exact List.mem_append_right u hc)).1
  obtain ⟨s, z, rfl, hx⟩ := call?_plain hn hplain hf.fill_head h
  rw [(Prod.mk.inj hx).1]
  simp

/-! ## Where a call closes -/

/-- What the search for a closing parenthesis knows behind a character, unless that is the one. -/
def advance (depth : Nat) (quote : Option Char) (escaped : Bool) (c : Char) : Option (Nat × Option Char × Bool) :=
  if escaped then some (depth, quote, false)
  else if c = '\\' then some (depth, quote, true)
  else match quote with
    | some q => some (depth, if c = q then none else some q, false)
    | none =>
      if Literal.isQuote c then some (depth, some c, false)
      else if c = '(' then some (depth + 1, none, false)
      else if c = ')' then
        match depth with
        | 0 => none
        | d + 1 => some (d, none, false)
      else some (depth, none, false)

theorem closing?_cons (depth : Nat) (quote : Option Char) (escaped : Bool) (c : Char) (t : Text) :
    closing? depth quote escaped (c :: t) =
      match advance depth quote escaped c with
      | none => some 0
      | some (d, q, e) => (closing? d q e t).map (· + 1) := by
  conv_lhs => unfold closing?
  unfold advance
  split
  · rfl
  · split
    · rfl
    · split
      · rfl
      · split
        · rfl
        · split
          · rfl
          · split
            · split <;> rfl
            · rfl

/-- The quote that is open is a mark, and only a backslash hides the next character. -/
theorem advance_marked {depth d : Nat} {quote q : Option Char} {escaped e : Bool} {c : Char}
    (hq : ∀ x ∈ quote, x ∈ F.marks) (h : advance depth quote escaped c = some (d, q, e)) :
    (∀ x ∈ q, x ∈ F.marks) ∧ (e = true → c = '\\') := by
  have hnone : ∀ x ∈ (none : Option Char), x ∈ F.marks := fun x hx => by cases hx
  unfold advance at h
  split at h
  · obtain ⟨rfl, rfl, rfl⟩ := h
    exact ⟨hq, Bool.noConfusion⟩
  · split at h
    · rename_i hc
      obtain ⟨rfl, rfl, rfl⟩ := h
      exact ⟨hq, fun _ => hc⟩
    · split at h
      · obtain ⟨rfl, rfl, rfl⟩ := h
        refine ⟨?_, Bool.noConfusion⟩
        split
        · exact hnone
        · exact hq
      · split at h
        · rename_i hquote
          obtain ⟨rfl, rfl, rfl⟩ := h
          exact ⟨fun x hx => Option.mem_some.mp hx ▸ F.quotes _ hquote, Bool.noConfusion⟩
        · split at h
          · obtain ⟨rfl, rfl, rfl⟩ := h
            exact ⟨hnone, Bool.noConfusion⟩
          · split at h
            · split at h
              · cases h
              · obtain ⟨rfl, rfl, rfl⟩ := h
                exact ⟨hnone, Bool.noConfusion⟩
            · obtain ⟨rfl, rfl, rfl⟩ := h
              exact ⟨hnone, Bool.noConfusion⟩

/-- Inside quotes a text without marks is passed over. -/
theorem closing?_quoted {q : Char} {w : Text} (hw : ∀ c ∈ w, c ≠ q ∧ c ≠ '\\') (depth : Nat) (t : Text) :
    closing? depth (some q) false (w ++ t) = (closing? depth (some q) false t).map (· + w.length) := by
  induction w with
  | nil => simp
  | cons c w ih =>
    obtain ⟨hq, hb⟩ := hw c List.mem_cons_self
    have hstep : advance depth (some q) false c = some (depth, some q, false) := by simp [advance, hq, hb]
    rw [List.cons_append, closing?_cons, hstep]
    simp only
    rw [ih fun d hd => hw d (List.mem_cons_of_mem c hd), Option.map_map]
    rfl

/-- What the search knows behind a character that is neither quote nor backslash, outside of quotes. -/
theorem advance_plain {c : Char} (hq : Literal.isQuote c = false) (hb : c ≠ '\\') (depth : Nat) (t : Text) :
    (advance depth none false c = none ∧ depth = 0 ∧ c = ')') ∨
      ∃ d, advance depth none false c = some (d, none, false) ∧
        ∀ n, level (depth + n) (c :: t) = level (d + n) t := by
  by_cases ho : c = '('
  · subst ho
    exact Or.inr ⟨depth + 1, by simp [advance, hq],
      fun n => by simp [level, show depth + n + 1 = depth + 1 + n by omega]⟩
  · by_cases hc : c = ')'
    · subst hc
      cases depth with
      | zero => exact Or.inl ⟨by simp [advance, hq], rfl, rfl⟩
      | succ d =>
        exact Or.inr ⟨d, by simp [advance, hq], fun n => by simp [level, show d + 1 + n = d + n + 1 by omega]⟩
    · exact Or.inr ⟨depth, by simp [advance, hq, hb, ho, hc], fun n => by simp [level, ho, hc]⟩

/-- Outside of quotes a text passes with the parentheses it leaves open. -/
theorem closing?_level {w : Text} (hw : ∀ c ∈ w, Literal.isQuote c = false ∧ c ≠ '\\') {depth e : Nat}
    (h : level depth w = some e) (t : Text) :
    closing? depth none false (w ++ t) = (closing? e none false t).map (· + w.length) := by
  induction w generalizing depth with
  | nil =>
    obtain rfl := Option.some.inj h
    simp
  | cons c w ih =>
    obtain ⟨hq, hb⟩ := hw c List.mem_cons_self
    rw [List.cons_append, closing?_cons]
    rcases advance_plain hq hb depth w with ⟨-, rfl, rfl⟩ | ⟨d, hstep, hlevel⟩
    · simp [level] at h
    · have hd : level d w = some e := by rw [← h]; exact (hlevel 0).symm
      rw [hstep]
      simp only
      rw [ih (fun x hx => hw x (List.mem_cons_of_mem c hx)) hd, Option.map_map]
      rfl

/-- A parenthesis that a text closes is closed in it. -/
theorem closing?_inside {w : Text} (hw : ∀ c ∈ w, Literal.isQuote c = false ∧ c ≠ '\\') {depth outer e : Nat}
    (h : level (depth + (outer + 1)) w = some e) (he : e ≤ outer) (t : Text) :
    ∃ n < w.length, closing? depth none false (w ++ t) = some n := by
  induction w generalizing depth with
  | nil =>
    have := Option.some.inj h
    omega
  | cons c w ih =>
    obtain ⟨hq, hb⟩ := hw c List.mem_cons_self
    rw [List.cons_append, closing?_cons]
    rcases advance_plain hq hb depth w with ⟨hstep, -, -⟩ | ⟨d, hstep, hlevel⟩
    · rw [hstep]
      exact ⟨0, by simp, rfl⟩
    · rw [hstep]
      obtain ⟨n, hn, hclose⟩ := ih (fun x hx => hw x (List.mem_cons_of_mem c hx)) (by rw [← hlevel]; exact h)
      exact ⟨n + 1, by simpa using hn, by simp only [hclose]; rfl⟩

/-- Where a call closes in pieces. -/
theorem closing?_fill {depth n : Nat} {quote : Option Char} {escaped : Bool} (hf : Framed F k ps)
    (hq : ∀ x ∈ quote, x ∈ F.marks) (he : escaped = true → k = false)
    (h : closing? depth quote escaped (fill b ps) = some n) :
    ∃ inner rest, ps = inner ++ rest ∧ n = (fill b inner).length ∧
      ∀ b', closing? depth quote escaped (fill b' ps) = some (fill b' inner).length := by
  induction ps generalizing k depth quote escaped n with
  | nil => cases h
  | cons p ps ih =>
    cases p with
    | char c =>
      have hps : Framed F (decide (c ∈ F.marks)) ps := hf
      have hcons : ∀ b', closing? depth quote escaped (fill b' (.char c :: ps)) = _ :=
        fun b' => closing?_cons depth quote escaped c (fill b' ps)
      rw [hcons] at h
      cases hstep : advance depth quote escaped c with
      | none =>
        rw [hstep] at h
        exact ⟨[], .char c :: ps, rfl, (Option.some.inj h).symm, fun b' => by rw [hcons, hstep]; rfl⟩
      | some x =>
        obtain ⟨d, q, e⟩ := x
        obtain ⟨hq', he'⟩ := advance_marked hq hstep
        rw [hstep] at h
        obtain ⟨m, hm, rfl⟩ := Option.map_eq_some_iff.mp h
        obtain ⟨inner, rest, rfl, rfl, hall⟩ := ih hps hq' (fun h => by
          rw [he' h]
          exact decide_eq_false fun hmark => (F.plain _ hmark).2.2 rfl) hm
        refine ⟨.char c :: inner, rest, rfl, by simp, fun b' => ?_⟩
        rw [hcons, hstep]
        simp only [hall b']
        rfl
    | hole old new =>
      have hover : ∀ b', closing? depth quote escaped (fill b' (.hole old new :: ps)) =
          (closing? depth quote escaped (fill b' ps)).map (· + ((Piece.hole old new).text b').length) := by
        intro b'
        have hcalm := hf.calm_text (b := b')
        obtain rfl : escaped = false := by
          cases escaped with
          | false => rfl
          | true => rw [he rfl] at hf; cases hf.1
        cases quote with
        | some q =>
          exact closing?_quoted
            (fun c hc => ⟨fun e => (hcalm.plain c hc).1 (e ▸ hq q rfl), (hcalm.plain c hc).2⟩) depth _
        | none =>
          refine closing?_level (fun c hc => ⟨?_, (hcalm.plain c hc).2⟩)
            (by simpa using level_add hcalm.level depth) _
          exact Bool.eq_false_iff.mpr fun hquote => (hcalm.plain c hc).1 (F.quotes c hquote)
      rw [hover] at h
      obtain ⟨m, hm, rfl⟩ := Option.map_eq_some_iff.mp h
      have hescaped : escaped = true → false = false := fun _ => rfl
      obtain ⟨inner, rest, rfl, rfl, hall⟩ := ih hf.2.2.2.2 hq hescaped hm
      refine ⟨.hole old new :: inner, rest, rfl, by simp [Nat.add_comm], fun b' => ?_⟩
      rw [hover, hall b']
      simp [Nat.add_comm]

/-! ## The arguments -/

theorem enclosedAt?_append (a rest : Text) : enclosedAt? (a ++ '(' :: rest) a.length =
    (closing? 0 none false rest).map fun n => ⟨rest.take n, a.length + 1 + n⟩ := by
  unfold enclosedAt?
  rw [List.drop_left]
  simp only
  cases closing? 0 none false rest <;> rfl

/-- The arguments of a call are the same pieces however holes are filled, and so are the literals in them. -/
theorem arguments_fill {pre : List Piece} (hf : Framed F k ps) {x : Span}
    (h : x ∈ argumentsAt (fill b (pre ++ .char '(' :: ps)) (fill b pre).length) :
    ∃ inner content post, ps = inner ++ content ++ post ∧ x.classes = fill b content ∧
      ∀ b', Text.isBlankOnly (fill b' content) = false →
        ∃ y ∈ argumentsAt (fill b' (pre ++ .char '(' :: ps)) (fill b' pre).length, y.classes = fill b' content ∧
          y.classStart = (fill b' (pre ++ .char '(' :: inner)).length := by
  have henclosed : ∀ b', enclosedAt? (fill b' (pre ++ .char '(' :: ps)) (fill b' pre).length =
      (closing? 0 none false (fill b' ps)).map fun n => ⟨(fill b' ps).take n, (fill b' pre).length + 1 + n⟩ := by
    intro b'
    rw [Piece.fill_append]
    exact enclosedAt?_append (fill b' pre) (fill b' ps)
  unfold argumentsAt at h
  rw [henclosed] at h
  cases hclose : closing? 0 none false (fill b ps) with
  | none => rw [hclose] at h; cases h
  | some n =>
    obtain ⟨arguments, rest, rfl, rfl, hall⟩ :=
      closing?_fill hf (fun x hx => by cases hx) (fun e => by cases e) hclose
    rw [hclose] at h
    simp only [Option.map_some, Piece.fill_append, List.take_left] at h
    obtain ⟨l, hl, rfl⟩ := List.mem_map.mp h
    obtain ⟨hl, -⟩ := List.mem_filter.mp hl
    obtain ⟨inner, content, post, rfl, hv, hliteral⟩ := Literal.all_fill hf.append_left hl
    refine ⟨inner, content, post ++ rest, by simp, hv, fun b' hblank => ?_⟩
    obtain ⟨l', hl', hv', hstart⟩ := hliteral b'
    refine ⟨⟨l'.full, l'.value, (fill b' pre).length + 1 + l'.start - 1, (fill b' pre).length + 1 + l'.start,
      (fill b' pre).length + 1 + l'.start + l'.value.length, .call⟩, ?_, hv', ?_⟩
    · unfold argumentsAt
      rw [henclosed, hall b']
      simp only [Option.map_some]
      refine List.mem_map.mpr ⟨l', List.mem_filter.mpr ⟨?_, by rw [hv', hblank]; rfl⟩, rfl⟩
      rwa [Piece.fill_append _ rest, List.take_left]
    · simp [hstart]; omega

/-- A call that begins in a calm text has no literals. -/
theorem arguments_calm {a u v rest : Text} (hw : F.Calm (u ++ '(' :: v)) :
    argumentsAt (a ++ u ++ '(' :: v ++ rest) (a ++ u).length = [] := by
  have hplain : ∀ c ∈ v, c ∉ F.marks ∧ c ≠ '\\' := fun c hc => hw.plain c (by simp [hc])
  have hquote : ∀ c ∈ v, Literal.isQuote c = false ∧ c ≠ '\\' := fun c hc =>
    ⟨Bool.eq_false_iff.mpr fun h => (hplain c hc).1 (F.quotes c h), (hplain c hc).2⟩
  have hlevel := hw.level
  rw [level_append] at hlevel
  obtain ⟨m, -, hlevel⟩ := Option.bind_eq_some_iff.mp hlevel
  have hlevel : level (0 + (m + 1)) v = some 0 := by
    rw [Nat.zero_add]
    simpa [level] using hlevel
  obtain ⟨n, hn, hclose⟩ := closing?_inside hquote hlevel (Nat.zero_le m) rest
  unfold argumentsAt
  rw [List.append_assoc, List.cons_append, enclosedAt?_append, hclose]
  simp only [Option.map_some, List.take_append_of_le_length (Nat.le_of_lt hn)]
  rw [Literal.all_plain F.quotes fun c hc => (hplain c (List.mem_of_mem_take hc)).1]
  rfl

/-- The class string of a call is the same pieces however holes are filled. -/
theorem calls_fill (hn : ∀ name ∈ names, ∀ c ∈ name, c ∉ F.marks) (hf : Framed F k ps) {x : Span}
    (h : x ∈ ofCalls (fill b ps) names) :
    ∃ pre content post, ps = pre ++ content ++ post ∧ x.classes = fill b content ∧
      ∀ b', Text.isBlankOnly (fill b' content) = false →
        ∃ y ∈ ofCalls (fill b' ps) names, y.classes = fill b' content ∧ y.classStart = (fill b' pre).length := by
  obtain ⟨i, hi, hx⟩ := List.mem_flatMap.mp h
  rw [callsFrom_eq_sweep] at hi
  obtain ⟨⟨j, n⟩, hcall, rfl⟩ := List.mem_map.mp hi
  cases found_of_sweep (call_steady hn) (call_contained hn) hf hcall with
  | outside pre c post k m hps hpost hj hhit hall =>
    obtain ⟨⟨s, rest, hrest, hmn⟩, hevery⟩ := call?_fill hn hpost hhit
    obtain ⟨rfl, rfl⟩ := Prod.mk.inj hmn
    obtain rfl : ps = pre ++ chars s ++ .char '(' :: rest := by rw [hps, hrest]; simp
    have hoffset : ∀ b', (fill b' (pre ++ chars s)).length = (fill b' pre).length + s.length := fun b' => by simp
    rw [hj, Nat.zero_add, ← hoffset] at hx
    obtain ⟨_, hframed⟩ := hf.append_right
    have hframed : Framed F (decide ('(' ∈ F.marks)) rest := hframed
    obtain ⟨inner, content, after, rfl, hclasses, hargs⟩ := arguments_fill hframed hx
    refine ⟨pre ++ chars s ++ .char '(' :: inner, content, after, by simp, hclasses, fun b' hblank => ?_⟩
    obtain ⟨y, hy, hyc, hys⟩ := hargs b' hblank
    refine ⟨y, List.mem_flatMap.mpr ⟨_, ?_, hy⟩, hyc, hys⟩
    rw [callsFrom_eq_sweep, hoffset]
    exact List.mem_map.mpr ⟨_, hall b' 0 _ _ (hevery b'), by simp⟩
  | inside pre old new post k u v m hps hpost huv hv hj hhit =>
    have hcalm := hpost.calm_text (b := b)
    have hplain : ∀ c ∈ v, c ∉ F.marks :=
      fun c hc => (hcalm.plain c (by rw [huv]; exact List.mem_append_right u hc)).1
    obtain ⟨a, z, rfl, hmn⟩ := call?_plain hn hplain hpost.fill_head hhit
    obtain ⟨rfl, rfl⟩ := Prod.mk.inj hmn
    rw [huv, ← List.append_assoc] at hcalm
    have htext : fill b ps = fill b pre ++ (u ++ a) ++ '(' :: z ++ fill b post := by rw [hps]; simp [huv]
    have hoffset : j + a.length = (fill b pre ++ (u ++ a)).length := by
      simp only [List.length_append]
      have : j = 0 + (fill b pre).length + u.length := hj
      omega
    rw [htext, hoffset, arguments_calm hcalm] at hx
    cases hx

end ClassTidy.Span
