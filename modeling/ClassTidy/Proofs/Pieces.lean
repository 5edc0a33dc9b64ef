/-
  ClassTidy.Proofs.Pieces — two texts that differ in some places, gone through together.

  A text before and after its edits is one list of pieces: characters, and holes with an
  old and a new filling. A hole stands between marks, the characters that rules and
  literals know the ends of a class string by, and its fillings are calm: they hold no
  mark and nothing else that could be taken for the beginning or the end of something.
  Then both texts are read in the same way. What is read across pieces is made of
  characters (`exists_chars`), and a sweep that is steady finds things at the same pieces
  in both (`found_of_sweep`).
-/
import Mathlib.Data.List.Chain
import ClassTidy.ClassList.Basic
import ClassTidy.Proofs.Fence

namespace ClassTidy

inductive Piece where
  | char (c : Char)
  /-- A place that holds one text before and another after. -/
  | hole (old new : Text)
  deriving DecidableEq, Repr

namespace Piece

/-- The text of a piece, before (`false`) or after (`true`). -/
def text (after : Bool) : Piece → Text
  | char c => [c]
  | hole old new => if after then new else old

/-- The text of pieces. -/
def fill (after : Bool) (ps : List Piece) : Text := ps.flatMap (text after)

/-- Pieces that are the characters of a text. -/
def chars (s : Text) : List Piece := s.map char

variable {b : Bool}

@[simp] theorem fill_nil : fill b [] = [] := rfl

@[simp] theorem fill_cons (p : Piece) (ps : List Piece) : fill b (p :: ps) = p.text b ++ fill b ps := rfl

@[simp] theorem fill_append (ps qs : List Piece) : fill b (ps ++ qs) = fill b ps ++ fill b qs := List.flatMap_append

@[simp] theorem text_char (c : Char) : (char c).text b = [c] := rfl

@[simp] theorem fill_chars (s : Text) : fill b (chars s) = s := by
  induction s with
  | nil => rfl
  | cons c s ih => exact congrArg (c :: ·) ih

end Piece

open Piece (fill chars)

/-! ## Marks -/

/-- Behind a mark there are only marks. -/
def Tight (marks : Text) (s : Text) : Prop := s.IsChain fun a b => a ∈ marks → b ∈ marks

theorem tight_of_plain {marks s : Text} (h : ∀ c ∈ s, c ∉ marks) : Tight marks s := by
  unfold Tight
  rw [List.isChain_iff_getElem]
  exact fun i hi hmark => absurd hmark (h _ (List.getElem_mem _))

theorem tight_append {marks a b : Text} (ha : ∀ c ∈ a, c ∉ marks) (hb : ∀ c ∈ b, c ∈ marks) :
    Tight marks (a ++ b) := by
  unfold Tight
  rw [List.isChain_append]
  refine ⟨tight_of_plain ha, ?_, fun x _ y hy _ => hb y (List.mem_of_head? hy)⟩
  rw [List.isChain_iff_getElem]
  exact fun i hi _ => hb _ (List.getElem_mem _)

/-- A fence whose opening and closing are told by marks. -/
structure Fence.Sound (marks : Text) (f : Fence) : Prop extends f.Exact where
  lead : ∀ c ∈ f.lead, c ∉ marks ∧ ClassList.isSeparator c = false
  leads : f.lead ≠ []
  gap : ∀ c, f.opening.gap c = true → c ∉ marks
  behind : ∀ p ∈ f.behind, ∀ c, p.accepts c = true → c ∉ marks ∧ ClassList.isSeparator c = false
  opener : ∀ p ∈ f.opener, ∀ c, p.accepts c = true → c ∈ marks
  opens : f.opener ≠ []
  content : ∀ c, c ∉ marks → f.content.accepts c = true
  tail : ∀ s, Text.Passes (Pattern.tests f.tail) s → Tight marks s
  /-- What comes behind the closing mark is no separator. -/
  stop : ∀ p ∈ f.tail.head?, ∀ c, ClassList.isSeparator c = true → p.accepts c = false

/-- The marks of a language, and the fences that its rules are. -/
structure Fencing where
  marks : Text
  fences : List Fence
  quotes : ∀ c, Literal.isQuote c = true → c ∈ marks
  plain : ∀ c ∈ marks, Text.isBlank c = false ∧ c ≠ '(' ∧ c ≠ '\\'
  sound : ∀ f ∈ fences, f.Sound marks

/-- How many parentheses are open behind a text, if none is closed that was not open. -/
def level (depth : Nat) : Text → Option Nat
  | [] => some depth
  | c :: t =>
    if c = '(' then level (depth + 1) t
    else if c = ')' then
      match depth with
      | 0 => none
      | d + 1 => level d t
    else level depth t

theorem level_cons (d : Nat) (c : Char) (t : Text) : level d (c :: t) =
    if c = '(' then level (d + 1) t
    else if c = ')' then
      match d with
      | 0 => none
      | d + 1 => level d t
    else level d t := by
  conv_lhs => unfold level

theorem level_append (d : Nat) (v w : Text) : level d (v ++ w) = (level d v).bind fun m => level m w := by
  induction v generalizing d with
  | nil => rfl
  | cons c v ih =>
    rw [List.cons_append, level_cons, level_cons]
    split
    · exact ih (d + 1)
    · split
      · cases d with
        | zero => rfl
        | succ d => exact ih d
      · exact ih d

/-- Parentheses that are open already stay open. -/
theorem level_add {d e : Nat} {w : Text} (h : level d w = some e) (n : Nat) : level (d + n) w = some (e + n) := by
  induction w generalizing d with
  | nil =>
    obtain rfl := Option.some.inj h
    rfl
  | cons c w ih =>
    rw [level_cons] at h ⊢
    split at h
    · rename_i hc
      rw [if_pos hc, show d + n + 1 = d + 1 + n by omega]
      exact ih h
    · rename_i hc
      rw [if_neg hc]
      split at h
      · rename_i hc'
        rw [if_pos hc']
        cases d with
        | zero => cases h
        | succ d =>
          rw [show d + 1 + n = d + n + 1 by omega]
          exact ih h
      · rename_i hc'
        rw [if_neg hc']
        exact ih h

/-- A text that can fill a hole. -/
structure Fencing.Calm (F : Fencing) (w : Text) : Prop where
  ne_nil : w ≠ []
  plain : ∀ c ∈ w, c ∉ F.marks ∧ c ≠ '\\'
  level : level 0 w = some 0
  lead : ∀ f ∈ F.fences, ¬ f.lead <:+: w
  start : ∀ f ∈ F.fences, ∀ p ∈ f.tail.head?, ∀ c ∈ w.head?, p.accepts c = false

/-- A part of a text stands between two marks. -/
structure Fencing.Between (F : Fencing) (t : Text) (start stop : Nat) : Prop where
  front : ∃ i, start = i + 1 ∧ ∃ c ∈ F.marks, t[i]? = some c
  back : ∃ c ∈ F.marks, t[stop]? = some c

/-- Holes stand between marks; `behind` says whether a mark stands in front. -/
def Framed (F : Fencing) : Bool → List Piece → Prop
  | _, [] => True
  | _, .char c :: ps => Framed F (decide (c ∈ F.marks)) ps
  | behind, .hole old new :: ps =>
    behind = true ∧ F.Calm old ∧ F.Calm new ∧
      (∀ p ∈ ps.head?, ∃ c ∈ F.marks, p = .char c) ∧ Framed F false ps

namespace Framed

variable {F : Fencing} {k b : Bool} {ps qs : List Piece} {old new : Text}

theorem append_left (h : Framed F k (ps ++ qs)) : Framed F k ps := by
  induction ps generalizing k with
  | nil => trivial
  | cons p ps ih =>
    cases p with
    | char c => exact ih h
    | hole old new =>
      obtain ⟨hk, hold, hnew, hhead, hrest⟩ := h
      have hhead : ∀ p ∈ (ps ++ qs).head?, ∃ c ∈ F.marks, p = .char c := hhead
      exact ⟨hk, hold, hnew, fun p hp => hhead p (by rw [List.head?_append, hp]; rfl), ih hrest⟩

theorem append_right (h : Framed F k (ps ++ qs)) : ∃ k', Framed F k' qs := by
  induction ps generalizing k with
  | nil => exact ⟨k, h⟩
  | cons p ps ih =>
    cases p with
    | char c => exact ih h
    | hole old new => exact ih h.2.2.2.2

theorem calm_text (h : Framed F k (.hole old new :: ps)) : F.Calm ((Piece.hole old new).text b) := by
  obtain ⟨-, hold, hnew, -⟩ := h
  cases b
  · exact hold
  · exact hnew

/-- No piece is empty. -/
theorem fill_ne_nil (h : Framed F k ps) (hps : ps ≠ []) : fill b ps ≠ [] := by
  cases ps with
  | nil => exact absurd rfl hps
  | cons p ps =>
    cases p with
    | char c => exact List.cons_ne_nil c _
    | hole old new => exact List.append_ne_nil_of_left_ne_nil h.calm_text.ne_nil _

/-- A hole is followed by a mark, or by nothing. -/
theorem fill_head (h : Framed F k (.hole old new :: ps)) : ∀ c ∈ (fill b ps).head?, c ∈ F.marks := by
  obtain ⟨-, -, -, hhead, -⟩ := h
  intro c hc
  cases ps with
  | nil => cases hc
  | cons p ps =>
    obtain ⟨d, hd, rfl⟩ := hhead p rfl
    obtain rfl : d = c := Option.some.inj hc
    exact hd

/-- A text that is no beginning of a hole stands in front of pieces as so many characters. -/
theorem exists_chars {s t : Text} (h : Framed F k ps) (hs : Tight F.marks s)
    (hstart : ∀ old new rest, ps = .hole old new :: rest → ∀ c ∈ s.head?, c ∈ F.marks)
    (ht : fill b ps = s ++ t) :
    ∃ rest, ps = chars s ++ rest ∧ fill b rest = t := by
  induction s generalizing k ps with
  | nil => exact ⟨ps, rfl, ht⟩
  | cons c s ih =>
    cases ps with
    | nil => cases ht
    | cons p ps =>
      cases p with
      | char d =>
        obtain ⟨rfl, hrest⟩ := List.cons.inj ht
        have hps : Framed F (decide (d ∈ F.marks)) ps := h
        -- if a hole follows, the character in front of it is a mark
        have hnext : ∀ old new rest, ps = .hole old new :: rest → ∀ c ∈ s.head?, c ∈ F.marks := by
          rintro old new rest rfl c hc
          obtain ⟨s, rfl⟩ := List.head?_eq_some_iff.mp hc
          exact (List.isChain_cons_cons.mp hs).1 (by simpa using hps.1)
        obtain ⟨rest, rfl, hback⟩ := ih hps (List.IsChain.of_cons hs) hnext hrest
        exact ⟨rest, rfl, hback⟩
      | hole old new =>
        have hcalm := h.calm_text (b := b)
        obtain ⟨d, w, hw⟩ := List.exists_cons_of_ne_nil hcalm.ne_nil
        rw [Piece.fill_cons, hw] at ht
        obtain ⟨rfl, -⟩ := List.cons.inj ht
        exact absurd (hstart old new ps rfl d rfl) (hcalm.plain d (by rw [hw]; exact List.mem_cons_self)).1

end Framed

/-! ## Sweeps over pieces -/

section

variable {α : Type} (F : Fencing) (hit? : Text → Option (Nat × α))

/-- What is found in front of a character takes the same pieces, however holes are filled. -/
def Steady : Prop := ∀ k c ps b x, Framed F k (.char c :: ps) → hit? (fill b (.char c :: ps)) = some x →
  ∃ used rest, .char c :: ps = used ++ rest ∧ used ≠ [] ∧
    ∀ b', ∃ a, hit? (fill b' (.char c :: ps)) = some ((fill b' used).length - 1, a)

/-- What is found inside a hole ends inside it. -/
def Contained : Prop :=
  ∀ k old new ps b, Framed F k (.hole old new :: ps) → ∀ u v, (Piece.hole old new).text b = u ++ v →
  v ≠ [] → ∀ n a, hit? (v ++ fill b ps) = some (n, a) → n < v.length

/-- What a sweep from offset `i` on found in pieces. -/
inductive Found (b : Bool) (ps : List Piece) (i : Nat) (x : Nat × α) : Prop
  /-- It begins with a character, and is found there however holes are filled. -/
  | outside (pre : List Piece) (c : Char) (post : List Piece) (k : Bool) (n : Nat) : ps = pre ++ .char c :: post →
      Framed F k (.char c :: post) → x.1 = i + (fill b pre).length →
        hit? (fill b (.char c :: post)) = some (n, x.2) →
      (∀ b' i' n' a, hit? (fill b' (.char c :: post)) = some (n', a) →
        (i' + (fill b' pre).length, a) ∈ Text.sweep hit? 0 i' (fill b' ps)) → Found b ps i x
  /-- It begins inside a hole. -/
  | inside (pre : List Piece) (old new : Text) (post : List Piece) (k : Bool) (u v : Text) (n : Nat) :
      ps = pre ++ .hole old new :: post → Framed F k (.hole old new :: post) →
        (Piece.hole old new).text b = u ++ v → v ≠ [] →
      x.1 = i + (fill b pre).length + u.length → hit? (v ++ fill b post) = some (n, x.2) → Found b ps i x

variable {F hit?} {k b : Bool} {ps : List Piece} {i : Nat} {x : Nat × α}

/-- What is found in the last pieces is found in all of them, if the sweep comes to these. -/
theorem Found.behind {used : List Piece} (h : Found F hit? b ps (i + (fill b used).length) x)
    (hsweep : ∀ b' i', ∀ y ∈ Text.sweep hit? 0 (i' + (fill b' used).length) (fill b' ps),
      y ∈ Text.sweep hit? 0 i' (fill b' (used ++ ps))) : Found F hit? b (used ++ ps) i x := by
  cases h with
  | outside pre c post k n hps hf hx hhit hall =>
    refine .outside (used ++ pre) c post k n (by rw [hps, List.append_assoc]) hf (by simp [hx]; omega) hhit ?_
    intro b' i' n' a ha
    have := hsweep b' i' _ (hall b' (i' + (fill b' used).length) n' a ha)
    rwa [show i' + (fill b' (used ++ pre)).length = i' + (fill b' used).length + (fill b' pre).length by simp; omega]
  | inside pre old new post k u v n hps hf huv hv hx hhit =>
    exact .inside (used ++ pre) old new post k u v n (by rw [hps, List.append_assoc]) hf huv hv
      (by simp [hx]; omega) hhit

/-- A sweep over a hole goes on behind it. -/
theorem Contained.sweep_hole (h : Contained F hit?) {old new : Text} (hf : Framed F k (.hole old new :: ps))
    (b : Bool) (i : Nat) :
    ∃ inner, Text.sweep hit? 0 i (fill b (.hole old new :: ps)) =
      inner ++ Text.sweep hit? 0 (i + (fill b [.hole old new]).length) (fill b ps) ∧
      ∀ y ∈ inner, ∃ u v n, (Piece.hole old new).text b = u ++ v ∧ v ≠ [] ∧ y.1 = i + u.length ∧
        hit? (v ++ fill b ps) = some (n, y.2) := by
  rw [show fill b [.hole old new] = (Piece.hole old new).text b from List.append_nil _]
  exact Text.sweep_over (fun u v huv hv n y => h k old new ps b hf u v huv hv n y) (Nat.zero_le _) i

/-- Where nothing is found with one filling, nothing is found with the other. -/
theorem Steady.sweep_miss (h : Steady F hit?) {c : Char} (hf : Framed F k (.char c :: ps))
    (hnone : hit? (fill b (.char c :: ps)) = none) (b' : Bool) (i : Nat) :
    Text.sweep hit? 0 i (fill b' (.char c :: ps)) = Text.sweep hit? 0 (i + 1) (fill b' ps) := by
  refine Text.sweep_miss (?_ : hit? (c :: fill b' ps) = none) i
  cases hb : hit? (c :: fill b' ps) with
  | none => rfl
  | some y =>
    obtain ⟨used, rest, -, -, hall⟩ := h k c ps b' y hf hb
    obtain ⟨a, ha⟩ := hall b
    rw [hnone] at ha; cases ha

/-- A sweep goes on behind the pieces that were used. -/
theorem sweep_used {c : Char} {used rest : List Piece} {a : α} (hused : .char c :: ps = used ++ rest)
    (hne : used ≠ []) (hhit : hit? (fill b (.char c :: ps)) = some ((fill b used).length - 1, a)) (i : Nat) :
    Text.sweep hit? 0 i (fill b (.char c :: ps)) =
      (i, a) :: Text.sweep hit? 0 (i + (fill b used).length) (fill b rest) := by
  have hfill : c :: fill b ps = fill b used ++ fill b rest := by
    rw [← Piece.fill_append, ← hused]; rfl
  obtain ⟨m, hm⟩ : ∃ m, (fill b used).length = m + 1 := by
    obtain ⟨q, qs, rfl⟩ := List.exists_cons_of_ne_nil hne
    obtain ⟨rfl, -⟩ := List.cons.inj hused
    exact ⟨(fill b qs).length, by simp⟩
  have hdrop : (fill b ps).drop m = fill b rest := by
    have hboth := congrArg (List.drop (fill b used).length) hfill
    rwa [List.drop_left, hm, List.drop_succ_cons] at hboth
  rw [hm, Nat.add_sub_cancel] at hhit
  have hsweep := Text.sweep_hit (show hit? (c :: fill b ps) = some (m, a) from hhit) i
  rw [hdrop] at hsweep
  rw [hm, show i + (m + 1) = i + 1 + m by omega]
  exact hsweep

theorem found_of_sweep (hsteady : Steady F hit?) (hcontained : Contained F hit?) (hf : Framed F k ps)
    (h : x ∈ Text.sweep hit? 0 i (fill b ps)) : Found F hit? b ps i x := by
  -- a thing found takes several pieces at once, so the induction is on how many there are
  induction hn : ps.length using Nat.strong_induction_on generalizing ps k i with
  | _ n ih =>
  subst hn
  cases ps with
  | nil => cases h
  | cons p ps =>
    cases p with
    | hole old new =>
      obtain ⟨inner, hsweep, hinner⟩ := hcontained.sweep_hole hf b i
      rw [hsweep, List.mem_append] at h
      rcases h with h | h
      · obtain ⟨u, v, n, huv, hv, hx, hhit⟩ := hinner x h
        exact .inside [] old new ps k u v n rfl hf huv hv hx hhit
      · have hrest : Found F hit? b ps (i + (fill b [.hole old new]).length) x :=
          ih ps.length (by simp) hf.2.2.2.2 h rfl
        refine hrest.behind fun b' i' y hy => ?_
        obtain ⟨inner', hsweep', -⟩ := hcontained.sweep_hole hf b' i'
        rw [List.singleton_append, hsweep']
        exact List.mem_append_right _ hy
    | char c =>
      cases hhit : hit? (fill b (.char c :: ps)) with
      | none =>
        have hps : Framed F (decide (c ∈ F.marks)) ps := hf
        rw [hsteady.sweep_miss hf hhit] at h
        have hrest : Found F hit? b ps (i + (fill b [.char c]).length) x := ih ps.length (by simp) hps h rfl
        refine hrest.behind fun b' i' y hy => ?_
        rw [List.singleton_append, hsteady.sweep_miss hf hhit]
        exact hy
      | some y =>
        obtain ⟨used, rest, hused, hne, hall⟩ := hsteady k c ps b y hf hhit
        obtain ⟨a, ha⟩ := hall b
        rw [sweep_used hused hne ha] at h
        rcases List.mem_cons.mp h with rfl | h
        · refine .outside [] c ps k _ rfl hf rfl ha fun b' i' n' a' ha' => ?_
          obtain ⟨a'', ha''⟩ := hall b'
          rw [sweep_used hused hne ha'', show a'' = a' by rw [ha''] at ha'; exact (Prod.mk.inj (Option.some.inj ha')).2]
          exact List.mem_cons_self
        · have hlt : rest.length < (.char c :: ps : List Piece).length := by
            rw [hused, List.length_append]
            have := List.length_pos_iff.mpr hne
            omega
          obtain ⟨k', hf'⟩ := (show Framed F k (used ++ rest) from hused ▸ hf).append_right
          rw [hused]
          refine (ih rest.length hlt hf' h rfl).behind fun b' i' y hy => ?_
          obtain ⟨a', ha'⟩ := hall b'
          rw [← hused, sweep_used hused hne ha']
          exact List.mem_cons_of_mem _ hy

end

end ClassTidy
