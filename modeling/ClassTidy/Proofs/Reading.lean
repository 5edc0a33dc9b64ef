/-
  ClassTidy.Proofs.Reading — which texts are read as which values.

  A `Source` is a value as a text writes it: numbers by their digits, and objects with every
  field that is written, names that occur twice included. `Spelled` says which texts write a
  source, by the rules of the format alone; blanks may stand around the parts of arrays and
  objects, and around the whole (`Written`). A source stands for a value (`Source.value?`): of
  fields with one name the last stays, in the place of the first. It stands for none only if a
  number in it does.

  The reader goes down into a text with a bound on nesting and one on calls. What it reads is
  spelled there (`Sound`), and what is spelled is read if the bounds allow (`Reads`); both go by
  one call of the reader at a time, so the induction is on the bound of calls. Twice the length
  of a text is enough of that: of two calls inside each other one takes a character.

  Proved (`read?_eq_some`): a text is read as a value exactly if it writes a source that stands for
  it and does not nest too deep.
-/
import ClassTidy.Proofs.Fields
import ClassTidy.Proofs.Spelling

namespace ClassTidy.Json

/-! ## Sources -/

/-- A value as it is written: numbers by their digits, objects with every field that is written. -/
inductive Source where
  | null
  | bool (b : Bool)
  | number (n : Numeral)
  | str (t : Text)
  | arr (items : List Source)
  | obj (fields : List (Text × Source))

/-- Blanks between the parts of a text. -/
def Spaces (g : Text) : Prop := ∀ c ∈ g, isSpace c = true

mutual

/-- The texts that write a source. -/
inductive Spelled : Source → Text → Prop
  | null : Spelled .null "null".toList
  | yes : Spelled (.bool true) "true".toList
  | no : Spelled (.bool false) "false".toList
  | number {n : Numeral} {u : Text} (h : n.Spelled u) : Spelled (.number n) u
  | str {s u : Text} (h : TextSpelled s u) : Spelled (.str s) ('"' :: (u ++ ['"']))
  | noItems {g : Text} (blank : Spaces g) : Spelled (.arr []) ('[' :: (g ++ [']']))
  | items {ss : List Source} {g u : Text} (blank : Spaces g) (h : ItemsSpelled ss u) :
      Spelled (.arr ss) ('[' :: (g ++ (u ++ [']'])))
  | noFields {g : Text} (blank : Spaces g) : Spelled (.obj []) ('\x7b' :: (g ++ ['\x7d']))
  | fields {fs : List (Text × Source)} {g u : Text} (blank : Spaces g) (h : FieldsSpelled fs u) :
      Spelled (.obj fs) ('\x7b' :: (g ++ (u ++ ['\x7d'])))

/-- Items with commas between them, and the blanks behind the last. -/
inductive ItemsSpelled : List Source → Text → Prop
  | last {s : Source} {u g : Text} (item : Spelled s u) (blank : Spaces g) : ItemsSpelled [s] (u ++ g)
  | more {s : Source} {ss : List Source} {u g g' w : Text} (item : Spelled s u) (before : Spaces g) (behind : Spaces g')
      (rest : ItemsSpelled ss w) : ItemsSpelled (s :: ss) (u ++ (g ++ ',' :: (g' ++ w)))

/-- A name, a colon and a value. -/
inductive FieldSpelled : Text → Source → Text → Prop
  | mk {k : Text} {s : Source} {u g g' w : Text} (name : TextSpelled k u) (before : Spaces g) (behind : Spaces g')
      (value : Spelled s w) : FieldSpelled k s ('"' :: (u ++ '"' :: (g ++ ':' :: (g' ++ w))))

/-- Fields with commas between them, and the blanks behind the last. -/
inductive FieldsSpelled : List (Text × Source) → Text → Prop
  | last {k : Text} {s : Source} {u g : Text} (field : FieldSpelled k s u) (blank : Spaces g) :
      FieldsSpelled [(k, s)] (u ++ g)
  | more {k : Text} {s : Source} {fs : List (Text × Source)} {u g g' w : Text} (field : FieldSpelled k s u)
      (before : Spaces g) (behind : Spaces g') (rest : FieldsSpelled fs w) :
      FieldsSpelled ((k, s) :: fs) (u ++ (g ++ ',' :: (g' ++ w)))

end

/-- A text that writes a source and has nothing but blanks around it. -/
def Written (s : Source) (t : Text) : Prop := ∃ g u g', t = g ++ (u ++ g') ∧ Spaces g ∧ Spelled s u ∧ Spaces g'

mutual

/-- How many arrays and objects stand inside each other. -/
def Source.depth : Source → Nat
  | .arr items => itemsDepth items + 1
  | .obj fields => fieldsDepth fields + 1
  | .null => 0
  | .bool _ => 0
  | .number _ => 0
  | .str _ => 0

def itemsDepth : List Source → Nat
  | [] => 0
  | s :: ss => max s.depth (itemsDepth ss)

def fieldsDepth : List (Text × Source) → Nat
  | [] => 0
  | (_, s) :: fs => max s.depth (fieldsDepth fs)

end

mutual

/-- The value that a source stands for. -/
def Source.value? (l : Limits) : Source → Option Json
  | .null => some .null
  | .bool b => some (.bool b)
  | .number n => n.value? l
  | .str t => some (.str t)
  | .arr items => (itemValues? l items).map .arr
  | .obj fields => (fieldValues? l fields).map fun vs => .obj (putAll [] vs)

def itemValues? (l : Limits) : List Source → Option (List Json)
  | [] => some []
  | s :: ss => (s.value? l).bind fun v => (itemValues? l ss).map (v :: ·)

def fieldValues? (l : Limits) : List (Text × Source) → Option Fields
  | [] => some []
  | (k, s) :: fs => (s.value? l).bind fun v => (fieldValues? l fs).map ((k, v) :: ·)

end

/-! ## Blanks and first characters -/

theorem spaces_skip (t : Text) : ∃ g, t = g ++ skipSpace t ∧ Spaces g :=
  ⟨t.takeWhile isSpace, List.takeWhile_append_dropWhile.symm, fun _ hc => List.mem_takeWhile_imp hc⟩

theorem skipSpace_spaces {g t : Text} (hg : Spaces g) (ht : ∀ c ∈ t.head?, isSpace c = false) :
    skipSpace (g ++ t) = t := by
  rw [skipSpace, List.dropWhile_append_of_pos hg]
  cases t with
  | nil => rfl
  | cons c t => simp [ht c rfl]

theorem skipSpace_cons {g t : Text} {c : Char} (hg : Spaces g) (hc : isSpace c = false) :
    skipSpace (g ++ c :: t) = c :: t := by
  refine skipSpace_spaces hg fun d hd => ?_
  obtain rfl : c = d := Option.some.inj hd
  exact hc

/-- A number does not go on behind blanks, nor where a list goes on or ends. -/
theorem ends_spaces {g t : Text} (hg : Spaces g) (ht : Ends t) : Ends (g ++ t) := by
  cases g with
  | nil => exact ht
  | cons c g =>
    intro d hd
    obtain rfl : c = d := Option.some.inj hd
    have hc := hg c List.mem_cons_self
    simp only [isSpace, Bool.or_eq_true, beq_iff_eq] at hc
    rcases hc with ((rfl | rfl) | rfl) | rfl <;> decide

theorem ends_nil : Ends [] := nofun

theorem ends_cons {c : Char} (h : Text.isDigit c = false ∧ c ≠ '.' ∧ c ≠ 'e' ∧ c ≠ 'E') (t : Text) :
    Ends (c :: t) := by
  intro d hd
  obtain rfl : c = d := Option.some.inj hd
  exact h

theorem ne_of_isDigit {c d : Char} (h : Text.isDigit c = true) (hd : Text.isDigit d = false) : c ≠ d := by
  rintro rfl
  exact absurd (h.symm.trans hd) (by decide)

theorem Numeral.Unsigned.head {n : Numeral} {u : Text} (h : n.Unsigned u) :
    ∃ c w, u = c :: w ∧ Text.isDigit c = true := by
  obtain ⟨f, e, rfl, -⟩ := h.parts
  obtain ⟨c, w, hw, hc⟩ := h.digits.head
  exact ⟨c, w ++ (f ++ e), by rw [hw, List.cons_append], hc⟩

/-- What writes a source starts with neither a blank nor a closing bracket. -/
theorem Spelled.head {s : Source} {u : Text} (h : Spelled s u) :
    ∃ c w, u = c :: w ∧ isSpace c = false ∧ c ≠ ']' := by
  have digit : ∀ c, Text.isDigit c = true → isSpace c = false ∧ c ≠ ']' := by
    intro c hc
    refine ⟨?_, ne_of_isDigit hc (by decide)⟩
    simp only [isSpace, Bool.or_eq_false_iff, beq_eq_false_iff_ne]
    exact ⟨⟨⟨ne_of_isDigit hc (by decide), ne_of_isDigit hc (by decide)⟩, ne_of_isDigit hc (by decide)⟩,
      ne_of_isDigit hc (by decide)⟩
  cases h with
  | number h =>
    obtain ⟨w, hw, rfl⟩ := h
    split
    · exact ⟨_, _, rfl, by decide⟩
    · obtain ⟨c, w, rfl, hc⟩ := hw.head
      exact ⟨c, w, rfl, digit c hc⟩
  | _ => exact ⟨_, _, rfl, by decide⟩

theorem Spelled.length_pos {s : Source} {u : Text} (h : Spelled s u) : 0 < u.length := by
  obtain ⟨c, w, rfl, -⟩ := h.head
  simp

/-- Behind blanks, the text of a source is found. -/
theorem Spelled.skipSpace {s : Source} {u g : Text} (h : Spelled s u) (hg : Spaces g) (rest : Text) :
    skipSpace (g ++ (u ++ rest)) = u ++ rest := by
  obtain ⟨c, w, rfl, hc, -⟩ := h.head
  exact skipSpace_cons hg hc

theorem ItemsSpelled.head {ss : List Source} {u : Text} (h : ItemsSpelled ss u) :
    ∃ c w, u = c :: w ∧ isSpace c = false ∧ c ≠ ']' := by
  cases h with
  | last item _ | more item _ _ _ =>
    obtain ⟨c, w, rfl, hc⟩ := item.head
    exact ⟨c, _, rfl, hc⟩

theorem FieldSpelled.head {k : Text} {s : Source} {u : Text} (h : FieldSpelled k s u) : ∃ w, u = '"' :: w := by
  obtain ⟨⟩ := h
  exact ⟨_, rfl⟩

theorem FieldsSpelled.head {fs : List (Text × Source)} {u : Text} (h : FieldsSpelled fs u) : ∃ w, u = '"' :: w := by
  cases h with
  | last field _ | more field _ _ _ =>
    obtain ⟨w, rfl⟩ := field.head
    exact ⟨_, rfl⟩

/-! ## One call of the reader -/

section Calls

variable (l : Limits) (fuel depth : Nat)

theorem word_eq_some {w : String} {v v' : Json} {t rest : Text} :
    word w v t = some (v', rest) ↔ v' = v ∧ t = w.toList ++ rest := by
  unfold word
  constructor
  · intro h
    split at h
    · rename_i hprefix
      obtain ⟨rest', rfl⟩ := List.isPrefixOf_iff_prefix.mp hprefix
      obtain ⟨rfl, rfl⟩ := Prod.mk.inj (Option.some.inj h)
      rw [← String.length_toList, List.drop_left]
      exact ⟨rfl, rfl⟩
    · cases h
  · rintro ⟨rfl, rfl⟩
    rw [if_pos (List.isPrefixOf_iff_prefix.mpr (List.prefix_append _ _)), ← String.length_toList, List.drop_left]

theorem value_null (t : Text) : value l (fuel + 1) depth ('n' :: t) = word "null" .null ('n' :: t) := by simp [value]

theorem value_true (t : Text) :
    value l (fuel + 1) depth ('t' :: t) = word "true" (.bool true) ('t' :: t) := by simp [value]

theorem value_false (t : Text) :
    value l (fuel + 1) depth ('f' :: t) = word "false" (.bool false) ('f' :: t) := by simp [value]

theorem value_string (t : Text) :
    value l (fuel + 1) depth ('"' :: t) = (stringTail (t.length + 1) t).map fun r => (.str r.1, r.2) := by
  unfold value
  rw [if_pos rfl]
  cases stringTail (t.length + 1) t <;> rfl

theorem value_noItems {t rest : Text} (h : skipSpace t = ']' :: rest) :
    value l (fuel + 1) (depth + 1) ('[' :: t) = some (.arr [], rest) := by
  simp [value, h]

theorem value_items {t : Text} (h : ∀ rest, skipSpace t ≠ ']' :: rest) :
    value l (fuel + 1) (depth + 1) ('[' :: t) = (elements l fuel depth (skipSpace t)).map fun r => (.arr r.1, r.2) := by
  unfold value
  rw [if_neg (by decide), if_pos rfl]
  simp only
  cases elements l fuel depth (skipSpace t) <;> rfl

theorem value_noFields {t rest : Text} (h : skipSpace t = '\x7d' :: rest) :
    value l (fuel + 1) (depth + 1) ('\x7b' :: t) = some (.obj [], rest) := by
  simp [value, h]

theorem value_fields {t : Text} (h : ∀ rest, skipSpace t ≠ '\x7d' :: rest) :
    value l (fuel + 1) (depth + 1) ('\x7b' :: t) =
      (members l fuel depth [] (skipSpace t)).map fun r => (.obj r.1, r.2) := by
  unfold value
  rw [if_neg (by decide), if_neg (by decide), if_pos rfl]
  simp only
  cases members l fuel depth [] (skipSpace t) <;> rfl

theorem value_minus (t : Text) : value l (fuel + 1) depth ('-' :: t) = number l true t := by
  unfold value
  rw [if_neg (by decide), if_neg (by decide), if_neg (by decide), if_pos rfl]

theorem value_digit {c : Char} (hc : Text.isDigit c = true) (t : Text) :
    value l (fuel + 1) depth (c :: t) = number l false (c :: t) := by
  have hne : ∀ d : Char, Text.isDigit d = false → c ≠ d := fun d => ne_of_isDigit hc
  unfold value
  rw [if_neg (hne _ (by decide)), if_neg (hne _ (by decide)), if_neg (hne _ (by decide)), if_neg (hne _ (by decide)),
    if_neg (hne _ (by decide)), if_neg (hne _ (by decide)), if_neg (hne _ (by decide))]

end Calls

/-! ## What is spelled is read -/

/-- With a bound on calls, all that is spelled is read, if it is short enough. -/
structure Reads (l : Limits) (fuel : Nat) : Prop where
  value : ∀ {s : Source} {u : Text}, Spelled s u → ∀ {v : Json}, s.value? l = some v →
    ∀ {depth : Nat}, s.depth ≤ depth →
    2 * u.length ≤ fuel → ∀ {rest : Text}, Ends rest → value l fuel depth (u ++ rest) = some (v, rest)
  items : ∀ {ss : List Source} {u : Text}, ItemsSpelled ss u → ∀ {vs : List Json}, itemValues? l ss = some vs →
    ∀ {depth : Nat}, itemsDepth ss ≤ depth → 2 * u.length < fuel →
    ∀ (rest : Text), elements l fuel depth (u ++ ']' :: rest) = some (vs, rest)
  fields : ∀ {fs : List (Text × Source)} {u : Text}, FieldsSpelled fs u →
    ∀ {vs : Fields}, fieldValues? l fs = some vs →
    ∀ {depth : Nat}, fieldsDepth fs ≤ depth → 2 * u.length < fuel →
    ∀ (before : Fields) (rest : Text), members l fuel depth before (u ++ '\x7d' :: rest) =
      some (putAll before vs, rest)

section Reads

variable {l : Limits} {fuel : Nat}

theorem Reads.value_succ (h : Reads l fuel) {s : Source} {u : Text} (hs : Spelled s u) {v : Json}
    (hv : s.value? l = some v) {depth : Nat} (hd : s.depth ≤ depth) (hf : 2 * u.length ≤ fuel + 1) {rest : Text}
    (hr : Ends rest) :
    Json.value l (fuel + 1) depth (u ++ rest) = some (v, rest) := by
  cases hs with
  | null =>
    obtain rfl := Option.some.inj hv
    exact (value_null l fuel depth _).trans (word_eq_some.mpr ⟨rfl, rfl⟩)
  | yes =>
    obtain rfl := Option.some.inj hv
    exact (value_true l fuel depth _).trans (word_eq_some.mpr ⟨rfl, rfl⟩)
  | no =>
    obtain rfl := Option.some.inj hv
    exact (value_false l fuel depth _).trans (word_eq_some.mpr ⟨rfl, rfl⟩)
  | @number n u h =>
    obtain ⟨w, hw, rfl⟩ := h
    rw [Source.value?] at hv
    have hread := number_spelled l hw hr
    rw [hv] at hread
    cases hneg : n.negative with
    | true =>
      rw [hneg] at hread
      simp only [if_true, List.cons_append]
      rw [value_minus, hread]
      rfl
    | false =>
      rw [hneg] at hread
      simp only [Bool.false_eq_true, if_false]
      obtain ⟨c, w, rfl, hc⟩ := hw.head
      rw [List.cons_append] at hread ⊢
      rw [value_digit l fuel depth hc, hread]
      rfl
  | @str s u h =>
    obtain rfl := Option.some.inj hv
    have hlen : u.length < (u ++ '"' :: rest).length + 1 := by
      rw [List.length_append]
      omega
    have hread := h.read hlen rest
    rw [List.cons_append, List.append_assoc, List.singleton_append, value_string, hread]
    rfl
  | @noItems g blank =>
    obtain rfl := Option.some.inj hv
    obtain ⟨depth, rfl⟩ := Nat.exists_eq_succ_of_ne_zero (by rw [Source.depth] at hd; omega : depth ≠ 0)
    rw [List.cons_append, List.append_assoc, List.singleton_append]
    exact value_noItems l fuel depth (skipSpace_cons blank (by decide))
  | @items ss g u blank hitems =>
    obtain ⟨vs, hvs, rfl⟩ := Option.map_eq_some_iff.mp hv
    rw [Source.depth] at hd
    obtain ⟨depth, rfl⟩ := Nat.exists_eq_succ_of_ne_zero (by omega : depth ≠ 0)
    obtain ⟨c, w, hcw, hspace, hclose⟩ := hitems.head
    have hskip : skipSpace (g ++ (u ++ ']' :: rest)) = u ++ ']' :: rest := by
      rw [hcw, List.cons_append]
      exact skipSpace_cons blank hspace
    have hopen : ∀ r, skipSpace (g ++ (u ++ ']' :: rest)) ≠ ']' :: r := by
      intro r hr
      rw [hskip, hcw] at hr
      exact hclose (List.cons.inj hr).1
    simp only [List.length_cons, List.length_append, List.length_nil] at hf
    rw [List.cons_append, List.append_assoc, List.append_assoc, List.singleton_append,
      value_items l fuel depth hopen, hskip,
      h.items hitems hvs (by omega) (by omega) rest]
    rfl
  | @noFields g blank =>
    obtain rfl := Option.some.inj hv
    obtain ⟨depth, rfl⟩ := Nat.exists_eq_succ_of_ne_zero (by rw [Source.depth] at hd; omega : depth ≠ 0)
    rw [List.cons_append, List.append_assoc, List.singleton_append]
    exact value_noFields l fuel depth (skipSpace_cons blank (by decide))
  | @fields fs g u blank hfields =>
    obtain ⟨vs, hvs, rfl⟩ := Option.map_eq_some_iff.mp hv
    rw [Source.depth] at hd
    obtain ⟨depth, rfl⟩ := Nat.exists_eq_succ_of_ne_zero (by omega : depth ≠ 0)
    obtain ⟨w, hw⟩ := hfields.head
    have hskip : skipSpace (g ++ (u ++ '\x7d' :: rest)) = u ++ '\x7d' :: rest := by
      rw [hw, List.cons_append]
      exact skipSpace_cons blank (by decide)
    have hopen : ∀ r, skipSpace (g ++ (u ++ '\x7d' :: rest)) ≠ '\x7d' :: r := by
      intro r hr
      rw [hskip, hw] at hr
      exact absurd (List.cons.inj hr).1 (by decide)
    simp only [List.length_cons, List.length_append, List.length_nil] at hf
    rw [List.cons_append, List.append_assoc, List.append_assoc, List.singleton_append,
      value_fields l fuel depth hopen, hskip,
      h.fields hfields hvs (by omega) (by omega) [] rest]
    rfl

theorem Reads.items_succ (h : Reads l fuel) {ss : List Source} {u : Text} (hs : ItemsSpelled ss u) {vs : List Json}
    (hv : itemValues? l ss = some vs) {depth : Nat} (hd : itemsDepth ss ≤ depth) (hf : 2 * u.length < fuel + 1)
    (rest : Text) :
    elements l (fuel + 1) depth (u ++ ']' :: rest) = some (vs, rest) := by
  cases hs with
  | @last s u g item blank =>
    simp only [itemValues?, Option.bind_eq_some_iff, Option.map_some, Option.some.injEq] at hv
    obtain ⟨v, hv, rfl⟩ := hv
    simp only [itemsDepth, Nat.max_le] at hd
    simp only [List.length_append] at hf
    rw [List.append_assoc, elements, h.value item hv hd.1 (by omega) (ends_spaces blank (ends_cons (by decide) rest))]
    simp only [Option.bind_eq_bind, Option.bind_some, skipSpace_cons blank (by decide : isSpace ']' = false)]
    rfl
  | @more s ss u g g' w item before behind hrest =>
    simp only [itemValues?, Option.bind_eq_some_iff, Option.map_eq_some_iff] at hv
    obtain ⟨v, hv, vs, hvs, rfl⟩ := hv
    simp only [itemsDepth, Nat.max_le] at hd
    simp only [List.length_append, List.length_cons] at hf
    have hskip : skipSpace (g' ++ (w ++ ']' :: rest)) = w ++ ']' :: rest := by
      obtain ⟨c, w, rfl, hspace, -⟩ := hrest.head
      exact skipSpace_cons behind hspace
    simp only [List.append_assoc, List.cons_append]
    rw [elements, h.value item hv hd.1 (by omega) (ends_spaces before (ends_cons (by decide) _))]
    simp only [Option.bind_eq_bind, Option.bind_some, skipSpace_cons before (by decide : isSpace ',' = false), hskip,
      h.items hrest hvs hd.2 (by omega) rest]
    rfl

/-- A field is read and set, and what follows its value decides how to go on. -/
theorem Reads.field (h : Reads l fuel) {k : Text} {s : Source} {u : Text} (hs : FieldSpelled k s u) {v : Json}
    (hv : s.value? l = some v) {depth : Nat} (hd : s.depth ≤ depth) (hf : 2 * u.length ≤ fuel) {g : Text}
    (hg : Spaces g) {c : Char} (hspace : isSpace c = false)
    (hend : Text.isDigit c = false ∧ c ≠ '.' ∧ c ≠ 'e' ∧ c ≠ 'E') (before : Fields) (rest : Text) :
    members l (fuel + 1) depth before (u ++ (g ++ c :: rest)) =
      match c :: rest with
      | ',' :: t => members l fuel depth (put before k v) (skipSpace t)
      | '\x7d' :: t => some (put before k v, t)
      | _ => none := by
  obtain ⟨name, hcolon, behind, hvalue⟩ := hs
  rename_i u g1 g2 w
  simp only [List.length_append, List.length_cons] at hf
  have hname : ∀ rest', stringTail ((u ++ '"' :: rest').length + 1) (u ++ '"' :: rest') = some (k, rest') :=
    fun rest' => name.read (by simp only [List.length_append]; omega) rest'
  simp only [List.cons_append, List.append_assoc]
  rw [members]
  simp only [hname, Option.bind_eq_bind, Option.bind_some, skipSpace_cons hcolon (by decide : isSpace ':' = false),
    hvalue.skipSpace behind, h.value hvalue hv hd (by omega) (ends_spaces hg (ends_cons hend rest)),
      skipSpace_cons hg hspace]
  rfl

theorem Reads.fields_succ (h : Reads l fuel) {fs : List (Text × Source)} {u : Text} (hs : FieldsSpelled fs u)
    {vs : Fields} (hv : fieldValues? l fs = some vs) {depth : Nat} (hd : fieldsDepth fs ≤ depth)
    (hf : 2 * u.length < fuel + 1) (before : Fields) (rest : Text) :
    members l (fuel + 1) depth before (u ++ '\x7d' :: rest) = some (putAll before vs, rest) := by
  cases hs with
  | @last k s u g field blank =>
    simp only [fieldValues?, Option.bind_eq_some_iff, Option.map_some, Option.some.injEq] at hv
    obtain ⟨v, hv, rfl⟩ := hv
    simp only [fieldsDepth, Nat.max_le] at hd
    simp only [List.length_append] at hf
    rw [List.append_assoc, h.field field hv hd.1 (by omega) blank (by decide) (by decide)]
    rfl
  | @more k s fs u g g' w field hbefore behind hrest =>
    simp only [fieldValues?, Option.bind_eq_some_iff, Option.map_eq_some_iff] at hv
    obtain ⟨v, hv, vs, hvs, rfl⟩ := hv
    simp only [fieldsDepth, Nat.max_le] at hd
    simp only [List.length_append, List.length_cons] at hf
    have hskip : skipSpace (g' ++ (w ++ '\x7d' :: rest)) = w ++ '\x7d' :: rest := by
      obtain ⟨w, rfl⟩ := hrest.head
      exact skipSpace_cons behind (by decide)
    simp only [List.append_assoc, List.cons_append]
    rw [h.field field hv hd.1 (by omega) hbefore (by decide) (by decide)]
    simp only [hskip, h.fields hrest hvs hd.2 (by omega)]
    rfl

end Reads

theorem reads (l : Limits) (fuel : Nat) : Reads l fuel := by
  induction fuel with
  | zero =>
    refine ⟨fun hs _ _ _ _ hf => ?_, fun _ _ _ _ _ hf => absurd hf (by omega),
      fun _ _ _ _ _ hf => absurd hf (by omega)⟩
    have := hs.length_pos
    omega
  | succ fuel ih => exact ⟨ih.value_succ, ih.items_succ, ih.fields_succ⟩

/-! ## What is read is spelled -/

/-- With a bound on calls, all that is read is spelled where it is read. -/
structure Sound (l : Limits) (fuel : Nat) : Prop where
  value : ∀ {depth : Nat} {t rest : Text} {v : Json}, value l fuel depth t = some (v, rest) →
    ∃ s u, t = u ++ rest ∧ Spelled s u ∧ s.depth ≤ depth ∧ s.value? l = some v
  items : ∀ {depth : Nat} {t rest : Text} {vs : List Json}, elements l fuel depth t = some (vs, rest) →
    ∃ ss u, t = u ++ ']' :: rest ∧ ItemsSpelled ss u ∧ itemsDepth ss ≤ depth ∧ itemValues? l ss = some vs
  fields : ∀ {depth : Nat} {before fields : Fields} {t rest : Text}, members l fuel depth before t =
    some (fields, rest) →
    ∃ fs u vs, t = u ++ '\x7d' :: rest ∧ FieldsSpelled fs u ∧ fieldsDepth fs ≤ depth ∧
      fieldValues? l fs = some vs ∧
      fields = putAll before vs

section Sound

variable {l : Limits} {fuel : Nat}

theorem Sound.array (h : Sound l fuel) {depth : Nat} {t rest : Text} {v : Json}
    (hread : Json.value l (fuel + 1) (depth + 1) ('[' :: t) = some (v, rest)) :
    ∃ s u, '[' :: t = u ++ rest ∧ Spelled s u ∧ s.depth ≤ depth + 1 ∧ s.value? l = some v := by
  obtain ⟨g, ht, hg⟩ := spaces_skip t
  by_cases hclosed : ∃ r, skipSpace t = ']' :: r
  · obtain ⟨r, hr⟩ := hclosed
    rw [value_noItems l fuel depth hr] at hread
    obtain ⟨rfl, rfl⟩ := Prod.mk.inj (Option.some.inj hread)
    rw [hr] at ht
    exact ⟨.arr [], '[' :: (g ++ [']']), by simp [ht], .noItems hg, by simp [Source.depth, itemsDepth], rfl⟩
  · rw [value_items l fuel depth fun r hr => hclosed ⟨r, hr⟩] at hread
    obtain ⟨⟨vs, r⟩, hitems, heq⟩ := Option.map_eq_some_iff.mp hread
    obtain ⟨rfl, rfl⟩ := Prod.mk.inj heq
    obtain ⟨ss, u, hu, hss, hd, hv⟩ := h.items hitems
    rw [hu] at ht
    refine ⟨.arr ss, '[' :: (g ++ (u ++ [']'])), by simp [ht], .items hg hss, ?_, by rw [Source.value?, hv]; rfl⟩
    rw [Source.depth]
    omega

theorem Sound.object (h : Sound l fuel) {depth : Nat} {t rest : Text} {v : Json}
    (hread : Json.value l (fuel + 1) (depth + 1) ('\x7b' :: t) = some (v, rest)) :
    ∃ s u, '\x7b' :: t = u ++ rest ∧ Spelled s u ∧ s.depth ≤ depth + 1 ∧ s.value? l = some v := by
  obtain ⟨g, ht, hg⟩ := spaces_skip t
  by_cases hclosed : ∃ r, skipSpace t = '\x7d' :: r
  · obtain ⟨r, hr⟩ := hclosed
    rw [value_noFields l fuel depth hr] at hread
    obtain ⟨rfl, rfl⟩ := Prod.mk.inj (Option.some.inj hread)
    rw [hr] at ht
    exact ⟨.obj [], '\x7b' :: (g ++ ['\x7d']), by simp [ht], .noFields hg, by simp [Source.depth, fieldsDepth], rfl⟩
  · rw [value_fields l fuel depth fun r hr => hclosed ⟨r, hr⟩] at hread
    obtain ⟨⟨vs, r⟩, hfields, heq⟩ := Option.map_eq_some_iff.mp hread
    obtain ⟨rfl, rfl⟩ := Prod.mk.inj heq
    obtain ⟨fs, u, vs, hu, hfs, hd, hv, rfl⟩ := h.fields hfields
    rw [hu] at ht
    refine ⟨.obj fs, '\x7b' :: (g ++ (u ++ ['\x7d'])), by simp [ht], .fields hg hfs, ?_,
      by rw [Source.value?, hv]; rfl⟩
    rw [Source.depth]
    omega

theorem Sound.value_succ (h : Sound l fuel) {depth : Nat} {t rest : Text} {v : Json}
    (hread : Json.value l (fuel + 1) depth t = some (v, rest)) :
    ∃ s u, t = u ++ rest ∧ Spelled s u ∧ s.depth ≤ depth ∧ s.value? l = some v := by
  cases t with
  | nil => simp [Json.value] at hread
  | cons c t =>
    by_cases hstring : c = '"'
    · subst hstring
      rw [value_string] at hread
      obtain ⟨⟨s, r⟩, htail, heq⟩ := Option.map_eq_some_iff.mp hread
      obtain ⟨rfl, rfl⟩ := Prod.mk.inj heq
      obtain ⟨u, rfl, hu⟩ := stringTail_sound htail
      exact ⟨.str s, '"' :: (u ++ ['"']), by simp, .str hu, Nat.zero_le _, rfl⟩
    by_cases harray : c = '['
    · subst harray
      cases depth with
      | zero => simp [Json.value] at hread
      | succ depth => exact h.array hread
    by_cases hobject : c = '\x7b'
    · subst hobject
      cases depth with
      | zero => simp [Json.value] at hread
      | succ depth => exact h.object hread
    by_cases hminus : c = '-'
    · subst hminus
      rw [value_minus] at hread
      obtain ⟨n, u, hneg, hu, rfl, hv⟩ := number_sound hread
      exact ⟨.number n, '-' :: u, rfl, .number ⟨u, hu, by rw [hneg]; rfl⟩, Nat.zero_le _, hv⟩
    by_cases htrue : c = 't'
    · subst htrue
      rw [value_true] at hread
      obtain ⟨rfl, ht⟩ := word_eq_some.mp hread
      exact ⟨.bool true, _, ht, .yes, Nat.zero_le _, rfl⟩
    by_cases hfalse : c = 'f'
    · subst hfalse
      rw [value_false] at hread
      obtain ⟨rfl, ht⟩ := word_eq_some.mp hread
      exact ⟨.bool false, _, ht, .no, Nat.zero_le _, rfl⟩
    by_cases hnull : c = 'n'
    · subst hnull
      rw [value_null] at hread
      obtain ⟨rfl, ht⟩ := word_eq_some.mp hread
      exact ⟨.null, _, ht, .null, Nat.zero_le _, rfl⟩
    · unfold Json.value at hread
      rw [if_neg hstring, if_neg harray, if_neg hobject, if_neg hminus, if_neg htrue, if_neg hfalse,
        if_neg hnull] at hread
      obtain ⟨n, u, hneg, hu, ht, hv⟩ := number_sound hread
      exact ⟨.number n, u, ht, .number ⟨u, hu, by rw [hneg]; rfl⟩, Nat.zero_le _, hv⟩

theorem Sound.items_succ (h : Sound l fuel) {depth : Nat} {t rest : Text} {vs : List Json}
    (hread : elements l (fuel + 1) depth t = some (vs, rest)) :
    ∃ ss u, t = u ++ ']' :: rest ∧ ItemsSpelled ss u ∧ itemsDepth ss ≤ depth ∧
      itemValues? l ss = some vs := by
  rw [elements] at hread
  simp only [Option.bind_eq_bind, Option.bind_eq_some_iff, Option.pure_def, Prod.exists] at hread
  obtain ⟨v, t', hvalue, hread⟩ := hread
  obtain ⟨s, u, rfl, hs, hd, hv⟩ := h.value hvalue
  obtain ⟨g, ht', hg⟩ := spaces_skip t'
  split at hread
  · rename_i t'' hcomma
    simp only [Option.bind_eq_some_iff, Prod.exists] at hread
    obtain ⟨vs, r, hrest, heq⟩ := hread
    obtain ⟨rfl, rfl⟩ := Prod.mk.inj (Option.some.inj heq)
    obtain ⟨ss, w, hw, hss, hds, hvs⟩ := h.items hrest
    obtain ⟨g', ht'', hg'⟩ := spaces_skip t''
    rw [hw] at ht''
    rw [hcomma, ht''] at ht'
    refine ⟨s :: ss, u ++ (g ++ ',' :: (g' ++ w)), by simp [ht'], .more hs hg hg' hss, ?_,
      by simp [itemValues?, hv, hvs]⟩
    rw [itemsDepth]
    omega
  · rename_i t'' hclosed
    obtain ⟨rfl, rfl⟩ := Prod.mk.inj (Option.some.inj hread)
    rw [hclosed] at ht'
    refine ⟨[s], u ++ g, by simp [ht'], .last hs hg, ?_, by simp [itemValues?, hv]⟩
    rw [itemsDepth, itemsDepth]
    omega
  · cases hread

theorem Sound.fields_succ (h : Sound l fuel) {depth : Nat} {before fields : Fields} {t rest : Text}
    (hread : members l (fuel + 1) depth before t = some (fields, rest)) :
    ∃ fs u vs, t = u ++ '\x7d' :: rest ∧ FieldsSpelled fs u ∧ fieldsDepth fs ≤ depth ∧
      fieldValues? l fs = some vs ∧
      fields = putAll before vs := by
  unfold members at hread
  split at hread
  · rename_i t
    simp only [Option.bind_eq_bind, Option.bind_eq_some_iff, Option.pure_def, Prod.exists] at hread
    obtain ⟨k, t1, hname, hread⟩ := hread
    obtain ⟨ku, rfl, hk⟩ := stringTail_sound hname
    obtain ⟨g1, ht1, hg1⟩ := spaces_skip t1
    split at hread
    · rename_i t2 hcolon
      simp only [Option.bind_eq_some_iff, Prod.exists] at hread
      obtain ⟨v, t3, hvalue, hread⟩ := hread
      obtain ⟨g2, ht2, hg2⟩ := spaces_skip t2
      obtain ⟨s, w, hw, hs, hd, hv⟩ := h.value hvalue
      obtain ⟨g3, ht3, hg3⟩ := spaces_skip t3
      have hfield : FieldSpelled k s ('"' :: (ku ++ '"' :: (g1 ++ ':' :: (g2 ++ w)))) := .mk hk hg1 hg2 hs
      rw [hw] at ht2
      rw [hcolon, ht2] at ht1
      split at hread
      · rename_i t4 hcomma
        obtain ⟨fs, r, vs, hr, hfs, hds, hvs, rfl⟩ := h.fields hread
        obtain ⟨g4, ht4, hg4⟩ := spaces_skip t4
        rw [hr] at ht4
        rw [hcomma, ht4] at ht3
        refine ⟨(k, s) :: fs, _ ++ (g3 ++ ',' :: (g4 ++ r)), (k, v) :: vs, ?_,
          .more hfield hg3 hg4 hfs, ?_, ?_, rfl⟩
        · rw [ht1, ht3]
          simp
        · rw [fieldsDepth]
          omega
        · simp [fieldValues?, hv, hvs]
      · rename_i t4 hclosed
        obtain ⟨rfl, rfl⟩ := Prod.mk.inj (Option.some.inj hread)
        rw [hclosed] at ht3
        refine ⟨[(k, s)], _ ++ g3, [(k, v)], ?_, .last hfield hg3, ?_, ?_, rfl⟩
        · rw [ht1, ht3]
          simp
        · rw [fieldsDepth, fieldsDepth]
          omega
        · simp [fieldValues?, hv]
      · cases hread
    · cases hread
  · cases hread

end Sound

theorem sound (l : Limits) (fuel : Nat) : Sound l fuel := by
  induction fuel with
  | zero =>
    refine ⟨fun hread => ?_, fun hread => ?_, fun hread => ?_⟩
    · simp [Json.value] at hread
    · simp [elements] at hread
    · simp [members] at hread
  | succ fuel ih => exact ⟨ih.value_succ, ih.items_succ, ih.fields_succ⟩

/-! ## Whole texts -/

/-- A text is read as a value exactly if it writes a source that stands for it and does not nest too deep. -/
theorem read?_eq_some {l : Limits} {t : Text} {v : Json} :
    read? l t = some v ↔ ∃ s, Written s t ∧ s.depth ≤ l.depth ∧ s.value? l = some v := by
  unfold read?
  constructor
  · intro h
    split at h
    · rename_i v' rest hvalue
      split at h
      · rename_i hrest
        obtain rfl := Option.some.inj h
        obtain ⟨s, u, hu, hs, hd, hv⟩ := (sound l _).value hvalue
        obtain ⟨g, hg, hgs⟩ := spaces_skip t
        obtain ⟨g', hg', hgs'⟩ := spaces_skip rest
        rw [List.isEmpty_iff.mp hrest, List.append_nil] at hg'
        exact ⟨s, ⟨g, u, rest, by rw [hg, hu], hgs, hs, hg' ▸ hgs'⟩, hd, hv⟩
      · cases h
    · cases h
  · rintro ⟨s, ⟨g, u, g', rfl, hg, hs, hg'⟩, hd, hv⟩
    have hfuel : 2 * u.length ≤ 2 * (g ++ (u ++ g')).length + 2 := by
      simp only [List.length_append]
      omega
    have hends : Ends g' := by
      have := ends_spaces hg' ends_nil
      rwa [List.append_nil] at this
    have hrest : skipSpace g' = [] := by
      have := skipSpace_spaces (t := []) hg' nofun
      rwa [List.append_nil] at this
    rw [hs.skipSpace hg, (reads l _).value hs hv hd hfuel hends]
    simp [hrest]

end ClassTidy.Json
