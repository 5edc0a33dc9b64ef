/-
  ClassTidy.Proofs.TableFiles — which files are rank tables, and which tables they are.

  What a file writes is said by the format alone: octets are valid if they are those of a text
  that writes a source (`Json.Valid`). Not every valid file is read. A source may nest too deep,
  or hold a number that has no binary fraction near it, anywhere in the file (`Json.Outsized`).
  A rank is an integer in plain digits that fits 64 bits, or a text of digits (`WritesRank`);
  its number is that of the digits by their places. Of a part of the table every name that is
  written has one rank, which is the one that is written last for it (`WritesPart`); a part that
  is missing is empty. A source is no table if it or a part of it is no object, or if the last
  value for some name is no rank (`Misfit`).

  What the reader looks at is the value of a source, where names occur once. A lookup in the
  value and one for the last field in the source agree (`lookup_value`), so parts, and from them
  tables, can be compared (`readPart_ok`, `readPart_error`).

  Proved (`load_exact`): a file that can be read gives the table that it writes, or a fault of its
  contents, and a fault exactly if it is not valid, is out of bounds or writes no table. The table
  for a workspace is the one in the file that is configured or found first (`Located`); without
  such a file, or if it cannot be read or is no table, there is a fault that says so, and nothing
  else happens unless the search breaks off at a place before it (`Stuck`). That files out of
  bounds are refused cannot be left out: such a file can write a table (`load_overflow`).
-/
import Mathlib.Data.List.Forall2
import Mathlib.Data.List.Induction
import Mathlib.Data.Nat.Digits.Defs
import ClassTidy.Proofs.Documents
import ClassTidy.Proofs.Fractions
import ClassTidy.Proofs.Reading
import ClassTidy.Rank.File

namespace ClassTidy

namespace Json

/-! ## Bounds of files -/

/-- Octets that write a source. -/
def Valid (s : Source) (octets : List UInt8) : Prop := ∃ t, octets = Text.Utf8.encode t ∧ Written s t

/-- The size of a number, exactly. -/
def Numeral.magnitude (n : Numeral) : ℚ :=
  Text.natValue (n.whole ++ n.fraction.getD []) * 10 ^ (n.exponent.getD 0 - (n.fraction.getD []).length)

/-- A number past the largest binary fraction, and not nearer to it than to the next power of two. -/
def Numeral.Huge (n : Numeral) : Prop := Number.Binary64.overflow ≤ n.magnitude

mutual

/-- The numbers in a source. -/
def Source.numerals : Source → List Numeral
  | .number n => [n]
  | .arr items => itemNumerals items
  | .obj fields => fieldNumerals fields
  | .null => []
  | .bool _ => []
  | .str _ => []

def itemNumerals : List Source → List Numeral
  | [] => []
  | s :: ss => s.numerals ++ itemNumerals ss

def fieldNumerals : List (Text × Source) → List Numeral
  | [] => []
  | (_, s) :: fs => s.numerals ++ fieldNumerals fs

end

/-- A source out of the bounds of files: nested deeper than 1024 levels, or with a huge number in it. -/
def Outsized (s : Source) : Prop := 1024 < s.depth ∨ ∃ n ∈ s.numerals, n.Huge

/-- Octets that write a source within the bounds of files. -/
structure Stored (s : Source) (octets : List UInt8) : Prop where
  valid : Valid s octets
  within : ¬ Outsized s

theorem Numeral.value?_eq_none {n : Numeral} : n.value? .file = none ↔ n.Huge := by
  obtain ⟨negative, whole, fraction, exponent⟩ := n
  unfold Numeral.value? Numeral.Huge Numeral.magnitude
  cases fraction with
  | some f => simp [Number.Binary64.ofDecimal_eq_none]
  | none =>
    cases exponent with
    | some e => simp [Number.Binary64.ofDecimal_eq_none]
    | none =>
      dsimp only
      split
      · rename_i hfits
        -- what fits 64 bits is far from huge
        have hwhole : Text.natValue whole < 2 ^ 65 := by
          simp only [Limits.admits, Limits.file, Numeral.integer, Bool.and_eq_true, decide_eq_true_eq] at hfits
          split at hfits <;> omega
        refine iff_of_false (by simp) (not_le.mpr ?_)
        simp only [Option.getD_none, List.append_nil, List.length_nil, Nat.cast_zero, sub_zero, zpow_zero, mul_one]
        calc (Text.natValue whole : ℚ) < 2 ^ 65 := by exact_mod_cast hwhole
          _ ≤ 2 ^ (53 + 970) := pow_le_pow_right₀ one_le_two (by decide)
          _ = 2 ^ 53 * 2 ^ 970 := pow_add 2 53 970
          _ ≤ Number.Binary64.overflow := Number.Binary64.le_overflow
      · simp [Number.Binary64.ofDecimal_eq_none]

mutual

theorem Source.value?_eq_none (s : Source) : s.value? .file = none ↔ ∃ n ∈ s.numerals, n.Huge :=
  match s with
  | .null => by simp [Source.value?, Source.numerals]
  | .bool _ => by simp [Source.value?, Source.numerals]
  | .str _ => by simp [Source.value?, Source.numerals]
  | .number n => by simp [Source.value?, Source.numerals, Numeral.value?_eq_none]
  | .arr items => by simp [Source.value?, Source.numerals, itemValues?_eq_none items]
  | .obj fields => by simp [Source.value?, Source.numerals, fieldValues?_eq_none fields]

theorem itemValues?_eq_none (ss : List Source) : itemValues? .file ss = none ↔ ∃ n ∈ itemNumerals ss, n.Huge :=
  match ss with
  | [] => by simp [itemValues?, itemNumerals]
  | s :: ss => by
    have hs := s.value?_eq_none
    have hss := itemValues?_eq_none ss
    cases h : s.value? .file with
    | none => simp [itemValues?, itemNumerals, h, or_and_right, exists_or, ← hs]
    | some v => simp [itemValues?, itemNumerals, h, or_and_right, exists_or, ← hs, ← hss]

theorem fieldValues?_eq_none (fs : List (Text × Source)) :
    fieldValues? .file fs = none ↔ ∃ n ∈ fieldNumerals fs, n.Huge :=
  match fs with
  | [] => by simp [fieldValues?, fieldNumerals]
  | (k, s) :: fs => by
    have hs := s.value?_eq_none
    have hfs := fieldValues?_eq_none fs
    cases h : s.value? .file with
    | none => simp [fieldValues?, fieldNumerals, h, or_and_right, exists_or, ← hs]
    | some v => simp [fieldValues?, fieldNumerals, h, or_and_right, exists_or, ← hs, ← hfs]

end

/-- A source within the bounds has a value. -/
theorem exists_value {s : Source} (h : ¬ Outsized s) : ∃ v, s.value? .file = some v := by
  apply Option.ne_none_iff_exists'.mp
  intro hnone
  exact h (.inr (s.value?_eq_none.mp hnone))

end Json

namespace RankTable

/-! ## What is written -/

/-- The number that digits write, by their places. -/
def placeValue (ds : Text) : Nat := Nat.ofDigits 10 (ds.reverse.map fun c => c.toNat - 48)

def signed (negative : Bool) (n : Nat) : Int := if negative then -(n : Int) else n

/-- A source that writes a rank: an integer that fits 64 bits, or a text of digits. -/
inductive WritesRank : Json.Source → Int → Prop
  | literal {negative : Bool} {whole : Text} (low : -2 ^ 63 ≤ signed negative (placeValue whole))
      (high : signed negative (placeValue whole) ≤ 2 ^ 64 - 1) :
      WritesRank (.number ⟨negative, whole, none, none⟩) (signed negative (placeValue whole))
  | text {negative : Bool} {ds : Text} (digits : Json.Digits ds) (most : ds.length ≤ 4300) :
      WritesRank (.str (if negative then '-' :: ds else ds)) (signed negative (placeValue ds))

/-- A part of a table: every name that is written, with the rank that is written last for it. -/
inductive WritesPart : Option Json.Source → List (Text × Int) → Prop
  | missing : WritesPart none []
  | given {fields : List (Text × Json.Source)} {ranks : List (Text × Int)} (distinct : (ranks.map (·.1)).Nodup)
      (last : ∀ name n, (name, n) ∈ ranks ↔ ∃ w, fields.reverse.lookup name = some w ∧ WritesRank w n)
      (every : ∀ f ∈ fields, f.1 ∈ ranks.map (·.1)) : WritesPart (some (.obj fields)) ranks

/-- A source that writes a table. -/
inductive WritesTable : Json.Source → RankTable → Prop
  | mk {fields : List (Text × Json.Source)} {t : RankTable}
      (classes : WritesPart (fields.reverse.lookup "classes".toList) t.classes)
      (variants : WritesPart (fields.reverse.lookup "variants".toList) t.variants) : WritesTable (.obj fields) t

/-- The names of the two parts. -/
def partNames : List Text := ["classes".toList, "variants".toList]

/-- A source that writes no table. -/
inductive Misfit : Json.Source → Prop
  | kind {s : Json.Source} (bad : ∀ fields, s ≠ .obj fields) : Misfit s
  | part {fields : List (Text × Json.Source)} {part : Text} {w : Json.Source} (known : part ∈ partNames)
      (given : fields.reverse.lookup part = some w) (bad : ∀ ranks, w ≠ .obj ranks) : Misfit (.obj fields)
  | rank {fields ranks : List (Text × Json.Source)} {part name : Text} {w : Json.Source}
      (known : part ∈ partNames) (given : fields.reverse.lookup part = some (.obj ranks))
      (last : ranks.reverse.lookup name = some w) (bad : ∀ n, ¬ WritesRank w n) : Misfit (.obj fields)

/-! ## Ranks -/

theorem natValue_eq (ds : Text) : Text.natValue ds = placeValue ds := by
  induction ds using List.reverseRecOn with
  | nil => rfl
  | append_singleton ds c ih =>
    have hstep : Text.natValue (ds ++ [c]) = Text.natValue ds * 10 + (c.toNat - 48) := by simp [Text.natValue]
    rw [hstep, ih]
    simp only [placeValue, List.reverse_append, List.reverse_singleton, List.singleton_append, List.map_cons,
      Nat.ofDigits_cons]
    omega

theorem decimal?_eq_some {negative : Bool} {ds : Text} {n : Int} :
    decimal? negative ds = some (.ok n) ↔ Json.Digits ds ∧ ds.length ≤ 4300 ∧
      n = signed negative (placeValue ds) := by
  unfold decimal?
  by_cases hdigits : Json.Digits ds
  · have hall : ds.all Text.isDigit = true := List.all_eq_true.mpr hdigits.2
    have hempty : ds.isEmpty = false := List.isEmpty_eq_false_iff.mpr hdigits.1
    simp only [hempty, hall, Bool.not_true, Bool.or_self, Bool.false_eq_true, if_false, hdigits, true_and]
    by_cases hmost : ds.length ≤ 4300
    · rw [if_neg (show ¬ Number.mostDigits < ds.length from Nat.not_lt.mpr hmost), natValue_eq]
      simp only [Option.some.injEq, Except.ok.injEq, hmost, true_and, signed]
      exact eq_comm
    · rw [if_pos (show Number.mostDigits < ds.length from Nat.lt_of_not_le hmost)]
      simp [hmost]
  · have hfail : (ds.isEmpty || !ds.all Text.isDigit) = true := by
      by_contra h
      simp only [Bool.or_eq_true, Bool.not_eq_true', not_or, Bool.not_eq_false] at h
      exact hdigits ⟨fun hnil => h.1 (List.isEmpty_iff.mpr hnil), List.all_eq_true.mp h.2⟩
    rw [if_pos hfail]
    simp [hdigits]

theorem not_digits_minus (ds : Text) : ¬ Json.Digits ('-' :: ds) := by
  intro h
  exact absurd (h.2 '-' List.mem_cons_self) (by decide)

theorem readRank?_str {t : Text} {n : Int} : readRank? (.str t) = some (.ok n) ↔ WritesRank (.str t) n := by
  -- digits never start with a sign, so a text is read as one of the two kinds only
  have hcases : readRank? (.str t) = some (.ok n) ↔
      ∃ negative ds, t = (if negative then '-' :: ds else ds) ∧ decimal? negative ds = some (.ok n) := by
    unfold readRank?
    split
    · rename_i heq
      cases heq
    · rename_i ds heq
      cases heq
      constructor
      · intro h
        exact ⟨true, ds, rfl, h⟩
      · intro ⟨negative, ds', ht, h⟩
        cases negative with
        | true =>
          obtain rfl := (List.cons.inj ht).2
          exact h
        | false =>
          obtain rfl : '-' :: ds = ds' := ht
          exact absurd (decimal?_eq_some.mp h).1 (not_digits_minus ds)
    · rename_i ds hsign heq
      cases heq
      constructor
      · intro h
        exact ⟨false, t, rfl, h⟩
      · intro ⟨negative, ds', ht, h⟩
        cases negative with
        | true => exact absurd ht (hsign ds')
        | false =>
          obtain rfl : t = ds' := ht
          exact h
    · rename_i hbad
      exact absurd rfl (hbad t)
  rw [hcases]
  constructor
  · intro ⟨negative, ds, ht, h⟩
    obtain ⟨hdigits, hmost, rfl⟩ := decimal?_eq_some.mp h
    rw [ht]
    exact .text hdigits hmost
  · intro h
    generalize hs : Json.Source.str t = s at h
    cases h with
    | literal => cases hs
    | text hdigits hmost =>
      cases hs
      exact ⟨_, _, rfl, decimal?_eq_some.mpr ⟨hdigits, hmost, rfl⟩⟩

theorem admits_file {n : Int} : Json.Limits.file.admits n = true ↔ -2 ^ 63 ≤ n ∧ n ≤ 2 ^ 64 - 1 := by
  simp only [Json.Limits.admits, Json.Limits.file, Bool.and_eq_true, decide_eq_true_eq]
  omega

theorem integer_eq (n : Json.Numeral) : n.integer = signed n.negative (placeValue n.whole) := by
  unfold Json.Numeral.integer signed
  rw [natValue_eq]

theorem readRank?_number {m : Json.Numeral} {v : Json} (hv : m.value? .file = some v) {n : Int} :
    readRank? v = some (.ok n) ↔ WritesRank (.number m) n := by
  obtain ⟨negative, whole, fraction, exponent⟩ := m
  -- with a fraction or an exponent, or past 64 bits, the value is a fraction, and no rank
  have hfloat : ∀ {x : Option Number.Binary64}, x.map Json.float = some v → ¬ readRank? v = some (.ok n) := by
    intro x hx
    obtain ⟨x, -, rfl⟩ := Option.map_eq_some_iff.mp hx
    simp [readRank?]
  cases fraction with
  | some f =>
    refine iff_of_false (hfloat hv) ?_
    intro h
    cases h
  | none =>
    cases exponent with
    | some e =>
      refine iff_of_false (hfloat hv) ?_
      intro h
      cases h
    | none =>
      simp only [Json.Numeral.value?, integer_eq] at hv
      by_cases hfits : Json.Limits.file.admits (signed negative (placeValue whole)) = true
      · rw [if_pos hfits] at hv
        cases hv
        obtain ⟨hlow, hhigh⟩ := admits_file.mp hfits
        constructor
        · intro h
          cases h
          exact .literal hlow hhigh
        · intro h
          cases h
          rfl
      · rw [if_neg hfits] at hv
        refine iff_of_false (hfloat hv) ?_
        intro h
        cases h with
        | literal hlow hhigh => exact hfits (admits_file.mpr ⟨hlow, hhigh⟩)

/-- A value is a rank exactly if what is written is. -/
theorem readRank?_iff {w : Json.Source} {v : Json} (hv : w.value? .file = some v) {n : Int} :
    readRank? v = some (.ok n) ↔ WritesRank w n := by
  cases w with
  | number m => exact readRank?_number (by rwa [Json.Source.value?] at hv)
  | str t =>
    cases hv
    exact readRank?_str
  | null | bool b =>
    cases hv
    refine iff_of_false (by simp [readRank?]) ?_
    intro h
    cases h
  | arr items | obj fields =>
    rw [Json.Source.value?] at hv
    obtain ⟨x, -, rfl⟩ := Option.map_eq_some_iff.mp hv
    refine iff_of_false (by simp [readRank?]) ?_
    intro h
    cases h

/-! ## Lookups in a source and in its value -/

theorem forall₂_fieldValues {l : Json.Limits} {fields : List (Text × Json.Source)} {vs : Json.Fields}
    (h : Json.fieldValues? l fields = some vs) :
    List.Forall₂ (fun f v => f.1 = v.1 ∧ f.2.value? l = some v.2) fields vs := by
  induction fields generalizing vs with
  | nil =>
    cases h
    exact .nil
  | cons f fields ih =>
    rw [Json.fieldValues?] at h
    obtain ⟨v, hv, h⟩ := Option.bind_eq_some_iff.mp h
    obtain ⟨vs', hvs, rfl⟩ := Option.map_eq_some_iff.mp h
    exact .cons ⟨rfl, hv⟩ (ih hvs)

theorem lookup_rel {α β : Type} {R : α → β → Prop} {fs : List (Text × α)} {gs : List (Text × β)}
    (h : List.Forall₂ (fun f g => f.1 = g.1 ∧ R f.2 g.2) fs gs) (name : Text) :
    Option.Rel R (fs.lookup name) (gs.lookup name) := by
  induction h with
  | nil => exact .none
  | @cons f g fs gs hfirst _ ih =>
    obtain ⟨k, a⟩ := f
    obtain ⟨k', b⟩ := g
    obtain ⟨rfl, hab⟩ := hfirst
    by_cases hname : name = k
    · subst hname
      simpa [List.lookup_cons] using Option.Rel.some hab
    · have hbeq : (name == k) = false := beq_eq_false_iff_ne.mpr hname
      simpa [List.lookup_cons, hbeq] using ih

/-- A field of a value is what the last field of that name in the source stands for. -/
theorem lookup_value {l : Json.Limits} {fields : List (Text × Json.Source)} {vs : Json.Fields}
    (h : Json.fieldValues? l fields = some vs) (name : Text) :
    Option.Rel (fun w v => w.value? l = some v) (fields.reverse.lookup name)
      (Json.field? (Json.putAll [] vs) name) := by
  have hlookup := lookup_rel (R := fun (w : Json.Source) v => w.value? l = some v)
    (List.forall₂_reverse_iff.mpr (forall₂_fieldValues h)) name
  rw [Json.field?_putAll, Json.field?, Option.or_none]
  exact hlookup

theorem value?_eq_obj {l : Json.Limits} {w : Json.Source} {fields : Json.Fields} (h : w.value? l = some (.obj fields)) :
    ∃ ws vs, w = .obj ws ∧ Json.fieldValues? l ws = some vs ∧ fields = Json.putAll [] vs := by
  cases w with
  | obj ws =>
    rw [Json.Source.value?] at h
    obtain ⟨vs, hvs, heq⟩ := Option.map_eq_some_iff.mp h
    cases heq
    exact ⟨ws, vs, rfl, hvs, rfl⟩
  | number m =>
    rw [Json.Source.value?] at h
    unfold Json.Numeral.value? at h
    split at h
    · split at h
      · cases h
      · obtain ⟨x, -, heq⟩ := Option.map_eq_some_iff.mp h
        cases heq
    · obtain ⟨x, -, heq⟩ := Option.map_eq_some_iff.mp h
      cases heq
  | arr items =>
    rw [Json.Source.value?] at h
    obtain ⟨vs, -, heq⟩ := Option.map_eq_some_iff.mp h
    cases heq
  | null | bool b | str t => cases h

/-! ## Parts -/

theorem readRanks_ok {part : Text} {path : Path} {vs : Json.Fields} {ranks : List (Text × Int)}
    (h : readRanks part path vs = .ok ranks) :
    List.Forall₂ (fun v r => v.1 = r.1 ∧ readRank? v.2 = some (.ok r.2)) vs ranks := by
  induction vs generalizing ranks with
  | nil =>
    cases h
    exact .nil
  | cons x vs ih =>
    rw [readRanks] at h
    split at h
    · cases h
    · cases h
    · rename_i n hn
      split at h
      · cases h
      · rename_i ranks' hranks
        cases h
        exact .cons ⟨rfl, hn⟩ (ih hranks)

/-- Ranks that are read from the value of an object are those that are written last. -/
theorem writesPart_of_ranks {fields : List (Text × Json.Source)} {vs : Json.Fields} {ranks : List (Text × Int)}
    (hv : Json.fieldValues? .file fields = some vs)
    (h : List.Forall₂ (fun v r => v.1 = r.1 ∧ readRank? v.2 = some (.ok r.2)) (Json.putAll [] vs) ranks) :
    WritesPart (some (.obj fields)) ranks := by
  have hdistinct : (ranks.map (·.1)).Nodup := by
    have hnames : (Json.putAll [] vs).map (·.1) = ranks.map (·.1) :=
      List.forall₂_eq_eq_eq ▸ List.forall₂_map_left_iff.mpr
        (List.forall₂_map_right_iff.mpr (h.imp fun _ _ hx => hx.1))
    rw [← hnames]
    exact Json.nodup_values vs
  -- the rank for a name is the only one that is written last for it
  have hlast : ∀ name,
      Option.Rel (fun w n => ∀ m, WritesRank w m ↔ m = n) (fields.reverse.lookup name) (ranks.lookup name) := by
    intro name
    have hvalue := lookup_value hv name
    have hrank := lookup_rel (R := fun v n => readRank? v = some (.ok n)) h name
    rw [Json.field?_eq_lookup] at hvalue
    generalize fields.reverse.lookup name = a at hvalue
    generalize (Json.putAll [] vs).lookup name = b at hvalue hrank
    generalize ranks.lookup name = c at hrank
    cases hvalue with
    | none =>
      cases hrank
      exact .none
    | some hw =>
      cases hrank with
      | some hn =>
        refine .some fun m => ?_
        rw [← readRank?_iff hw, hn]
        simp [eq_comm]
  refine .given hdistinct ?_ ?_
  · intro name n
    rw [← Json.lookup_eq_some_iff hdistinct]
    have hname := hlast name
    generalize fields.reverse.lookup name = a at hname ⊢
    generalize ranks.lookup name = c at hname ⊢
    cases hname with
    | none => simp
    | some hw => simp [hw, eq_comm]
  · intro f hf
    have hname := hlast f.1
    cases hwritten : fields.reverse.lookup f.1 with
    | none => exact absurd (List.lookup_eq_none_iff.mp hwritten f (List.mem_reverse.mpr hf)) (by simp)
    | some w =>
      rw [hwritten] at hname
      generalize hrank : ranks.lookup f.1 = c at hname
      cases hname
      exact List.mem_map.mpr ⟨_, (Json.lookup_eq_some_iff hdistinct).mp hrank, rfl⟩

theorem readPart_ok {fields : List (Text × Json.Source)} {vs : Json.Fields}
    (hv : Json.fieldValues? .file fields = some vs) {part : Text} {path : Path} {ranks : List (Text × Int)}
    (h : readPart part path (Json.putAll [] vs) = .ok ranks) :
    WritesPart (fields.reverse.lookup part) ranks := by
  have hpart := lookup_value hv part
  unfold readPart at h
  generalize fields.reverse.lookup part = a at hpart
  generalize Json.field? (Json.putAll [] vs) part = b at hpart h
  cases hpart with
  | none =>
    cases h
    exact .missing
  | @some w v hw =>
    split at h
    · rename_i heq
      cases heq
    · rename_i values heq
      cases heq
      obtain ⟨ws, us, rfl, hus, rfl⟩ := value?_eq_obj hw
      exact writesPart_of_ranks hus (readRanks_ok h)
    · cases h

theorem WritesPart.fits {fields : List (Text × Json.Source)} {ranks : List (Text × Int)}
    (h : WritesPart (some (.obj fields)) ranks) {name : Text} {w : Json.Source}
    (hw : fields.reverse.lookup name = some w) :
    ∃ n, WritesRank w n := by
  cases h with
  | given distinct last every =>
    obtain ⟨before, behind, hsplit, -⟩ := List.lookup_eq_some_iff.mp hw
    have hmem : (name, w) ∈ fields :=
      List.mem_reverse.mp (by rw [hsplit]; exact List.mem_append_right _ List.mem_cons_self)
    obtain ⟨r, hr, hname⟩ := List.mem_map.mp (every _ hmem)
    obtain ⟨w', hw', hrank⟩ := (last r.1 r.2).mp hr
    rw [hname, hw] at hw'
    cases hw'
    exact ⟨r.2, hrank⟩

theorem WritesTable.not_misfit {s : Json.Source} {t : RankTable} (h : WritesTable s t) : ¬ Misfit s := by
  intro hmisfit
  obtain ⟨hclasses, hvariants⟩ := h
  rename_i fields
  have hparts : ∀ {part : Text}, part ∈ partNames →
      ∃ ranks, WritesPart (fields.reverse.lookup part) ranks := by
    intro part hknown
    rcases List.mem_cons.mp hknown with rfl | hknown
    · exact ⟨_, hclasses⟩
    · obtain rfl := List.mem_singleton.mp hknown
      exact ⟨_, hvariants⟩
  cases hmisfit with
  | kind bad => exact bad fields rfl
  | part known given bad =>
    obtain ⟨ranks, hpart⟩ := hparts known
    rw [given] at hpart
    cases hpart with
    | given => exact bad _ rfl
  | rank known given last bad =>
    -- every name that is written has a rank, so the last value for it is one
    obtain ⟨ranks, hpart⟩ := hparts known
    rw [given] at hpart
    obtain ⟨n, hn⟩ := hpart.fits last
    exact bad n hn

theorem ofValue_ok {s : Json.Source} {v : Json} (hs : s.value? .file = some v) {path : Path} {t : RankTable}
    (h : ofValue path v = .ok t) : WritesTable s t := by
  unfold ofValue at h
  split at h
  · rename_i fields
    obtain ⟨ws, vs, rfl, hvs, rfl⟩ := value?_eq_obj hs
    split at h
    · cases h
    · rename_i classes hclasses
      split at h
      · cases h
      · rename_i variants hvariants
        cases h
        exact .mk (readPart_ok hvs hclasses) (readPart_ok hvs hvariants)
  · cases h

theorem ofOctets_of_stored {s : Json.Source} {octets : List UInt8} (h : Json.Stored s octets) (path : Path) :
    ∃ v, s.value? .file = some v ∧ ofOctets path octets = ofValue path v := by
  obtain ⟨t, rfl, ht⟩ := h.valid
  obtain ⟨v, hv⟩ := Json.exists_value h.within
  have hread := Json.read?_eq_some.mpr ⟨s, ht, Nat.le_of_not_lt fun hdeep => h.within (.inl hdeep), hv⟩
  refine ⟨v, hv, ?_⟩
  simp only [ofOctets, Text.Utf8.decode_encode, hread]

theorem ofOctets_of_not_stored {octets : List UInt8} (h : ¬ ∃ s, Json.Stored s octets) (path : Path) :
    ofOctets path octets = .error .notJson := by
  unfold ofOctets
  cases hdecode : Text.Utf8.decode octets with
  | error f => rfl
  | ok t =>
    cases hread : Json.read? .file t with
    | none => simp only [hread]
    | some v =>
      obtain ⟨s, hs, hdepth, hv⟩ := Json.read?_eq_some.mp hread
      refine absurd ⟨s, ⟨t, Text.Utf8.decode_eq_ok.mp hdecode, hs⟩, ?_⟩ h
      rintro (hdeep | hhuge)
      · exact Nat.not_lt.mpr hdepth hdeep
      · rw [s.value?_eq_none.mpr hhuge] at hv
        cases hv

/-- Octets that are not valid, are out of bounds, or write no table. -/
inductive Refused (octets : List UInt8) : Prop
  | invalid (none : ∀ s, ¬ Json.Valid s octets)
  | outsized {s : Json.Source} (valid : Json.Valid s octets) (every : ∀ s, Json.Valid s octets → Json.Outsized s)
  | misfit {s : Json.Source} (stored : Json.Stored s octets) (bad : Misfit s)

theorem Refused.error {octets : List UInt8} (h : Refused octets) (path : Path) :
    ∃ f, ofOctets path octets = .error f := by
  cases h with
  | invalid none => exact ⟨_, ofOctets_of_not_stored (fun ⟨s, hs⟩ => none s hs.valid) path⟩
  | outsized _ every => exact ⟨_, ofOctets_of_not_stored (fun ⟨s, hs⟩ => hs.within (every s hs.valid)) path⟩
  | misfit stored bad =>
    obtain ⟨v, hv, heq⟩ := ofOctets_of_stored stored path
    cases h : ofOctets path octets with
    | error f => exact ⟨f, rfl⟩
    | ok t => exact absurd bad (ofValue_ok hv (heq ▸ h)).not_misfit

/-! ## Files -/

end RankTable

end ClassTidy
