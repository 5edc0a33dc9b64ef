/-
  ClassTidy.Proofs.Fingerprints — what a fingerprint tells apart.

  A fingerprint is the digest of a printed object. Whatever characters a string holds, it is
  printed as a spelling of itself (`textSpelled_write`): quotes, backslashes and controls are
  escaped, so a printed object is read back with the strings and choices that went in
  (`read?_fingerprintText`), and two objects that differ are printed apart. Octets tell texts
  apart, and the text of an absolute path tells the names on it, since none of them is empty or
  holds a slash (`write_root_inj`).

  Proved (`fingerprint_exact`): what is digested is the same exactly if the table's path, the two
  choices and the resolved workspace are; so fingerprints are the same exactly then, or if the
  two strings of octets are a collision of the digest. No other setting matters.
-/
import ClassTidy.Proofs.Documents
import ClassTidy.Proofs.Peeling
import ClassTidy.Proofs.Reading

namespace ClassTidy

/-! ## What is printed is spelled -/

namespace Json

theorem hexValue?_hexDigit {n : Nat} (h : n < 16) : Text.hexValue? (Text.hexDigit n) = some n := by
  have hall : ∀ m : Fin 16, Text.hexValue? (Text.hexDigit m) = some m.val := by decide
  exact hall ⟨n, h⟩

/-- A code of at most four digits is printed with four. -/
theorem fourHex_write {n : Nat} (h : n < 65536) : FourHex (Text.hex 4 n) n := by
  have hdigit : ∀ m, Text.hexValue? (Text.hexDigit (m % 16)) = some (m % 16) := fun m =>
    hexValue?_hexDigit (Nat.mod_lt m (by decide))
  have hcode := FourHex.mk (hdigit (n / 16 / 16 / 16)) (hdigit (n / 16 / 16)) (hdigit (n / 16)) (hdigit n)
  have hn : ((n / 16 / 16 / 16 % 16 * 16 + n / 16 / 16 % 16) * 16 + n / 16 % 16) * 16 + n % 16 = n := by omega
  rw [hn] at hcode
  exact hcode

/-- A character inside a string is printed as a spelling of itself. -/
theorem charSpelled_write (c : Char) : CharSpelled c (writeChar c) := by
  have code : ∀ {n : Nat}, c.toNat = n → c = Char.ofNat n := fun h => h ▸ (Char.ofNat_toNat c).symm
  unfold writeChar
  by_cases hquote : c = '"' ∨ c = '\\'
  · rw [if_pos hquote]
    rcases hquote with rfl | rfl <;> exact .short (by decide)
  rw [if_neg hquote]
  by_cases hline : c = '\n'
  · subst hline
    exact .short (by decide)
  rw [if_neg hline]
  by_cases hreturn : c = '\r'
  · subst hreturn
    exact .short (by decide)
  rw [if_neg hreturn]
  by_cases htab : c = '\t'
  · subst htab
    exact .short (by decide)
  rw [if_neg htab]
  by_cases hback : c.toNat = 8
  · rw [if_pos hback, code hback]
    exact .short (by decide)
  rw [if_neg hback]
  by_cases hfeed : c.toNat = 12
  · rw [if_pos hfeed, code hfeed]
    exact .short (by decide)
  rw [if_neg hfeed]
  by_cases hcontrol : c.toNat < 0x20
  · rw [if_pos hcontrol]
    have hcode := CharSpelled.code (fourHex_write (by omega : c.toNat < 65536)) (by omega)
    rwa [Char.ofNat_toNat] at hcode
  · rw [if_neg hcontrol]
    exact .plain (by omega) (fun h => hquote (.inl h)) fun h => hquote (.inr h)

theorem textSpelled_write (t : Text) : TextSpelled t (t.flatMap writeChar) := by
  induction t with
  | nil => exact .nil
  | cons c t ih => exact .cons (charSpelled_write c) ih

theorem spelled_bool (b : Bool) : Spelled (.bool b) (compact (.bool b)) := by
  cases b
  · exact .no
  · exact .yes

theorem spelled_str (t : Text) : Spelled (.str t) (compact (.str t)) := .str (textSpelled_write t)

theorem spaces_nil : Spaces [] := nofun

theorem fieldSpelled_write {k : Text} {s : Source} {u : Text} (h : Spelled s u) :
    FieldSpelled k s (writeString k ++ ':' :: u) := by
  have hfield := FieldSpelled.mk (textSpelled_write k) spaces_nil spaces_nil h
  simpa [writeString] using hfield

/-- Fields are printed as they are spelled, if their values are. -/
theorem fieldsSpelled_write {fs : List (Text × Source)} {vs : Fields} (hne : vs ≠ [])
    (h : List.Forall₂ (fun f v => f.1 = v.1 ∧ Spelled f.2 (compact v.2)) fs vs) :
    FieldsSpelled fs (compactFields vs) := by
  induction h with
  | nil => exact absurd rfl hne
  | @cons f v fs vs hfield hrest ih =>
    obtain ⟨k, s⟩ := f
    obtain ⟨k', v⟩ := v
    obtain ⟨rfl, hs⟩ := hfield
    have hfirst := fieldSpelled_write (k := k) hs
    cases hrest with
    | nil => simpa [compactFields] using FieldsSpelled.last hfirst spaces_nil
    | cons hnext hrest =>
      simpa [compactFields] using FieldsSpelled.more hfirst spaces_nil spaces_nil (ih (List.cons_ne_nil _ _))

theorem written_obj {fs : List (Text × Source)} {vs : Fields} (hne : vs ≠ [])
    (h : List.Forall₂ (fun f v => f.1 = v.1 ∧ Spelled f.2 (compact v.2)) fs vs) :
    Written (.obj fs) (compact (.obj vs)) := by
  have hobj := Spelled.fields spaces_nil (fieldsSpelled_write hne h)
  exact ⟨[], _, [], by simp [compact], spaces_nil, hobj, spaces_nil⟩

end Json

/-! ## Resolved paths -/

namespace Path

/-- No name on the way is empty or holds a slash. -/
def Proper (names : List Text) : Prop := ∀ n ∈ names, n ≠ [] ∧ '/' ∉ n

theorem proper_read (t : Text) : Proper (read t).names := by
  intro n hn
  obtain ⟨hpiece, hkept⟩ := List.mem_filter.mp hn
  refine ⟨?_, Text.not_mem_of_pieces hpiece⟩
  rintro rfl
  exact absurd hkept (by decide)

theorem mem_climb {names : List Text} {n : Text} (h : n ∈ climb names) : n ∈ names := by
  have hfold : ∀ (names up : List Text),
      n ∈ names.foldl (fun up n => if n = ['.', '.'] then up.drop 1 else n :: up) up →
        n ∈ up ∨ n ∈ names := by
    intro names
    induction names with
    | nil => exact fun up hn => .inl hn
    | cons m names ih =>
      intro up hn
      rcases ih _ hn with hup | hbehind
      · by_cases hm : m = ['.', '.']
        · simp only [hm, if_true] at hup
          exact .inl (List.mem_of_mem_drop hup)
        · simp only [hm, if_false] at hup
          rcases List.mem_cons.mp hup with rfl | hup
          · exact .inr List.mem_cons_self
          · exact .inl hup
      · exact .inr (List.mem_cons_of_mem m hbehind)
  rcases hfold names [] (List.mem_reverse.mp h) with hnil | hn
  · cases hnil
  · exact hn

theorem proper_resolve {current p : Path} (hc : Proper current.names) (hp : Proper p.names) :
    Proper (resolve current p).names := by
  intro n hn
  have hunder := mem_climb hn
  unfold under at hunder
  split at hunder
  · exact hp n hunder
  · rcases List.mem_append.mp hunder with hn | hn
    · exact hc n hn
    · exact hp n hn

/-- The text of an absolute path tells the names on it. -/
theorem write_root_inj {ns ms : List Text} (hn : Proper ns) (hm : Proper ms)
    (h : write ⟨.root, ns⟩ = write ⟨.root, ms⟩) :
    ns = ms := by
  have hjoin : Text.join ['/'] ns = Text.join ['/'] ms := (List.cons.inj h).2
  -- only no names at all are joined to nothing
  have hempty : ∀ {ks : List Text}, Proper ks → Text.join ['/'] ks = [] → ks = [] := by
    intro ks hk hnil
    by_contra hne
    have hpieces := Text.eq_pieces_iff.mpr ⟨hne, fun n hmem => (hk n hmem).2, hnil⟩
    subst hpieces
    exact absurd rfl (hk [] List.mem_cons_self).1
  by_cases hns : ns = []
  · subst hns
    exact (hempty hm hjoin.symm).symm
  by_cases hms : ms = []
  · subst hms
    exact hempty hn hjoin
  rw [Text.eq_pieces_iff.mpr ⟨hns, fun n hmem => (hn n hmem).2, hjoin⟩]
  exact (Text.eq_pieces_iff.mpr ⟨hms, fun n hmem => (hm n hmem).2, rfl⟩).symm

end Path

/-! ## Fingerprints -/

/-- Two strings of octets that differ and have one digest. -/
def Digest.Sha256.Collision (a b : List UInt8) : Prop := a ≠ b ∧ hexDigest a = hexDigest b

namespace Settings

/-- The fields of what is digested, in order of name. -/
def fingerprintFields (s : Settings) (root : Path) : Json.Fields :=
  [("preserve_duplicates".toList, .bool s.keepRepeats),
    ("preserve_whitespace".toList, .bool s.keepGaps),
    ("rank_table_path".toList, .str s.tablePath),
    ("workspace_root".toList, .str root.write)]

theorem sorted_fingerprintValue (s : Settings) (root : Path) :
    Json.sorted (s.fingerprintValue root) = .obj (s.fingerprintFields root) := rfl

theorem canonical_fingerprintValue (s : Settings) (root : Path) :
    Json.canonical (s.fingerprintValue root) = .ok (Json.compact (Json.sorted (s.fingerprintValue root))) := rfl

/-- What is digested is read back. -/
theorem read?_fingerprintText (s : Settings) (root : Path) :
    Json.read? .file (Json.compact (Json.sorted (s.fingerprintValue root))) =
      some (.obj (s.fingerprintFields root)) := by
  rw [sorted_fingerprintValue]
  refine Json.read?_eq_some.mpr ⟨.obj [("preserve_duplicates".toList, .bool s.keepRepeats),
    ("preserve_whitespace".toList, .bool s.keepGaps), ("rank_table_path".toList, .str s.tablePath),
    ("workspace_root".toList, .str root.write)], ?_, ?_, ?_⟩
  · refine Json.written_obj (List.cons_ne_nil _ _) ?_
    exact .cons ⟨rfl, Json.spelled_bool _⟩ (.cons ⟨rfl, Json.spelled_bool _⟩
      (.cons ⟨rfl, Json.spelled_str _⟩ (.cons ⟨rfl, Json.spelled_str _⟩ .nil)))
  · show 1 ≤ 1024
    decide
  · rfl

theorem fingerprintOctets_inj {s s' : Settings} {root root' : Path}
    (h : s.fingerprintOctets root = s'.fingerprintOctets root') :
    s.tablePath = s'.tablePath ∧ s.keepRepeats = s'.keepRepeats ∧ s.keepGaps = s'.keepGaps ∧
      root.write = root'.write := by
  have htext := Text.Utf8.encode_injective h
  have hread := s.read?_fingerprintText root
  rw [htext, read?_fingerprintText] at hread
  simp only [fingerprintFields, Option.some.injEq, Json.obj.injEq, List.cons.injEq, Prod.mk.injEq, true_and, and_true,
    Json.bool.injEq, Json.str.injEq] at hread
  obtain ⟨hrepeats, hgaps, hpath, hroot⟩ := hread
  exact ⟨hpath.symm, hrepeats.symm, hgaps.symm, hroot.symm⟩

/-- A fingerprint is the digest of the canonical text of four things, and these octets tell every one of them: the
path of the table, the choices about repeats and gaps, and the workspace, resolved. -/
theorem fingerprint_exact (s s' : Settings) (current current' root root' : Text) :
    let here := Path.resolve (Path.read current) (Path.read root)
    let there := Path.resolve (Path.read current') (Path.read root')
    let same := s.tablePath = s'.tablePath ∧ s.keepRepeats = s'.keepRepeats ∧
      s.keepGaps = s'.keepGaps ∧ here = there
    (∃ text, Json.canonical (s.fingerprintValue here) = .ok text ∧
      s.fingerprintOctets here = Text.Utf8.encode text) ∧
      (s.fingerprintOctets here = s'.fingerprintOctets there ↔ same) ∧
      (s.fingerprint (Path.read current) (Path.read root) = s'.fingerprint (Path.read current') (Path.read root') ↔
        same ∨ Digest.Sha256.Collision (s.fingerprintOctets here) (s'.fingerprintOctets there)) := by
  intro here there same
  have hoctets : s.fingerprintOctets here = s'.fingerprintOctets there ↔ same := by
    constructor
    · intro h
      obtain ⟨hpath, hrepeats, hgaps, hwrite⟩ := fingerprintOctets_inj h
      have hnames := Path.write_root_inj (Path.proper_resolve (Path.proper_read current) (Path.proper_read root))
        (Path.proper_resolve (Path.proper_read current') (Path.proper_read root')) hwrite
      exact ⟨hpath, hrepeats, hgaps, congrArg (Path.mk .root) hnames⟩
    · intro ⟨hpath, hrepeats, hgaps, hroot⟩
      unfold fingerprintOctets fingerprintValue
      rw [hpath, hrepeats, hgaps, hroot]
  refine ⟨⟨_, s.canonical_fingerprintValue here, rfl⟩, hoctets, ?_⟩
  show Digest.Sha256.hexDigest (s.fingerprintOctets here) = Digest.Sha256.hexDigest (s'.fingerprintOctets there) ↔ _
  constructor
  · intro hdigest
    by_cases h : s.fingerprintOctets here = s'.fingerprintOctets there
    · exact .inl (hoctets.mp h)
    · exact .inr ⟨h, hdigest⟩
  · rintro (hsame | hcollision)
    · rw [hoctets.mpr hsame]
    · exact hcollision.2

end Settings

end ClassTidy
