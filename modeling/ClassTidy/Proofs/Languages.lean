/-
  ClassTidy.Proofs.Languages — the languages in use, told exactly.

  A custom language takes the place of the one with its id, or comes last. So it is the
  language of its id from then on (`find?_override`), and the ids stay as they are or get
  one more at the end (`ids_override`). Over a list of custom languages that makes the last
  one of an id stay (`find?_overrideAll`), and puts each new id where it first occurs
  (`ids_overrideAll`).

  Proved (`languages_exact`): the ids in use are the built-in ones that are kept and then the
  others, without repeats; each has the last custom language of its id, or else the built-in
  one; and a registry has the same ids with the same languages.
-/
import Mathlib.Data.List.Induction
import ClassTidy.Proofs.RuleFaults

namespace ClassTidy

namespace Language

/-! ## One custom language -/

theorem find?_override (l : Language) (ls : List Language) (id : Text) :
    (override l ls).find? (fun m => m.id = id) = if l.id = id then some l else ls.find? fun m => m.id = id := by
  induction ls with
  | nil => by_cases hid : l.id = id <;> simp [override, hid]
  | cons m ms ih =>
    rw [override]
    split
    · rename_i hm
      by_cases hid : l.id = id
      · simp [hid]
      · simp [hid, hm]
    · rename_i hm
      rw [List.find?_cons, List.find?_cons, ih]
      by_cases hid : l.id = id
      · have hne : m.id ≠ id := fun e => hm (e.trans hid.symm)
        simp [hid, hne]
      · simp [hid]

theorem ids_override (l : Language) (ls : List Language) :
    (override l ls).map (·.id) = if l.id ∈ ls.map (·.id) then ls.map (·.id) else ls.map (·.id) ++ [l.id] := by
  induction ls with
  | nil => simp [override]
  | cons m ms ih =>
    rw [override]
    split
    · rename_i hm
      simp [hm]
    · rename_i hm
      have hmem : l.id ∈ (m :: ms).map (·.id) ↔ l.id ∈ ms.map (·.id) := by
        rw [List.map_cons, List.mem_cons, or_iff_right (Ne.symm hm)]
      rw [List.map_cons, ih]
      simp only [hmem]
      split <;> rfl

theorem nodup_override {ls : List Language} (h : (ls.map (·.id)).Nodup) (l : Language) :
    ((override l ls).map (·.id)).Nodup := by
  rw [ids_override]
  split
  · exact h
  · rename_i hnew
    exact List.nodup_append.mpr ⟨h, List.nodup_singleton _,
      fun a ha b hb e => hnew (by rwa [← List.mem_singleton.mp hb, ← e])⟩

/-! ## All custom languages -/

/-- Custom languages put over others, one after the other. -/
def overrideAll (custom ls : List Language) : List Language := custom.foldl (fun ls l => override l ls) ls

theorem overrideAll_append (custom : List Language) (l : Language) (ls : List Language) :
    overrideAll (custom ++ [l]) ls = override l (overrideAll custom ls) := by
  simp [overrideAll]

/-- The last custom language of an id stays. -/
theorem find?_overrideAll (custom ls : List Language) (id : Text) :
    (overrideAll custom ls).find? (fun m => m.id = id) =
      (custom.reverse.find? fun m => m.id = id).or (ls.find? fun m => m.id = id) := by
  induction custom using List.reverseRecOn with
  | nil => rfl
  | append_singleton custom l ih =>
    rw [overrideAll_append, find?_override, ih, List.reverse_append, List.reverse_singleton,
      List.singleton_append, List.find?_cons]
    by_cases hid : l.id = id <;> simp [hid]

theorem eraseDups_concat (ids : List Text) (id : Text) :
    (ids ++ [id]).eraseDups = if id ∈ ids then ids.eraseDups else ids.eraseDups ++ [id] := by
  rw [List.eraseDups_append]
  by_cases h : id ∈ ids <;> simp [List.removeAll, List.eraseDups_cons, h]

/-- Each new id is put where it first occurs. -/
theorem ids_overrideAll (custom ls : List Language) :
    (overrideAll custom ls).map (·.id) =
      ls.map (·.id) ++ ((custom.map (·.id)).filter fun id => !(ls.map (·.id)).contains id).eraseDups := by
  induction custom using List.reverseRecOn with
  | nil => simp [overrideAll]
  | append_singleton custom l ih =>
    rw [overrideAll_append, ids_override, ih, List.map_append, List.filter_append]
    by_cases hkept : l.id ∈ ls.map (·.id)
    · rw [if_pos (List.mem_append_left _ hkept), List.map_singleton, List.filter_cons_of_neg (by simpa using hkept),
        List.filter_nil, List.append_nil]
    · rw [List.map_singleton, List.filter_cons_of_pos (by simpa using hkept), List.filter_nil, eraseDups_concat]
      simp only [List.mem_append, hkept, false_or, List.mem_eraseDups]
      split
      · rfl
      · rw [List.append_assoc]

theorem nodup_overrideAll {ls : List Language} (h : (ls.map (·.id)).Nodup) (custom : List Language) :
    ((overrideAll custom ls).map (·.id)).Nodup := by
  induction custom using List.reverseRecOn with
  | nil => exact h
  | append_singleton custom l ih =>
    rw [overrideAll_append]
    exact nodup_override ih l

end Language

/-! ## The languages in use -/

/-- The built-in languages that settings keep. -/
def Settings.kept (s : Settings) : List Language :=
  Language.builtin.filter fun l => s.enabled.isEmpty || s.enabled.contains l.id

theorem Settings.languages_eq (s : Settings) : s.languages = Language.overrideAll s.custom s.kept := by
  unfold languages kept Language.overrideAll
  by_cases h : s.enabled.isEmpty = true <;> simp [h]

theorem Settings.nodup_kept (s : Settings) : (s.kept.map (·.id)).Nodup := by
  have hall : (Language.builtin.map (·.id)).Nodup := by decide
  exact hall.sublist (List.filter_sublist.map _)

theorem Registry.ids_lenient (s : Settings) : (lenient s).ids = s.languages.map (·.id) := List.map_map

theorem Registry.language?_lenient (s : Settings) (id : Text) :
    (lenient s).language? id = (s.languages.find? fun l => l.id = id).map compileLanguage := List.find?_map

/-- The ids in use are the built-in ones that are kept, in their order, and then the custom ones that are not among
them, in the order in which they first occur; no id occurs twice. The language of an id is the last custom one with
that id, or else the built-in one. A registry that is built has the same ids in the same order, each with the rules of
its language. -/
theorem languages_exact (s : Settings) :
    s.languages.map (·.id) =
      s.kept.map (·.id) ++ ((s.custom.map (·.id)).filter fun id => !(s.kept.map (·.id)).contains id).eraseDups ∧
    (s.languages.map (·.id)).Nodup ∧
    (∀ id, (s.languages.find? fun l => l.id = id) =
      (s.custom.reverse.find? fun l => l.id = id).or (s.kept.find? fun l => l.id = id)) ∧
    (∀ strict r, Registry.build s strict = .ok r → r.ids = s.languages.map (·.id) ∧
      ∀ id, r.language? id = (s.languages.find? fun l => l.id = id).map Registry.compileLanguage) ∧
    (Registry.breakdown? s = none → ∃ r, Registry.build s false = .ok r) := by
  refine ⟨?_, ?_, fun id => ?_, fun strict r hr => ?_,
    fun hnone => ⟨_, Registry.build_eq_ok.mpr ⟨hnone, nofun, rfl⟩⟩⟩
  · rw [s.languages_eq, Language.ids_overrideAll]
  · rw [s.languages_eq]
    exact Language.nodup_overrideAll s.nodup_kept s.custom
  · rw [s.languages_eq, Language.find?_overrideAll]
  · obtain ⟨-, -, rfl⟩ := Registry.build_eq_ok.mp hr
    exact ⟨Registry.ids_lenient s, Registry.language?_lenient s⟩

/-- A custom language given twice, one in the place of a language that is kept, and one with the id of a language that
is not. -/
example :
    let custom (id : String) (rules : List RawRule) : Language := ⟨id.toList, rules⟩
    let s : Settings := { Settings.default with
      enabled := ["vue".toList, "html".toList],
      custom := [custom "svelte" [], custom "vue" Language.htmlRules, custom "ruby" [],
        custom "svelte" Language.jsxRules] }
    s.languages = [custom "html" Language.htmlRules, custom "vue" Language.htmlRules, custom "svelte" Language.jsxRules,
      custom "ruby" []] := by decide

end ClassTidy
