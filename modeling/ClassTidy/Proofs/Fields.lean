/-
  ClassTidy.Proofs.Fields — looking up the fields of an object.

  An object has each name once, so a lookup finds what is there whatever the order
  (`lookup_eq_some_iff`). Fields that are set one after the other give such an object
  (`nodup_values`), and of fields with one name the last stays (`field?_putAll`).
-/
import Mathlib.Data.List.Nodup
import ClassTidy.Json.Basic

namespace ClassTidy.Json

/-! ## Lookups -/

theorem field?_eq_lookup (fields : Fields) (name : Text) : field? fields name = fields.lookup name := by
  induction fields with
  | nil => rfl
  | cons f fields ih =>
    obtain ⟨k, v⟩ := f
    by_cases hname : k = name
    · simp [field?, hname]
    · have hbeq : (name == k) = false := beq_eq_false_iff_ne.mpr (Ne.symm hname)
      simp [field?, List.lookup_cons, hname, hbeq, ih]

/-- Where no name comes twice, a lookup finds what is there. -/
theorem lookup_eq_some_iff {α : Type} {l : List (Text × α)} (hn : (l.map (·.1)).Nodup) {name : Text} {a : α} :
    l.lookup name = some a ↔ (name, a) ∈ l := by
  induction l with
  | nil => simp
  | cons x l ih =>
    obtain ⟨k, b⟩ := x
    obtain ⟨hk, hn⟩ := List.nodup_cons.mp hn
    by_cases hname : name = k
    · subst hname
      have hout : ∀ c, (name, c) ∉ l := fun c hc => hk (List.mem_map.mpr ⟨(name, c), hc, rfl⟩)
      simp [hout, eq_comm]
    · have hbeq : (name == k) = false := beq_eq_false_iff_ne.mpr hname
      simp [List.lookup_cons, hbeq, hname, ih hn]

/-- The order of fields does not matter to a lookup. -/
theorem field?_of_perm {fields other : Fields} (hn : (fields.map (·.1)).Nodup) (h : other.Perm fields) (name : Text) :
    field? other name = field? fields name := by
  have hother : (other.map (·.1)).Nodup := (h.map _).nodup_iff.mpr hn
  refine Option.ext fun v => ?_
  rw [field?_eq_lookup, field?_eq_lookup, lookup_eq_some_iff hn, lookup_eq_some_iff hother, h.mem_iff]

theorem field?_filter {fields : Fields} {p : Text → Bool} {name : Text} (h : p name = true) :
    field? (fields.filter fun f => p f.1) name = field? fields name := by
  induction fields with
  | nil => rfl
  | cons f fields ih =>
    obtain ⟨k, v⟩ := f
    by_cases hk : k = name
    · subst hk
      simp [field?, h]
    · by_cases hp : p k = true
      · simp [field?, hp, hk, ih]
      · simp [field?, hp, hk, ih]

/-! ## Setting fields -/

/-- Fields set one after the other. -/
def putAll (before fields : Fields) : Fields := fields.foldl (fun all f => put all f.1 f.2) before

theorem field?_put (fields : Fields) (k : Text) (v : Json) (name : Text) :
    field? (put fields k v) name = if k = name then some v else field? fields name := by
  induction fields with
  | nil => rfl
  | cons f fields ih =>
    obtain ⟨k', w⟩ := f
    by_cases hk : k' = k
    · subst hk
      by_cases hname : k' = name <;> simp [put, field?, hname]
    · by_cases hname : k' = name
      · subst hname
        simp [put, field?, hk, Ne.symm hk]
      · simp [put, field?, hk, hname, ih]

theorem names_put (fields : Fields) (k : Text) (v : Json) :
    (put fields k v).map (·.1) = if k ∈ fields.map (·.1) then fields.map (·.1) else fields.map (·.1) ++ [k] := by
  induction fields with
  | nil => rfl
  | cons f fields ih =>
    obtain ⟨k', w⟩ := f
    by_cases hk : k' = k
    · simp [put, hk]
    · simp only [put, hk, if_false, List.map_cons, ih, List.mem_cons, Ne.symm hk, false_or]
      split <;> rfl

theorem nodup_put {fields : Fields} (h : (fields.map (·.1)).Nodup) (k : Text) (v : Json) :
    ((put fields k v).map (·.1)).Nodup := by
  rw [names_put]
  split
  · exact h
  · rename_i hk
    refine List.nodup_append.mpr ⟨h, List.nodup_singleton k, fun a ha b hb hab => ?_⟩
    rw [hab, List.mem_singleton.mp hb] at ha
    exact hk ha

theorem nodup_putAll {before : Fields} (h : (before.map (·.1)).Nodup) (fields : Fields) :
    ((putAll before fields).map (·.1)).Nodup := by
  induction fields generalizing before with
  | nil => exact h
  | cons f fields ih => exact ih (nodup_put h f.1 f.2)

theorem nodup_values (fields : Fields) : ((putAll [] fields).map (·.1)).Nodup := by
  have hnone : (([] : Fields).map (·.1)).Nodup := List.nodup_nil
  exact nodup_putAll hnone fields

/-- The field of a name that is set last is the one that is found. -/
theorem field?_putAll (before fields : Fields) (name : Text) :
    field? (putAll before fields) name = (fields.reverse.lookup name).or (field? before name) := by
  induction fields generalizing before with
  | nil => rfl
  | cons f fields ih =>
    obtain ⟨k, v⟩ := f
    have hstep : putAll before ((k, v) :: fields) = putAll (put before k v) fields := rfl
    rw [hstep, ih, field?_put, List.reverse_cons, List.lookup_append, Option.or_assoc]
    congr 1
    by_cases hname : k = name
    · simp [hname]
    · have hbeq : (name == k) = false := beq_eq_false_iff_ne.mpr (Ne.symm hname)
      simp [List.lookup_cons, hname, hbeq]

end ClassTidy.Json
