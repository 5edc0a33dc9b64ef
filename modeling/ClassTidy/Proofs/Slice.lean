/-
  ClassTidy.Proofs.Slice — what stands where in a text.

  `Stands t i p`: the text `p` stands at offset `i` of `t`. A slice stands where it was
  taken from, what is found stands where it is found, and what stands somewhere in a text
  that itself stands in another stands there too. A text that stands somewhere and is not
  empty ends within the text around it, and is the slice of its own range.
-/
import Mathlib.Data.List.Basic
import ClassTidy.Text.Basic

namespace ClassTidy.Text

/-- `p` stands at offset `i` of `t`. -/
def Stands (t : Text) (i : Nat) (p : Text) : Prop := p <+: t.drop i

variable {t p q : Text} {i j : Nat}

theorem stands_zero : Stands t 0 p ↔ p <+: t := by simp [Stands]

theorem stands_cons {c : Char} : Stands (c :: t) (i + 1) p ↔ Stands t i p := Iff.rfl

theorem stands_slice (t : Text) (i j : Nat) : Stands t i (slice t i j) := List.take_prefix _ _

theorem Stands.slice (h : Stands t i p) : slice t i (i + p.length) = p := by
  have e := List.prefix_iff_eq_take.mp h
  rw [Text.slice, Nat.add_sub_cancel_left]; exact e.symm

theorem Stands.le_length (h : Stands t i p) (hp : p ≠ []) : i + p.length ≤ t.length := by
  have hl := h.length_le
  have hpos := List.length_pos_iff.mpr hp
  rw [List.length_drop] at hl
  omega

theorem Stands.getElem? (h : Stands t i p) (hj : j < p.length) : t[i + j]? = p[j]? := by
  rw [← List.getElem?_drop, List.getElem?_eq_getElem hj]
  exact List.prefix_iff_getElem?.mp h j hj

/-- What stands in a text that stands in another stands there too. -/
theorem Stands.inner (h : Stands t i p) (hq : Stands p j q) : Stands t (i + j) q := by
  obtain ⟨rest, hrest⟩ := h
  have hd : t.drop (i + j) = (p ++ rest).drop j := by rw [hrest, List.drop_drop]
  rw [Stands, hd]
  by_cases hj : j ≤ p.length
  · rw [List.drop_append_of_le_length hj]
    exact hq.trans (List.prefix_append _ _)
  · have hnil : p.drop j = [] := List.drop_eq_nil_of_le (by omega)
    rw [Stands, hnil, List.prefix_nil] at hq
    rw [hq]; exact List.nil_prefix

theorem mem_slice {c : Char} {k : Nat} (h : t[k]? = some c) (hi : i ≤ k) (hj : k < j) : c ∈ Text.slice t i j := by
  have hget : (Text.slice t i j)[k - i]? = some c := by
    rw [Text.slice, List.getElem?_take_of_lt (by omega), List.getElem?_drop, Nat.add_sub_cancel' hi, h]
  exact List.mem_of_getElem? hget

theorem exists_of_mem_slice {c : Char} (h : c ∈ Text.slice t i j) : ∃ k, t[k]? = some c ∧ i ≤ k ∧ k < j := by
  obtain ⟨k, hk⟩ := List.mem_iff_getElem?.mp h
  obtain ⟨hlt, -⟩ := List.getElem?_eq_some_iff.mp hk
  rw [Text.slice, List.length_take] at hlt
  rw [Text.slice, List.getElem?_take_of_lt (by omega), List.getElem?_drop] at hk
  exact ⟨i + k, hk, by omega, by omega⟩

/-- What is found stands where it is found. -/
theorem find?_stands (h : find? p t = some i) : Stands t i p := by
  induction t generalizing i with
  | nil =>
    simp only [find?] at h
    split at h
    · obtain rfl : 0 = i := by simpa using h
      exact stands_zero.mpr (List.isPrefixOf_iff_prefix.mp ‹_›)
    · cases h
  | cons c t ih =>
    simp only [find?] at h
    split at h
    · obtain rfl : 0 = i := by simpa using h
      exact stands_zero.mpr (List.isPrefixOf_iff_prefix.mp ‹_›)
    · obtain ⟨k, hk, rfl⟩ := Option.map_eq_some_iff.mp h
      exact stands_cons.mpr (ih hk)

/-- What stands somewhere is found, there or before. -/
theorem Stands.find? (h : Stands t i p) (hi : i ≤ t.length) : ∃ j ≤ i, Text.find? p t = some j := by
  induction t generalizing i with
  | nil =>
    obtain rfl : i = 0 := Nat.eq_zero_of_le_zero hi
    exact ⟨0, Nat.le_refl 0, if_pos (List.isPrefixOf_iff_prefix.mpr (stands_zero.mp h))⟩
  | cons c t ih =>
    by_cases hp : p.isPrefixOf (c :: t) = true
    · exact ⟨0, Nat.zero_le i, if_pos hp⟩
    · cases i with
      | zero => exact absurd (List.isPrefixOf_iff_prefix.mpr (stands_zero.mp h)) hp
      | succ i =>
        obtain ⟨j, hj, hfind⟩ := ih (stands_cons.mp h) (by simpa using hi)
        exact ⟨j + 1, by omega, by rw [Text.find?, if_neg hp, hfind]; rfl⟩

end ClassTidy.Text
