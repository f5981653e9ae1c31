/-
Occurrences of one list in another, by their offsets. Two occurrences may
overlap each other.
-/
import Mathlib.Data.List.Infix

namespace Occurrences

variable {α : Type} {needle hay : List α} {i j : Nat}

/-- `needle` occurs in `hay` at the offset `i`. -/
def OccursAt (needle hay : List α) (i : Nat) : Prop := needle <+: hay.drop i

/-- `needle` occurs at `i` and at no offset before it. -/
def FirstAt (needle hay : List α) (i : Nat) : Prop :=
  OccursAt needle hay i ∧ ∀ j, OccursAt needle hay j → i ≤ j

/-- No two offsets. -/
def AtMostOnce (needle hay : List α) : Prop :=
  ∀ i j, OccursAt needle hay i → OccursAt needle hay j → i = j

theorem occursAt_zero : OccursAt needle hay 0 ↔ needle <+: hay := by simp [OccursAt]

theorem occursAt_succ {a : α} : OccursAt needle (a :: hay) (i + 1) ↔ OccursAt needle hay i := by
  simp [OccursAt]

theorem not_occursAt_nil (hne : needle ≠ []) : ¬ OccursAt needle [] i := by
  simp [OccursAt, hne]

theorem occursAt_length_append {before after : List α} :
    OccursAt needle (before ++ after) before.length ↔ needle <+: after := by
  simp [OccursAt]

theorem OccursAt.length_le (h : OccursAt needle hay i) (hne : needle ≠ []) : i + needle.length ≤ hay.length := by
  have hle := List.IsPrefix.length_le h
  have hpos : 0 < needle.length := List.length_pos_iff.2 hne
  rw [List.length_drop] at hle
  omega

/-- An occurrence shows in the elements. -/
theorem OccursAt.getElem? (h : OccursAt needle hay i) {k : Nat} (hk : k < needle.length) :
    hay[i + k]? = needle[k]? := by
  obtain ⟨rest, hrest⟩ := h
  rw [← List.getElem?_drop, ← hrest, List.getElem?_append_left hk]

theorem OccursAt.mem_take {n k : Nat} {a : α} (h : OccursAt needle hay i) (ha : needle[k]? = some a)
    (hn : i + k < n) : a ∈ hay.take n := by
  obtain ⟨hk, -⟩ := List.getElem?_eq_some_iff.1 ha
  have hget := h.getElem? hk
  rw [List.mem_iff_getElem?]
  exact ⟨i + k, by rw [List.getElem?_take_of_lt hn, hget, ha]⟩

theorem OccursAt.mem_drop {n k : Nat} {a : α} (h : OccursAt needle hay i) (ha : needle[k]? = some a)
    (hn : n ≤ i + k) : a ∈ hay.drop n := by
  obtain ⟨hk, -⟩ := List.getElem?_eq_some_iff.1 ha
  have hget := h.getElem? hk
  rw [List.mem_iff_getElem?]
  refine ⟨i + k - n, ?_⟩
  rw [List.getElem?_drop, Nat.add_sub_cancel' hn, hget, ha]

theorem FirstAt.unique (h : FirstAt needle hay i) (h' : FirstAt needle hay j) : i = j := by
  have hij := h.2 j h'.1
  have hji := h'.2 i h.1
  omega

end Occurrences
