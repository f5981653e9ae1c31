/-
Lists cut at the occurrences of a separator, and lists cut down at both ends
to where the elements of a class stop.
-/
import Mathlib.Data.List.DropRight
import Mathlib.Data.List.TakeWhile

namespace Separators

variable {α : Type}

/-! ## Between separators -/

/-- What stands before, between and after the occurrences of `sep`, in order. -/
structure Parts (sep : α) (whole : List α) (parts : List (List α)) : Prop where
  joined : [sep].intercalate parts = whole
  ne_nil : parts ≠ []
  free : ∀ part ∈ parts, sep ∉ part

section

variable [BEq α] [LawfulBEq α] {sep : α} {whole : List α}

theorem not_mem_of_mem_splitOn {part : List α} (h : part ∈ whole.splitOn sep) : sep ∉ part := by
  induction whole generalizing part with
  | nil =>
    rw [List.splitOn_nil, List.mem_singleton] at h
    simp [h]
  | cons a whole ih =>
    rw [List.splitOn_cons_eq_if_modifyHead] at h
    cases hparts : whole.splitOn sep with
    | nil => exact absurd hparts (List.splitOn_ne_nil sep whole)
    | cons first rest =>
      rw [hparts] at h ih
      by_cases ha : a = sep
      · simp only [ha, beq_self_eq_true, if_true, List.mem_cons] at h
        rcases h with rfl | h
        · simp
        · exact ih (by simpa using h)
      · have hne : (a == sep) = false := by simpa using ha
        simp only [hne, Bool.false_eq_true, if_false, List.modifyHead_cons, List.mem_cons] at h
        rcases h with rfl | h
        · have hfirst := ih (List.mem_cons_self ..)
          simp [hfirst, Ne.symm ha]
        · exact ih (List.mem_cons_of_mem _ h)

theorem parts_splitOn (sep : α) (whole : List α) : Parts sep whole (whole.splitOn sep) where
  joined := List.intercalate_splitOn sep
  ne_nil := List.splitOn_ne_nil sep whole
  free _ := not_mem_of_mem_splitOn

theorem Parts.splitOn_eq {parts : List (List α)} (h : Parts sep whole parts) : whole.splitOn sep = parts := by
  rw [← h.joined, List.splitOn_intercalate sep h.free h.ne_nil]

end

theorem mem_intercalate {α : Type} {sep : List α} {parts : List (List α)} {part : List α} {a : α}
    (hpart : part ∈ parts) (ha : a ∈ part) : a ∈ sep.intercalate parts := by
  obtain ⟨i, hi⟩ := List.mem_iff_getElem?.1 hpart
  rw [List.intercalate, List.mem_flatten]
  exact ⟨part, List.mem_iff_getElem?.2 ⟨2 * i, by rw [List.getElem?_intersperse_two_mul, hi]⟩, ha⟩

/-! ## Between blanks -/

/-- `core` stands between elements of `p`, and neither begins nor ends with one. -/
structure Trims (p : α → Bool) (whole core : List α) : Prop where
  between : ∃ before after, whole = before ++ core ++ after ∧ (∀ a ∈ before, p a = true) ∧ ∀ a ∈ after, p a = true
  first : ∀ a ∈ core.head?, p a = false
  last : ∀ a ∈ core.getLast?, p a = false

section

variable {p : α → Bool} {whole core : List α}

theorem head?_dropWhile (p : α → Bool) (whole : List α) : ∀ a ∈ (whole.dropWhile p).head?, p a = false := by
  intro a ha
  have hnot := List.head?_dropWhile_not p whole
  rw [Option.mem_def.1 ha] at hnot
  exact hnot

theorem trims_dropWhile (p : α → Bool) (whole : List α) : Trims p whole ((whole.dropWhile p).rdropWhile p) where
  between := by
    refine ⟨whole.takeWhile p, (whole.dropWhile p).rtakeWhile p, ?_, ?_, ?_⟩
    · rw [List.append_assoc, List.rdropWhile_append_rtakeWhile, List.takeWhile_append_dropWhile]
    · intro a ha
      exact List.mem_takeWhile_imp ha
    · intro a ha
      exact List.mem_rtakeWhile_imp ha
  first := by
    intro a ha
    obtain ⟨rest, hrest⟩ := List.rdropWhile_prefix p (whole.dropWhile p)
    refine head?_dropWhile p whole a ?_
    cases hcore : (whole.dropWhile p).rdropWhile p with
    | nil => simp [hcore] at ha
    | cons b core =>
      rw [hcore] at ha hrest
      rw [← hrest]
      exact ha
  last := by
    intro a ha
    have hne : (whole.dropWhile p).rdropWhile p ≠ [] := by
      intro hnil
      simp [hnil] at ha
    have hlast := List.rdropWhile_last_not p (whole.dropWhile p) hne
    rw [List.getLast?_eq_some_getLast hne, Option.mem_some_iff] at ha
    simpa [ha] using hlast

/-- What is trimmed is determined. -/
theorem Trims.eq_dropWhile (h : Trims p whole core) : (whole.dropWhile p).rdropWhile p = core := by
  obtain ⟨before, after, rfl, hbefore, hafter⟩ := h.between
  have hfirst := h.first
  have hlast := h.last
  have hrdrop : ∀ l : List α, (l ++ after).rdropWhile p = l.rdropWhile p := by
    intro l
    have hrev : ∀ a ∈ after.reverse, p a = true := fun a ha => hafter a (List.mem_reverse.1 ha)
    rw [List.rdropWhile, List.rdropWhile, List.reverse_append, List.dropWhile_append_of_pos hrev]
  rw [List.append_assoc, List.dropWhile_append_of_pos hbefore]
  cases core with
  | nil =>
    rw [List.nil_append, List.dropWhile_eq_nil_iff.2 hafter, List.rdropWhile_nil]
  | cons b core =>
    have hb : p b = false := hfirst b rfl
    rw [List.cons_append, List.dropWhile_cons_of_neg (by simp [hb]), ← List.cons_append, hrdrop,
      List.rdropWhile_eq_self_iff]
    intro hne
    rw [hlast _ (List.getLast?_eq_some_getLast hne)]
    exact Bool.false_ne_true

theorem trims_iff : Trims p whole core ↔ (whole.dropWhile p).rdropWhile p = core := by
  constructor
  · intro h
    exact h.eq_dropWhile
  · intro h
    rw [← h]
    exact trims_dropWhile p whole

end

end Separators
