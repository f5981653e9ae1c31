/-
What `compose_action` accepts. Without a resource type it passes composite
actions through; with one it joins two segments of `_SEGMENT_RE`, and what it
joins can be taken apart again.

The pattern ends in `$`, which also matches before a newline that ends the
string: a segment followed by one newline is let through as a segment.
-/
import BasisGateway.Core.Actions

namespace BasisGateway

/-- A lowercase ASCII letter, then lowercase ASCII letters, digits, `_` or `-`. -/
def Segment (s : String) : Prop :=
  ∃ c cs, s.toList = c :: cs ∧ ('a' ≤ c ∧ c ≤ 'z') ∧
    ∀ d ∈ cs, ('a' ≤ d ∧ d ≤ 'z') ∨ ('0' ≤ d ∧ d ≤ '9') ∨ d = '_' ∨ d = '-'

/-- A segment, and one newline after it. -/
def SegmentAndNewline (s : String) : Prop := ∃ t, s = t ++ "\n" ∧ Segment t

theorem isSegmentChar_iff {d : Char} : isSegmentChar d = true ↔
    ('a' ≤ d ∧ d ≤ 'z') ∨ ('0' ≤ d ∧ d ≤ '9') ∨ d = '_' ∨ d = '-' := by
  simp [isSegmentChar, isLower, or_assoc]

theorem isSegmentChar_newline : isSegmentChar '\n' = false := by decide

/-- The pattern matches the segments, and those that one newline ends. -/
theorem isSegment_iff {s : String} : isSegment s = true ↔ Segment s ∨ SegmentAndNewline s := by
  have hsegment : ∀ t : String, Segment t ↔ ∃ c cs, t.toList = c :: cs ∧ isLower c = true ∧
      cs.all isSegmentChar = true := by
    intro t
    simp [Segment, isLower, isSegmentChar_iff]
  have hnewline : SegmentAndNewline s ↔ ∃ c cs, s.toList = c :: (cs ++ ['\n']) ∧ isLower c = true ∧
      cs.all isSegmentChar = true := by
    constructor
    · intro h
      obtain ⟨t, rfl, ht⟩ := h
      obtain ⟨c, cs, htl, hc, hcs⟩ := (hsegment t).1 ht
      exact ⟨c, cs, by simp [htl], hc, hcs⟩
    · intro h
      obtain ⟨c, cs, hs, hc, hcs⟩ := h
      refine ⟨String.ofList (c :: cs), ?_, (hsegment _).2 ⟨c, cs, by simp, hc, hcs⟩⟩
      rw [← String.toList_inj]
      simp [hs]
  rw [hsegment, hnewline, isSegment]
  cases hs : s.toList with
  | nil => simp
  | cons c cs =>
    rcases List.eq_nil_or_concat cs with rfl | ⟨ds, d, rfl⟩
    · simp
    · by_cases hd : d = '\n'
      · subst hd
        simp [isSegmentChar_newline]
      · simp [hd, or_imp, forall_and]

theorem Segment.not_mem_colon {s : String} (h : Segment s) : ':' ∉ s.toList := by
  obtain ⟨c, cs, hs, hc, hcs⟩ := h
  intro hmem
  rw [hs, List.mem_cons] at hmem
  rcases hmem with rfl | hmem
  · revert hc; decide
  · have hcolon := hcs ':' hmem
    revert hcolon; decide

theorem isSegment.not_mem_colon {s : String} (h : isSegment s = true) : ':' ∉ s.toList := by
  rcases isSegment_iff.1 h with hs | ⟨t, rfl, ht⟩
  · exact hs.not_mem_colon
  · have hcolon := ht.not_mem_colon
    simp [hcolon]

theorem isSegment.not_blank {s : String} (h : isSegment s = true) : blank s = false := by
  rw [blank, List.all_eq_false]
  unfold isSegment at h
  split at h
  next => cases h
  next c cs hs =>
    have hlower : isLower c = true := (Bool.and_eq_true _ _ ▸ h).1
    refine ⟨c, by simp [hs], ?_⟩
    have hbounds : 97 ≤ c.toNat ∧ c.toNat ≤ 122 := by
      simpa [isLower, Char.le_def, UInt32.le_iff_toNat_le] using hlower
    have hspace : isSpace c = false := by
      simp [isSpace]
      omega
    simp [hspace]

theorem isCompositeAction_iff {action : String} : isCompositeAction action = true ↔ ':' ∈ action.toList := by
  simp [isCompositeAction, hasChar]

theorem not_blank_of_mem_colon {action : String} (h : ':' ∈ action.toList) : blank action = false := by
  rw [blank, List.all_eq_false]
  exact ⟨':', h, by decide⟩

section

variable {printable : Char → Bool} {action composed : String}

theorem composeAction_some_eq_ok {resourceType : String} :
    composeAction printable action (some resourceType) = .ok composed ↔
      isSegment action = true ∧ isSegment resourceType = true ∧ composed = action ++ ":" ++ resourceType := by
  constructor
  · intro h
    have hcomposed := composeAction_ok h
    unfold composeAction at h
    split at h
    next => cases h
    next =>
      split at h
      next => cases h
      next =>
        simp only at h
        split at h
        next => cases h
        next =>
          split at h
          next => cases h
          next haction =>
            split at h
            next => cases h
            next hresource => exact ⟨by simpa using haction, by simpa using hresource, hcomposed⟩
  · intro h
    obtain ⟨haction, hresource, rfl⟩ := h
    have hbare : isCompositeAction action = false := by
      rw [← Bool.not_eq_true, isCompositeAction_iff]
      exact isSegment.not_mem_colon haction
    have hne : resourceType ≠ "" := by
      intro he
      subst he
      exact absurd hresource (by decide)
    simp [composeAction, isSegment.not_blank haction, hbare, hne, haction, hresource]

theorem composeAction_none_eq_ok : composeAction printable action none = .ok composed ↔
    ':' ∈ action.toList ∧ composed = action := by
  constructor
  · intro h
    have hcomposed : composed = action := composeAction_ok h
    have hcomposite := isCompositeAction_of_composeAction h
    rw [hcomposed, isCompositeAction_iff] at hcomposite
    exact ⟨hcomposite, hcomposed⟩
  · intro h
    obtain ⟨hcolon, rfl⟩ := h
    simp [composeAction, not_blank_of_mem_colon hcolon, isCompositeAction_iff.2 hcolon]

end

/-! ## Taking it apart -/

/-- `composed.split(":")`. -/
def splitColons (s : String) : List String := (s.toList.splitOn ':').map String.ofList

/-- Two parts without a colon, joined by one. -/
theorem joined_parts {left right : String} (hleft : ':' ∉ left.toList) (hright : ':' ∉ right.toList) :
    (left ++ ":" ++ right).toList.count ':' = 1 ∧ splitColons (left ++ ":" ++ right) = [left, right] := by
  have hjoined : (left ++ ":" ++ right).toList = left.toList ++ ':' :: right.toList := by simp
  constructor
  · rw [hjoined, List.count_append, List.count_cons_self, List.count_eq_zero.2 hleft,
      List.count_eq_zero.2 hright]
  · rw [splitColons, hjoined, List.splitOn_append_cons_self_of_not_mem hleft, List.splitOn_eq_singleton hright]
    simp

theorem splitColons_injective {left right left' right' : String} (hleft : ':' ∉ left.toList)
    (hright : ':' ∉ right.toList) (hleft' : ':' ∉ left'.toList) (hright' : ':' ∉ right'.toList)
    (h : left ++ ":" ++ right = left' ++ ":" ++ right') : left = left' ∧ right = right' := by
  have hparts : [left, right] = [left', right'] := by
    rw [← (joined_parts hleft hright).2, ← (joined_parts hleft' hright').2, h]
  simpa using hparts

/-! ## The grammar -/

/-- On these inputs `compose_action` accepts what its grammar says, makes of it what the grammar says, and
raises nothing but its own error. -/
structure ComposesByGrammar (printable : Char → Bool) (action : String) (resourceType : Option String) :
    Prop where
  supplied : ∀ rt, resourceType = some rt → ∀ composed,
    composeAction printable action resourceType = .ok composed ↔
      Segment action ∧ Segment rt ∧ composed = action ++ ":" ++ rt
  absent : resourceType = none → ∀ composed, composeAction printable action resourceType = .ok composed ↔
    ':' ∈ action.toList ∧ composed = action
  splits : ∀ rt composed, resourceType = some rt → composeAction printable action resourceType = .ok composed →
    composed.toList.count ':' = 1 ∧ splitColons composed = [action, rt]
  rejects : ∀ exc, composeAction printable action resourceType = .error exc → exc.cls = .actionCompositionError

/-- Both inputs are segments, one or both with a newline after it. -/
def NewlineLetThrough (action : String) (resourceType : Option String) : Prop :=
  ∃ rt, resourceType = some rt ∧ (Segment action ∨ SegmentAndNewline action) ∧
    (Segment rt ∨ SegmentAndNewline rt) ∧ (SegmentAndNewline action ∨ SegmentAndNewline rt)

theorem SegmentAndNewline.not_segment {s : String} (h : SegmentAndNewline s) : ¬ Segment s := by
  intro hs
  obtain ⟨t, rfl, c, cs, ht, -⟩ := h
  obtain ⟨c', cs', hs, -, hcs⟩ := hs
  have hnewline : '\n' ∈ cs' := by
    have htail : c = c' ∧ cs' = cs ++ ['\n'] := by simpa [ht, eq_comm] using hs
    simp [htail.2]
  exact absurd (hcs '\n' hnewline) (by decide)

/-- **`compose_action` accepts its grammar**, except for segments with a newline after them. -/
theorem action_grammar_iff (printable : Char → Bool) :
    (∀ action resourceType,
      ComposesByGrammar printable action resourceType ↔ ¬ NewlineLetThrough action resourceType) ∧
    ∀ action rt action' rt' composed, composeAction printable action (some rt) = .ok composed →
      composeAction printable action' (some rt') = .ok composed → action = action' ∧ rt = rt' := by
  constructor
  · intro action resourceType
    constructor
    · rintro h ⟨rt, rfl, haction, hresource, hnewline⟩
      have hok : composeAction printable action (some rt) = .ok (action ++ ":" ++ rt) :=
        composeAction_some_eq_ok.2 ⟨isSegment_iff.2 haction, isSegment_iff.2 hresource, rfl⟩
      have hsegments := (h.supplied rt rfl _).1 hok
      rcases hnewline with hnewline | hnewline
      · exact hnewline.not_segment hsegments.1
      · exact hnewline.not_segment hsegments.2.1
    · intro h
      refine ⟨?_, ?_, ?_, fun exc herr => composeAction_error herr⟩
      · rintro rt rfl composed
        rw [composeAction_some_eq_ok, isSegment_iff, isSegment_iff]
        constructor
        · rintro ⟨haction, hresource, hcomposed⟩
          have hnone : ¬ (SegmentAndNewline action ∨ SegmentAndNewline rt) := by
            intro hnewline
            exact h ⟨rt, rfl, haction, hresource, hnewline⟩
          rw [not_or] at hnone
          exact ⟨haction.resolve_right hnone.1, hresource.resolve_right hnone.2, hcomposed⟩
        · rintro ⟨haction, hresource, hcomposed⟩
          exact ⟨.inl haction, .inl hresource, hcomposed⟩
      · rintro rfl composed
        exact composeAction_none_eq_ok
      · rintro rt composed rfl hok
        obtain ⟨haction, hresource, rfl⟩ := composeAction_some_eq_ok.1 hok
        exact joined_parts (isSegment.not_mem_colon haction) (isSegment.not_mem_colon hresource)
  · intro action rt action' rt' composed h h'
    obtain ⟨haction, hresource, hcomposed⟩ := composeAction_some_eq_ok.1 h
    obtain ⟨haction', hresource', hcomposed'⟩ := composeAction_some_eq_ok.1 h'
    exact splitColons_injective (isSegment.not_mem_colon haction) (isSegment.not_mem_colon hresource)
      (isSegment.not_mem_colon haction') (isSegment.not_mem_colon hresource') (hcomposed.symm.trans hcomposed')

/-- A verb with a newline after it is composed. -/
theorem newline_composes : ¬ ComposesByGrammar asciiTables.printable "read\n" (some "ahu") := by
  intro h
  have hok : composeAction asciiTables.printable "read\n" (some "ahu") = .ok ("read\n" ++ ":" ++ "ahu") :=
    composeAction_some_eq_ok.2 ⟨by decide, by decide, rfl⟩
  have hsegment : Segment "read\n" := ((h.supplied "ahu" rfl _).1 hok).1
  have hnewline : SegmentAndNewline "read\n" :=
    ⟨"read", by rfl, 'r', ['e', 'a', 'd'], by decide, by decide, by simp⟩
  exact hnewline.not_segment hsegment

end BasisGateway
