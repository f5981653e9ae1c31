/-
Whether `/ready` answers for one state of the tracker. Its four reads are
atomic, each on its own: calls that fall between them can leave it with the
components of one state, the verdict of another and the reasons of a third.

The answer agrees with itself exactly when what the calls between the reads
come to leaves the same components down (`ReadsAgree`). The audit writer
breaks this by crossing its threshold, or by recovering, at the wrong moment.
-/
import BasisGateway.Api.ReadyHandler

namespace BasisGateway

/-! ## What an answer says -/

/-- A field of the body. -/
def JSONResponse.field? (r : JSONResponse) (key : String) : Option Json :=
  match r.content with
  | .obj fields => Json.get? key fields
  | _ => none

/-- The entries of an object in the body; none when it was left out. -/
def JSONResponse.object (r : JSONResponse) (key : String) : List (String × Json) :=
  match r.field? key with
  | some (.obj entries) => entries
  | _ => []

/-- The components that the answer shows, its status, its reasons and its reason say the same. -/
structure SelfConsistent (r : JSONResponse) : Prop where
  ready : r.statusCode = 200 → ∀ c, (c, Json.bool false) ∉ r.object "components"
  down : r.statusCode = 503 → ∃ c, (c, Json.bool false) ∈ r.object "components"
  reasons : r.statusCode = 503 →
    ∀ c, c ∈ (r.object "reasons").map Prod.fst ↔ (c, Json.bool false) ∈ r.object "components"
  reason : r.statusCode = 503 →
    ∃ text, r.field? "reason" = some (.str text) ∧ Json.str text ∈ (r.object "reasons").map Prod.snd

namespace ReadinessState

/-- The component is registered, and not ready. -/
def Down (s : ReadinessState) (c : String) : Prop := s.components.get? c = some false

theorem mem_components_iff {s : ReadinessState} {c : String} :
    (c, Json.bool false) ∈ s.components.entries.map (fun e => (e.1, Json.bool e.2)) ↔ s.Down c := by
  rw [Down, OrderedDict.get?_eq_some_iff, List.mem_map]
  constructor
  · intro h
    obtain ⟨⟨c', flag⟩, hmem, heq⟩ := h
    simp only [Prod.mk.injEq, Json.bool.injEq] at heq
    obtain ⟨rfl, rfl⟩ := heq
    exact hmem
  · intro h
    exact ⟨(c, false), h, rfl⟩

theorem mem_allReasons_iff {s : ReadinessState} {c text : String} :
    (c, text) ∈ s.allReasons ↔ s.Down c ∧ s.reasonOf c = text := by
  rw [Down, OrderedDict.get?_eq_some_iff, allReasons, List.mem_map]
  constructor
  · intro h
    obtain ⟨⟨c', flag⟩, hmem, heq⟩ := h
    simp only [List.mem_filter, Bool.not_eq_true', Prod.mk.injEq] at hmem heq
    obtain ⟨hentry, rfl⟩ := hmem
    obtain ⟨rfl, rfl⟩ := heq
    exact ⟨hentry, rfl⟩
  · intro h
    obtain ⟨hmem, rfl⟩ := h
    exact ⟨(c, false), List.mem_filter.2 ⟨hmem, rfl⟩, rfl⟩

/-- With something registered, the whole is ready when nothing is down. -/
theorem isReady_iff_not_down {s : ReadinessState} (h : ∃ c, (s.components.get? c).isSome = true) :
    s.isReady = true ↔ ¬ ∃ c, s.Down c := by
  rw [isReady_iff, not_exists]
  constructor
  · intro hready
    exact hready.2
  · intro hdown
    exact ⟨h, hdown⟩

theorem reason_of_down {s : ReadinessState} (h : ∃ c, s.Down c) :
    ∃ c, s.Down c ∧ s.reason = s.reasonOf c := by
  obtain ⟨c, hc⟩ := h
  rw [reason]
  cases hfind : s.components.entries.find? (fun e => !e.2) with
  | none =>
    have hnot := List.find?_eq_none.1 hfind (c, false) ((s.components.get?_eq_some_iff c false).1 hc)
    exact absurd rfl hnot
  | some e =>
    obtain ⟨c', flag⟩ := e
    have hflag : flag = false := by simpa using List.find?_some hfind
    subst hflag
    exact ⟨c', (s.components.get?_eq_some_iff c' false).2 (List.mem_of_find?_eq_some hfind), rfl⟩

theorem reason_of_not_down {s : ReadinessState} (h : ¬ ∃ c, s.Down c) : s.reason = "" := by
  rw [reason]
  cases hfind : s.components.entries.find? (fun e => !e.2) with
  | none => rfl
  | some e =>
    obtain ⟨c, flag⟩ := e
    have hflag : flag = false := by simpa using List.find?_some hfind
    subst hflag
    exact absurd ⟨c, (s.components.get?_eq_some_iff c false).2 (List.mem_of_find?_eq_some hfind)⟩ h

end ReadinessState

/-- `reason or "application not initialized"`. -/
def shownReason (reason : String) : String := if reason = "" then "application not initialized" else reason

section

variable {correlationId : String} {shown probed listed first : ReadinessState}

theorem object_of_field {r : JSONResponse} {key : String} {fields : List (String × Json)}
    (h : r.field? key = nonEmptyObject fields) : r.object key = fields := by
  rw [JSONResponse.object, h, nonEmptyObject]
  cases fields with
  | nil => rfl
  | cons e es => rfl

theorem field?_components :
    (readyResponse correlationId shown probed listed first).field? "components" =
      nonEmptyObject (shown.components.entries.map fun e => (e.1, .bool e.2)) := by
  unfold readyResponse
  generalize nonEmptyObject (shown.components.entries.map fun e => (e.1, Json.bool e.2)) = components
  generalize nonEmptyObject (listed.allReasons.map fun e => (e.1, Json.str e.2)) = reasons
  cases probed.isReady with
  | true => cases components <;> rfl
  | false => cases components <;> cases reasons <;> rfl

theorem field?_reasons (h : probed.isReady = false) :
    (readyResponse correlationId shown probed listed first).field? "reasons" =
      nonEmptyObject (listed.allReasons.map fun e => (e.1, .str e.2)) := by
  unfold readyResponse
  generalize nonEmptyObject (shown.components.entries.map fun e => (e.1, Json.bool e.2)) = components
  generalize nonEmptyObject (listed.allReasons.map fun e => (e.1, Json.str e.2)) = reasons
  rw [h]
  cases components <;> cases reasons <;> rfl

theorem field?_reason (h : probed.isReady = false) :
    (readyResponse correlationId shown probed listed first).field? "reason" =
      some (.str (shownReason first.reason)) := by
  unfold readyResponse
  generalize nonEmptyObject (shown.components.entries.map fun e => (e.1, Json.bool e.2)) = components
  rw [h]
  cases components <;> rfl

theorem mem_object_components {c : String} :
    (c, Json.bool false) ∈ (readyResponse correlationId shown probed listed first).object "components" ↔
      shown.Down c := by
  rw [object_of_field field?_components, ReadinessState.mem_components_iff]

theorem mem_object_reasons_keys (h : probed.isReady = false) {c : String} :
    c ∈ ((readyResponse correlationId shown probed listed first).object "reasons").map Prod.fst ↔
      listed.Down c := by
  rw [object_of_field (field?_reasons h), List.map_map, List.mem_map]
  constructor
  · intro hc
    obtain ⟨⟨c', text⟩, hmem, rfl⟩ := hc
    exact (ReadinessState.mem_allReasons_iff.1 hmem).1
  · intro hc
    exact ⟨(c, listed.reasonOf c), ReadinessState.mem_allReasons_iff.2 ⟨hc, rfl⟩, rfl⟩

theorem mem_object_reasons_values (h : probed.isReady = false) {text : String} :
    Json.str text ∈ ((readyResponse correlationId shown probed listed first).object "reasons").map Prod.snd ↔
      ∃ c, listed.Down c ∧ listed.reasonOf c = text := by
  rw [object_of_field (field?_reasons h), List.map_map, List.mem_map]
  constructor
  · intro htext
    obtain ⟨⟨c, text'⟩, hmem, heq⟩ := htext
    cases heq
    exact ⟨c, ReadinessState.mem_allReasons_iff.1 hmem⟩
  · intro htext
    obtain ⟨c, hc⟩ := htext
    exact ⟨(c, text), ReadinessState.mem_allReasons_iff.2 hc, rfl⟩

theorem statusCode_readyResponse :
    (readyResponse correlationId shown probed listed first).statusCode =
      if probed.isReady = true then 200 else 503 := by
  rw [readyResponse]
  split <;> rfl

/-- An answer of 200 agrees with itself when the first read found nothing down. -/
theorem selfConsistent_iff_of_isReady (h : probed.isReady = true) :
    SelfConsistent (readyResponse correlationId shown probed listed first) ↔ ¬ ∃ c, shown.Down c := by
  have hstatus : (readyResponse correlationId shown probed listed first).statusCode = 200 := by
    rw [statusCode_readyResponse, if_pos h]
  constructor
  · intro hself hdown
    obtain ⟨c, hc⟩ := hdown
    exact hself.ready hstatus c (mem_object_components.2 hc)
  · intro hup
    have hnot : (readyResponse correlationId shown probed listed first).statusCode ≠ 503 := by
      rw [hstatus]
      decide
    exact {
      ready := fun _ c hc => hup ⟨c, mem_object_components.1 hc⟩
      down := fun h => absurd h hnot
      reasons := fun h => absurd h hnot
      reason := fun h => absurd h hnot }

/-- An answer of 503 does when the first read found something down, the third the same components, and the fourth a
reason of the third. -/
theorem selfConsistent_iff_of_not_isReady (h : probed.isReady = false) :
    SelfConsistent (readyResponse correlationId shown probed listed first) ↔
      (∃ c, shown.Down c) ∧ (∀ c, listed.Down c ↔ shown.Down c) ∧
        ∃ c, listed.Down c ∧ listed.reasonOf c = shownReason first.reason := by
  have hstatus : (readyResponse correlationId shown probed listed first).statusCode = 503 := by
    rw [statusCode_readyResponse, h]
    rfl
  constructor
  · intro hself
    obtain ⟨c, hc⟩ := hself.down hstatus
    have hsame : ∀ c, listed.Down c ↔ shown.Down c := by
      intro c
      calc
        listed.Down c ↔ _ := (mem_object_reasons_keys h).symm
        _ ↔ _ := hself.reasons hstatus c
        _ ↔ shown.Down c := mem_object_components
    obtain ⟨text, hfield, hmem⟩ := hself.reason hstatus
    have htext : shownReason first.reason = text :=
      Json.str.inj (Option.some.inj ((field?_reason h).symm.trans hfield))
    rw [htext]
    exact ⟨⟨c, mem_object_components.1 hc⟩, hsame, (mem_object_reasons_values h).1 hmem⟩
  · intro hagree
    obtain ⟨hdown, hsame, hnamed⟩ := hagree
    obtain ⟨c, hc⟩ := hdown
    exact {
      ready := fun h => absurd (hstatus.symm.trans h) (by decide)
      down := fun _ => ⟨c, mem_object_components.2 hc⟩
      reasons := fun _ c => (mem_object_reasons_keys h).trans ((hsame c).trans mem_object_components.symm)
      reason := fun _ => ⟨_, field?_reason h, (mem_object_reasons_values h).2 hnamed⟩ }

/-- Either way: the second read finds something down just when the first did, and then the rest agrees. -/
theorem selfConsistent_iff (h : ∃ c, (probed.components.get? c).isSome = true) :
    SelfConsistent (readyResponse correlationId shown probed listed first) ↔
      ((∃ c, probed.Down c) ↔ ∃ c, shown.Down c) ∧
      ((∃ c, shown.Down c) → (∀ c, listed.Down c ↔ shown.Down c) ∧
        ∃ c, listed.Down c ∧ listed.reasonOf c = shownReason first.reason) := by
  have hprobed := ReadinessState.isReady_iff_not_down h
  cases hready : probed.isReady with
  | true =>
    have hnone : ¬ ∃ c, probed.Down c := hprobed.1 hready
    rw [selfConsistent_iff_of_isReady hready]
    constructor
    · intro hup
      exact ⟨iff_of_false hnone hup, fun hdown => absurd hdown hup⟩
    · intro hagree
      exact mt hagree.1.2 hnone
  | false =>
    have hsome : ∃ c, probed.Down c := by
      by_contra hnone
      rw [hprobed.2 hnone] at hready
      cases hready
    rw [selfConsistent_iff_of_not_isReady hready]
    constructor
    · intro hagree
      exact ⟨iff_of_true hsome hagree.1, fun _ => hagree.2⟩
    · intro hagree
      have hdown : ∃ c, shown.Down c := hagree.1.1 hsome
      exact ⟨hdown, hagree.2 hdown⟩

end

/-! ## What calls leave -/

/-- The last of the calls on the component. -/
def lastCall (us : List ReadinessCall) (c : String) : Option ReadinessCall :=
  (us.filter fun u => u.component = c).getLast?

theorem lastCall_concat (us : List ReadinessCall) (u : ReadinessCall) (c : String) :
    lastCall (us ++ [u]) c = if u.component = c then some u else lastCall us c := by
  rw [lastCall, List.filter_append]
  by_cases hc : u.component = c
  · simp [hc]
  · simp [hc, lastCall]

namespace ReadinessState

variable (s : ReadinessState) (us : List ReadinessCall)

/-- The tracker after these calls. -/
def after : ReadinessState := Script.replay ReadinessCall.apply us s

/-- The flag that the calls leave, if the component is registered. -/
def flagAfter (c : String) : Option Bool := ((lastCall us c).map ReadinessCall.flag).or (s.components.get? c)

/-- The reason text that the calls leave. -/
def reasonAfter (c : String) : String :=
  (match lastCall us c with
    | some u => u.reason?
    | none => s.reasons.get? c).getD (c ++ " not ready")

/-- The registered components, those that the calls register last. -/
def orderAfter : List String :=
  us.foldl (fun cs u => if u.component ∈ cs then cs else cs ++ [u.component]) s.components.keys

/-- The reason of the first component that the calls leave down. -/
def firstReasonAfter : String :=
  match (s.orderAfter us).find? fun c => s.flagAfter us c = some false with
  | some c => s.reasonAfter us c
  | none => ""

theorem after_concat (u : ReadinessCall) : s.after (us ++ [u]) = u.apply (s.after us) :=
  Script.replay_append ReadinessCall.apply us [u] s

theorem after_append (vs : List ReadinessCall) : s.after (us ++ vs) = (s.after us).after vs :=
  Script.replay_append ReadinessCall.apply us vs s

/-- **A component's flag is that of the last call on it.** -/
theorem get?_components_after (c : String) : (s.after us).components.get? c = s.flagAfter us c := by
  induction us using List.reverseRecOn with
  | nil => rfl
  | append_singleton us u ih =>
    rw [after_concat, ReadinessCall.components_apply, OrderedDict.get?_set, ih, flagAfter, flagAfter, lastCall_concat]
    by_cases hc : u.component = c
    · simp [hc]
    · simp [hc, Ne.symm hc]

/-- Its reason is, too. -/
theorem reasonOf_after (c : String) : (s.after us).reasonOf c = s.reasonAfter us c := by
  have hreasons : (s.after us).reasons.get? c =
      match lastCall us c with
      | some u => u.reason?
      | none => s.reasons.get? c := by
    induction us using List.reverseRecOn with
    | nil => rfl
    | append_singleton us u ih =>
      rw [after_concat, ReadinessCall.get?_reasons_apply, ih, lastCall_concat]
      by_cases hc : u.component = c
      · simp [hc]
      · simp [hc, Ne.symm hc]
  rw [reasonOf, hreasons, reasonAfter]

theorem keys_after : (s.after us).components.keys = s.orderAfter us := by
  induction us using List.reverseRecOn with
  | nil => rfl
  | append_singleton us u ih =>
    rw [after_concat, ReadinessCall.components_apply, OrderedDict.keys_set, ih, orderAfter, orderAfter,
      List.foldl_concat]

theorem reason_after : (s.after us).reason = s.firstReasonAfter us := by
  have hfirst : ((s.after us).components.entries.find? fun e => !e.2).map Prod.fst =
      (s.orderAfter us).find? fun c => s.flagAfter us c = some false := by
    rw [OrderedDict.map_find?_entries _ (fun flag => !flag), keys_after]
    refine List.find?_congr fun c _ => ?_
    rw [get?_components_after]
    rcases s.flagAfter us c with _ | _ | _ <;> rfl
  rw [reason, firstReasonAfter, ← hfirst]
  cases (s.after us).components.entries.find? fun e => !e.2 with
  | none => rfl
  | some e => exact reasonOf_after s us e.1

/-- What is registered stays registered. -/
theorem exists_registered_after (h : s.components.entries ≠ []) :
    ∃ c, ((s.after us).components.get? c).isSome = true := by
  obtain ⟨⟨c, flag⟩, hmem⟩ := List.exists_mem_of_ne_nil _ h
  have hget : s.components.get? c = some flag := (s.components.get?_eq_some_iff c flag).2 hmem
  refine ⟨c, ?_⟩
  rw [get?_components_after, flagAfter, hget]
  cases lastCall us c <;> rfl

end ReadinessState

/-! ## When the answer agrees with itself -/

/-- With `s` the state whose components are shown, and these the calls before the second, the third and the fourth
read: the calls leave something down at the second read just when something is down in `s`, and then they leave down
at the third what is down in `s`, and the reason to be shown at the fourth is one they leave there. -/
structure ReadsAgree (s : ReadinessState) (us₁ us₂ us₃ : List ReadinessCall) : Prop where
  probed : (∃ c, s.flagAfter us₁ c = some false) ↔ ∃ c, s.Down c
  listed : (∃ c, s.Down c) → ∀ c, s.flagAfter (us₁ ++ us₂) c = some false ↔ s.Down c
  named : (∃ c, s.Down c) → ∃ c, s.flagAfter (us₁ ++ us₂) c = some false ∧
    s.reasonAfter (us₁ ++ us₂) c = shownReason (s.firstReasonAfter (us₁ ++ us₂ ++ us₃))

theorem readsAgree_iff {s : ReadinessState} {us₁ us₂ us₃ : List ReadinessCall} :
    ReadsAgree s us₁ us₂ us₃ ↔
      ((∃ c, (s.after us₁).Down c) ↔ ∃ c, s.Down c) ∧
      ((∃ c, s.Down c) → (∀ c, (s.after (us₁ ++ us₂)).Down c ↔ s.Down c) ∧
        ∃ c, (s.after (us₁ ++ us₂)).Down c ∧
          (s.after (us₁ ++ us₂)).reasonOf c = shownReason (s.after (us₁ ++ us₂ ++ us₃)).reason) := by
  have hdown (us : List ReadinessCall) (c : String) : (s.after us).Down c ↔ s.flagAfter us c = some false := by
    rw [ReadinessState.Down, ReadinessState.get?_components_after]
  simp only [hdown, ReadinessState.reasonOf_after, ReadinessState.reason_after]
  constructor
  · intro h
    exact ⟨h.probed, fun hs => ⟨h.listed hs, h.named hs⟩⟩
  · intro h
    exact ⟨h.1, fun hs => (h.2 hs).1, fun hs => (h.2 hs).2⟩

/-- The answer from the gaps of its schedule. -/
theorem response_of_gaps {correlationId : String} {s : ReadinessState} {response : JSONResponse}
    {gaps : List (List ReadinessCall)}
    (h : (readyHandler correlationId).answer (Reads.states ReadinessCall.apply s gaps) = some response) :
    let gap i := gaps.getD i []
    let shown := s.after (gap 0)
    response = readyResponse correlationId shown (shown.after (gap 1)) (shown.after (gap 1 ++ gap 2))
      (shown.after (gap 1 ++ gap 2 ++ gap 3)) := by
  intro gap shown
  obtain ⟨shown', probed, hshown, hprobed, hready, hnotReady⟩ := response_of_answer h
  have hshownEq : shown' = shown := Reads.states_zero hshown
  have hprobedEq : probed = shown.after (gap 1) := by
    obtain ⟨t, ht, hafter⟩ := Reads.states_succ hprobed
    cases hshown.symm.trans ht
    rw [hafter, hshownEq]
    rfl
  rw [← hprobedEq, ← hshownEq]
  cases hprobedReady : probed.isReady with
  | true => exact hready hprobedReady _ _
  | false =>
    obtain ⟨listed, first, hlisted, hfirst, hresponse⟩ := hnotReady hprobedReady
    have hlistedEq : listed = shown.after (gap 1 ++ gap 2) := by
      obtain ⟨t, ht, hafter⟩ := Reads.states_succ hlisted
      cases hprobed.symm.trans ht
      rw [hafter, hprobedEq, ReadinessState.after_append]
      rfl
    have hfirstEq : first = shown.after (gap 1 ++ gap 2 ++ gap 3) := by
      obtain ⟨t, ht, hafter⟩ := Reads.states_succ hfirst
      cases hlisted.symm.trans ht
      rw [hafter, hlistedEq, ReadinessState.after_append shown (gap 1 ++ gap 2)]
      rfl
    rw [hresponse, hlistedEq, hfirstEq, hshownEq]

/-- Left alone, the handler answers for the one state there is. -/
theorem ready_of_quiet {correlationId : String} {s : ReadinessState} {turns : List (Turn ReadinessCall)}
    {response : JSONResponse} (hquiet : ∀ u, Turn.update u ∉ turns)
    (h : Reads.Answers ReadinessCall.apply (readyHandler correlationId) s turns response) :
    response = ready s correlationId := by
  rw [Reads.answers_iff, Reads.seen_eq_states] at h
  have hgap (i : Nat) : (Reads.gaps turns).getD i [] = [] := by
    rw [List.getD_eq_getElem?_getD]
    cases hget : (Reads.gaps turns)[i]? with
    | none => rfl
    | some gap => exact Reads.gaps_eq_nil hquiet gap (List.mem_of_getElem? hget)
  have hresponse := response_of_gaps h
  simp only [hgap, List.append_nil] at hresponse
  exact hresponse.trans (readyResponse_self correlationId s)

/-- **`/ready` agrees with itself exactly when its reads agree.** -/
theorem ready_snapshot_iff (correlationId : String) (s : ReadinessState) (turns : List (Turn ReadinessCall))
    (h : s.components.entries ≠ []) :
    (4 ≤ turns.countP Turn.isRead →
      ∃ response, Reads.Answers ReadinessCall.apply (readyHandler correlationId) s turns response) ∧
    ∀ response, Reads.Answers ReadinessCall.apply (readyHandler correlationId) s turns response →
      let gap i := (Reads.gaps turns).getD i []
      (SelfConsistent response ↔ ReadsAgree (s.after (gap 0)) (gap 1) (gap 2) (gap 3)) := by
  constructor
  · intro hreads
    have hlength : 4 ≤ (Reads.seen ReadinessCall.apply s turns).length := by
      rw [Reads.length_seen]
      exact hreads
    obtain ⟨response, hanswer⟩ := Reads.exists_answer_of_within _ _ (readyHandler_within correlationId) hlength
    exact ⟨response, (Reads.answers_iff turns _ s).2 hanswer⟩
  · intro response hanswers gap
    rw [Reads.answers_iff, Reads.seen_eq_states] at hanswers
    have hresponse := response_of_gaps hanswers
    have hregistered := s.exists_registered_after (gap 0 ++ gap 1) h
    rw [ReadinessState.after_append] at hregistered
    rw [hresponse, readsAgree_iff]
    exact selfConsistent_iff hregistered

/-- A serving gateway whose audit writer may not fail once. -/
def brittleWriter : AuditState := .start 1 (ReadinessState.fresh.markReady "configuration_loaded")

def diskFull : WriteOutcome := .error { cls := .osError, msg := "disk full" }

/-- What the failure of a write makes the brittle writer call. -/
def degradingCall : ReadinessCall := .markNotReady (AuditState.degradedReason 1) auditWriterComponent

def recoveringCall : ReadinessCall := .markReady auditWriterComponent

/-- The theorem when the writer fails before the first read. -/
theorem ready_snapshot_iff_degraded :
    ∃ response, Reads.Answers ReadinessCall.apply (readyHandler "c") brittleWriter.readiness
      [.update degradingCall, .read, .read, .read, .read] response ∧ SelfConsistent response := by
  have hentries : brittleWriter.readiness.components.entries ≠ [] := by decide
  obtain ⟨response, hresponse⟩ := (ready_snapshot_iff "c" brittleWriter.readiness
    [.update degradingCall, .read, .read, .read, .read] hentries).1 (by decide)
  refine ⟨response, hresponse, ((ready_snapshot_iff "c" _ _ hentries).2 response hresponse).2 ?_⟩
  exact {
    probed := Iff.rfl
    listed := fun _ _ => Iff.rfl
    named := fun _ => ⟨auditWriterComponent, by rfl, by rfl⟩ }

theorem isReady_brittleWriter : brittleWriter.readiness.isReady = true := by decide +kernel

theorem down_degradingCall : (degradingCall.apply brittleWriter.readiness).Down auditWriterComponent := by
  rw [ReadinessState.Down, ReadinessCall.components_apply]
  exact OrderedDict.get?_set_self ..

/-- A write that fails between the first two reads is answered 503 with every component ready; one that succeeds
there, 200 with a component that is not. -/
theorem ready_contradicts_itself :
    let serving := brittleWriter.readiness
    let degraded := degradingCall.apply serving
    GatewayAuditWriter.callsMade diskFull brittleWriter = [degradingCall] ∧
    GatewayAuditWriter.callsMade (.ok ()) (GatewayAuditWriter.afterWrite diskFull brittleWriter) = [recoveringCall] ∧
    (∃ response, Reads.Answers ReadinessCall.apply (readyHandler "c") serving
        [.read, .update degradingCall, .read, .read, .read] response ∧
      response.statusCode = 503 ∧ (∀ c, (c, Json.bool false) ∉ response.object "components") ∧
      ¬ SelfConsistent response) ∧
    ∃ response, Reads.Answers ReadinessCall.apply (readyHandler "c") degraded
        [.read, .update recoveringCall, .read, .read, .read] response ∧
      response.statusCode = 200 ∧ (auditWriterComponent, Json.bool false) ∈ response.object "components" ∧
      ¬ SelfConsistent response := by
  intro serving degraded
  have hup : ∀ c, ¬ serving.Down c := ((ReadinessState.isReady_iff _).1 isReady_brittleWriter).2
  have hdegraded : degraded.isReady = false := ReadinessState.isReady_eq_false down_degradingCall
  have hrecovered : (recoveringCall.apply degraded).isReady = true := by decide +kernel
  refine ⟨by rfl, by rfl, ?_, ?_⟩
  · have hstatus : (readyResponse "c" serving degraded degraded degraded).statusCode = 503 := by
      rw [statusCode_readyResponse, hdegraded]
      rfl
    have hshown : ∀ c, (c, Json.bool false) ∉
        (readyResponse "c" serving degraded degraded degraded).object "components" := by
      intro c hc
      exact hup c (mem_object_components.1 hc)
    refine ⟨_, (Reads.answers_iff _ _ _).2 (answer_readyHandler ..), hstatus, hshown, ?_⟩
    intro hself
    obtain ⟨c, hc⟩ := hself.down hstatus
    exact hshown c hc
  · let recovered := recoveringCall.apply degraded
    have hstatus : (readyResponse "c" degraded recovered recovered recovered).statusCode = 200 := by
      rw [statusCode_readyResponse, if_pos hrecovered]
    have hshown : (auditWriterComponent, Json.bool false) ∈
        (readyResponse "c" degraded recovered recovered recovered).object "components" :=
      mem_object_components.2 down_degradingCall
    refine ⟨_, (Reads.answers_iff _ _ _).2 (answer_readyHandler ..), hstatus, hshown, ?_⟩
    intro hself
    exact hself.ready hstatus _ hshown

/-! ## While the audit writer writes -/

namespace GatewayAuditWriter

variable {failureThreshold : Int} {rs : ReadinessState} {degraded degraded' : Bool}

/-- A gateway with nothing down but the writer. -/
def OnlyWriterDown (rs : ReadinessState) : Prop := ∀ c, c ≠ auditWriterComponent → ¬ rs.Down c

/-- The reason of a degraded writer is shown as it is, and it is not the default text. -/
theorem shownReason_thresholdReason :
    shownReason (thresholdReason failureThreshold) = thresholdReason failureThreshold ∧
      shownReason "" ≠ thresholdReason failureThreshold := by
  have hhead : (thresholdReason failureThreshold).toList.head? = some 'A' := by
    have hprefix : "Audit write failures exceeded threshold (".toList.head? = some 'A' := by decide +kernel
    have htext : thresholdReason failureThreshold = "Audit write failures exceeded threshold (" ++
        toString (max 1 failureThreshold).toNat ++ " consecutive failures)" := rfl
    rw [htext, String.toList_append, String.toList_append, List.append_assoc, List.head?_append, hprefix,
      Option.some_or]
  constructor
  · rw [shownReason, if_neg]
    intro h
    rw [h] at hhead
    cases hhead
  · intro h
    rw [← h] at hhead
    exact absurd hhead (by decide)

theorem down_signalled (h : OnlyWriterDown rs) {c : String} :
    (signalled failureThreshold rs degraded).Down c ↔ c = auditWriterComponent ∧ degraded = true := by
  rw [ReadinessState.Down, signalled_components, OrderedDict.get?_set]
  by_cases hc : c = auditWriterComponent
  · simp [hc]
  · have hup := h c hc
    rw [ReadinessState.Down] at hup
    simp [hc, hup]

theorem exists_down_signalled (h : OnlyWriterDown rs) :
    (∃ c, (signalled failureThreshold rs degraded).Down c) ↔ degraded = true := by
  simp [down_signalled h]

theorem isReady_signalled (h : OnlyWriterDown rs) :
    (signalled failureThreshold rs degraded).isReady = !degraded := by
  cases degraded with
  | false => exact (signalled_isReady failureThreshold rs false).2 ⟨h, rfl⟩
  | true => exact ReadinessState.isReady_eq_false ((down_signalled h).2 ⟨rfl, rfl⟩)

theorem reason_signalled (h : OnlyWriterDown rs) :
    (signalled failureThreshold rs degraded).reason =
      if degraded = true then thresholdReason failureThreshold else "" := by
  cases degraded with
  | false =>
    have hnone : ¬ ∃ c, (signalled failureThreshold rs false).Down c := by simp [down_signalled h]
    exact ReadinessState.reason_of_not_down hnone
  | true =>
    obtain ⟨c, hc, hreason⟩ := ReadinessState.reason_of_down ((exists_down_signalled h).2 rfl)
    obtain ⟨rfl, -⟩ := (down_signalled h).1 hc
    rw [hreason]
    simp [ReadinessState.reasonOf, signalled_reasons]

/-- The reason shown is listed when the writer is degraded at both reads. -/
theorem named_signalled (h : OnlyWriterDown rs) :
    (∃ c, (signalled failureThreshold rs degraded).Down c ∧
      (signalled failureThreshold rs degraded).reasonOf c =
        shownReason (signalled failureThreshold rs degraded').reason) ↔
      degraded = true ∧ degraded' = true := by
  have hthreshold : shownReason (thresholdReason failureThreshold) = thresholdReason failureThreshold :=
    shownReason_thresholdReason.1
  have hdefault : shownReason "" ≠ thresholdReason failureThreshold := shownReason_thresholdReason.2
  rw [reason_signalled h]
  cases degraded with
  | false => simp [down_signalled h]
  | true =>
    have hreasonOf : (signalled failureThreshold rs true).reasonOf auditWriterComponent =
        thresholdReason failureThreshold := by
      simp [ReadinessState.reasonOf, signalled_reasons]
    cases degraded' with
    | false => simp [down_signalled h, hreasonOf, Ne.symm hdefault]
    | true => simp [down_signalled h, hreasonOf, hthreshold]

/-- The writer is degraded at the read. -/
def degradedAt (seen : List AuditState) (i : Nat) : Bool := (seen[i]?).any fun s => s.writer.degraded

/-- Every state that is seen is the one the writer's flag says. -/
theorem readiness_seen {outcomes : List WriteOutcome} {turns : List (Turn WriteOutcome)} {i : Nat}
    {s : ReadinessState} :
    let seen := Reads.seen afterWrite (afterWrites outcomes (.start failureThreshold rs)) turns
    (seen.map AuditState.readiness)[i]? = some s → s = signalled failureThreshold rs (degradedAt seen i) := by
  intro seen hs
  have hinv : ∀ t ∈ seen, ∃ outcomes', WriterInv failureThreshold rs outcomes' t := by
    refine Reads.forall_mem_seen ?_ ⟨outcomes, writerInv_afterWrites failureThreshold rs outcomes⟩ turns
    intro outcome t ht
    obtain ⟨outcomes', hwriter⟩ := ht
    exact ⟨outcomes' ++ [outcome], hwriter.write outcome⟩
  rw [List.getElem?_map, Option.map_eq_some_iff] at hs
  obtain ⟨t, ht, rfl⟩ := hs
  obtain ⟨outcomes', hwriter⟩ := hinv t (List.mem_of_getElem? ht)
  rw [degradedAt, ht, Option.any_some]
  exact hwriter.readiness

/-- **While the audit writer writes**, in a gateway where nothing else is down, `/ready` agrees with itself exactly
when the writer is as degraded at the second read as at the first, and then stays so. -/
theorem selfConsistent_while_writing_iff {correlationId : String} {outcomes : List WriteOutcome}
    {turns : List (Turn WriteOutcome)} {response : JSONResponse} (hothers : OnlyWriterDown rs)
    (h : Reads.Answers afterWrite ((readyHandler correlationId).on AuditState.readiness)
      (afterWrites outcomes (.start failureThreshold rs)) turns response) :
    let seen := Reads.seen afterWrite (afterWrites outcomes (.start failureThreshold rs)) turns
    SelfConsistent response ↔ degradedAt seen 0 = degradedAt seen 1 ∧
      (degradedAt seen 1 = true → degradedAt seen 2 = true ∧ degradedAt seen 3 = true) := by
  intro seen
  rw [Reads.answers_iff, Reads.answer_on] at h
  obtain ⟨shown, probed, hshown, hprobed, hready, hnotReady⟩ := response_of_answer h
  have hshownDown : (∃ c, shown.Down c) ↔ degradedAt seen 0 = true := by
    rw [readiness_seen hshown]
    exact exists_down_signalled hothers
  have hprobedReady : probed.isReady = !degradedAt seen 1 := by
    rw [readiness_seen hprobed]
    exact isReady_signalled hothers
  cases hflag : degradedAt seen 1 with
  | false =>
    rw [hflag] at hprobedReady
    rw [hready hprobedReady probed probed, selfConsistent_iff_of_isReady hprobedReady, hshownDown]
    simp
  | true =>
    rw [hflag] at hprobedReady
    obtain ⟨listed, first, hlisted, hfirst, hresponse⟩ := hnotReady hprobedReady
    have hsame : (∀ c, listed.Down c ↔ shown.Down c) ↔ degradedAt seen 2 = degradedAt seen 0 := by
      rw [readiness_seen hlisted, readiness_seen hshown]
      simp only [down_signalled hothers]
      cases degradedAt seen 0 <;> cases degradedAt seen 2 <;> simp
    have hnamed : (∃ c, listed.Down c ∧ listed.reasonOf c = shownReason first.reason) ↔
        degradedAt seen 2 = true ∧ degradedAt seen 3 = true := by
      rw [readiness_seen hlisted, readiness_seen hfirst]
      exact named_signalled hothers
    rw [hresponse, selfConsistent_iff_of_not_isReady hprobedReady, hshownDown, hsame, hnamed]
    cases degradedAt seen 0 <;> cases degradedAt seen 2 <;> simp

end GatewayAuditWriter

end BasisGateway
