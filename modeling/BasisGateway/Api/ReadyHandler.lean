/-
`GET /ready` as it runs in its worker thread (`api/routes.py`): four reads of
the tracker, each under the lock, with the calls of other threads in between.
-/
import BasisGateway.Api.Responses
import BasisGateway.Audit.WriterFacts
import BasisGateway.Lib.Reads

namespace BasisGateway

/-- `ready`; the correlation id is the request's own and no read of the tracker. -/
def readyHandler (correlationId : String) : Reads ReadinessState JSONResponse := do
  let components ← Reads.ask fun state => nonEmptyObject (state.components.entries.map fun e => (e.1, .bool e.2))
  let isReady ← Reads.ask ReadinessState.isReady
  if isReady then
    return {
      statusCode := 200
      content := modelDump [("status", some (.str "ready")), ("service", some (.str "basis-gateway")),
        ("components", components)] }
  let allReasons ← Reads.ask fun state => nonEmptyObject (state.allReasons.map fun e => (e.1, .str e.2))
  let reason ← Reads.ask ReadinessState.reason
  return {
    statusCode := 503
    content := modelDump [("status", some (.str "not_ready")), ("service", some (.str "basis-gateway")),
      ("components", components),
      ("reason", some (.str (if reason = "" then "application not initialized" else reason))),
      ("reasons", allReasons), ("correlation_id", some (.str correlationId))] }

namespace ReadinessCall

/-- What the call does to the tracker. -/
def apply : ReadinessCall → ReadinessState → ReadinessState
  | .markReady c, s => s.markReady c
  | .markNotReady r c, s => s.markNotReady r c

def component : ReadinessCall → String
  | .markReady c => c
  | .markNotReady _ c => c

/-- The flag the call sets. -/
def flag : ReadinessCall → Bool
  | .markReady _ => true
  | .markNotReady _ _ => false

/-- The reason the call leaves. -/
def reason? : ReadinessCall → Option String
  | .markReady _ => none
  | .markNotReady r _ => some r

theorem components_apply (u : ReadinessCall) (s : ReadinessState) :
    (u.apply s).components = s.components.set u.component u.flag := by
  cases u <;> rfl

theorem get?_reasons_apply (u : ReadinessCall) (s : ReadinessState) (c : String) :
    (u.apply s).reasons.get? c = if c = u.component then u.reason? else s.reasons.get? c := by
  cases u with
  | markReady c' => exact OrderedDict.get?_erase s.reasons c' c
  | markNotReady r c' => exact OrderedDict.get?_set s.reasons c' c r

end ReadinessCall

/-! ## The calls of the audit writer -/

namespace GatewayAuditWriter

/-- The calls on the tracker that one write makes. -/
def callsMade (outcome : WriteOutcome) (s : AuditState) : List ReadinessCall :=
  (afterWrite outcome s).calls.drop s.calls.length

/-- A write does to the tracker what its calls do. -/
theorem readiness_afterWrite (outcome : WriteOutcome) (s : AuditState) :
    (afterWrite outcome s).readiness = Script.replay ReadinessCall.apply (callsMade outcome s) s.readiness := by
  rw [callsMade]
  cases outcome with
  | error exc =>
    by_cases hc : s.writer.failureThreshold ≤ ↑(s.writer.consecutiveFailureCount + 1) ∧ s.writer.degraded = false
    · rw [afterWrite, afterFailure_degrades hc.1 hc.2]
      simp [Script.replay, ReadinessCall.apply]
    · rw [afterWrite, afterFailure_quiet hc]
      simp [Script.replay]
  | ok u =>
    cases hd : s.writer.degraded with
    | false =>
      rw [afterWrite, afterSuccess_quiet hd]
      simp [Script.replay]
    | true =>
      rw [afterWrite, afterSuccess_recovers hd]
      simp [Script.replay, ReadinessCall.apply]

/-- The handler's answers while the writer writes are its answers between the calls the writes make. -/
theorem answers_between_writes {correlationId : String} {s : AuditState} {turns : List (Turn WriteOutcome)}
    {response : JSONResponse} :
    Reads.Answers afterWrite ((readyHandler correlationId).on AuditState.readiness) s turns response ↔
      Reads.Answers ReadinessCall.apply (readyHandler correlationId) s.readiness
        (Reads.parts afterWrite callsMade s turns) response :=
  Reads.answers_on_iff readiness_afterWrite

end GatewayAuditWriter

/-! ## The answer from the states that are seen -/

/-- The answer when the four reads see these states. -/
def readyResponse (correlationId : String) (shown probed listed first : ReadinessState) : JSONResponse :=
  let components := nonEmptyObject (shown.components.entries.map fun e => (e.1, .bool e.2))
  if probed.isReady then
    { statusCode := 200
      content := modelDump [("status", some (.str "ready")), ("service", some (.str "basis-gateway")),
        ("components", components)] }
  else
    { statusCode := 503
      content := modelDump [("status", some (.str "not_ready")), ("service", some (.str "basis-gateway")),
        ("components", components),
        ("reason", some (.str (if first.reason = "" then "application not initialized" else first.reason))),
        ("reasons", nonEmptyObject (listed.allReasons.map fun e => (e.1, .str e.2))),
        ("correlation_id", some (.str correlationId))] }

/-- Undisturbed, the handler answers from one state. -/
theorem readyResponse_self (correlationId : String) (s : ReadinessState) :
    readyResponse correlationId s s s s = ready s correlationId := rfl

/-- The second read settles which answer is given. -/
theorem readyHandler_eq (correlationId : String) : readyHandler correlationId =
    .read fun shown => .read fun probed =>
      if probed.isReady = true then .done (readyResponse correlationId shown probed probed probed)
      else .read fun listed => .read fun first => .done (readyResponse correlationId shown probed listed first) := by
  simp only [readyHandler, Reads.ask_bind, Reads.pure_eq]
  congr 1
  funext shown
  congr 1
  funext probed
  cases hready : probed.isReady with
  | true => simp [readyResponse, hready]
  | false => simp [readyResponse, hready]

theorem readyHandler_within (correlationId : String) : (readyHandler correlationId).Within 4 := by
  rw [readyHandler_eq]
  intro shown probed
  by_cases hready : probed.isReady = true
  · simp only [hready, if_true, Reads.Within]
  · simp only [hready]
    exact fun _ _ => trivial

/-- When the second read finds everything ready, the later ones do not matter. -/
theorem readyResponse_of_isReady {correlationId : String} {shown probed : ReadinessState}
    (h : probed.isReady = true) (listed first listed' first' : ReadinessState) :
    readyResponse correlationId shown probed listed first =
      readyResponse correlationId shown probed listed' first' := by
  simp only [readyResponse, h, if_true]

theorem answer_readyHandler (correlationId : String) (shown probed listed first : ReadinessState) :
    (readyHandler correlationId).answer [shown, probed, listed, first] =
      some (readyResponse correlationId shown probed listed first) := by
  rw [readyHandler_eq]
  by_cases hready : probed.isReady = true
  · simp only [Reads.answer, hready, if_true]
    rw [readyResponse_of_isReady hready]
  · simp only [Reads.answer, hready]
    rfl

/-- An answer is made of the states its reads saw. -/
theorem response_of_answer {correlationId : String} {states : List ReadinessState} {response : JSONResponse}
    (h : (readyHandler correlationId).answer states = some response) :
    ∃ shown probed, states[0]? = some shown ∧ states[1]? = some probed ∧
      (probed.isReady = true → ∀ listed first,
        response = readyResponse correlationId shown probed listed first) ∧
      (probed.isReady = false → ∃ listed first, states[2]? = some listed ∧ states[3]? = some first ∧
        response = readyResponse correlationId shown probed listed first) := by
  rw [readyHandler_eq] at h
  rcases states with _ | ⟨shown, _ | ⟨probed, rest⟩⟩
  · cases h
  · cases h
  · refine ⟨shown, probed, rfl, rfl, ?_, ?_⟩
    · intro hready listed first
      simp only [Reads.answer, hready, if_true, Option.some.injEq] at h
      rw [← h]
      exact readyResponse_of_isReady hready ..
    · intro hready
      simp only [Reads.answer, hready, Bool.false_eq_true, if_false] at h
      rcases rest with _ | ⟨listed, _ | ⟨first, rest⟩⟩
      · cases h
      · cases h
      · exact ⟨listed, first, rfl, rfl, (Option.some.inj h).symm⟩

end BasisGateway
