/-
The durable record of an operation-aware request. Each refusal writes its own
status, reason and subject by hand, next to the answer it belongs to; here
every one of them agrees with its answer, and a request leaves exactly one
record. The record of a completed evaluation is checked outside the `try` of
its emission, and the one check composition does not establish is that the
request id is not blank.
-/
import BasisGateway.AuditTrail
import BasisGateway.KernelCalls

namespace BasisGateway

open Script

/-! ## Members -/

/-- A member of a JSON value, when it is an object. -/
def Json.member (key : String) : Json → Option Json
  | .obj fields => Json.get? key fields
  | _ => none

theorem Json.member_modelDump (key : String) : ∀ fields : List (String × Option Json),
    (modelDump fields).member key = (fields.find? fun f => f.1 = key ∧ f.2.isSome).bind (·.2)
  | [] => rfl
  | (k, none) :: rest => by
    have ih := member_modelDump key rest
    simpa [modelDump, Json.member, List.find?_cons] using ih
  | (k, some value) :: rest => by
    have ih := member_modelDump key rest
    by_cases hk : k = key
    · simp [modelDump, Json.member, Json.get?, hk]
    · simpa [modelDump, Json.member, Json.get?, List.find?_cons, hk] using ih

/-- A member of a part of an event's detail. -/
def AuditEvent.part (event : AuditEvent) (name key : String) : Option Json :=
  (Json.get? name event.detail).bind (Json.member key)

/-! ## Results -/

/-- Completed with an outcome and no failure reason, or failed with a failure reason and no outcome. -/
def OperationAwareDecisionResponse.SelfConsistent (response : OperationAwareDecisionResponse) : Prop :=
  match response.evaluationStatus with
  | .completed => response.outcome.isSome = true ∧ response.failureReason = none
  | .failed => response.failureReason.isSome = true ∧ response.outcome = none

/-- The event a result and its evidence give. -/
def gatewayAuditEventOf (result : OperationAwareEnforcementResult) (evidence : AuditEvidence) :
    GatewayAuditEvent where
  requestId := result.response.requestId
  evaluationStatus := result.response.evaluationStatus
  outcome := result.response.outcome
  failureReason := result.response.failureReason
  auditEvidenceId := evidence.evidenceId
  enforcementAction := result.disposition

section

variable {result : OperationAwareEnforcementResult} {evidence : AuditEvidence}

/-- What a self-consistent result's event is checked for: its two ids. -/
theorem postInit_of_selfConsistent (h : result.response.SelfConsistent) :
    GatewayAuditEvent.postInit (gatewayAuditEventOf result evidence) =
      if blank result.response.requestId then
        GatewayAuditEvent.invalid "GatewayAuditEvent.request_id must not be empty."
      else if blank evidence.evidenceId then
        GatewayAuditEvent.invalid "GatewayAuditEvent.audit_evidence_id must not be empty."
      else .ok () := by
  unfold OperationAwareDecisionResponse.SelfConsistent at h
  unfold GatewayAuditEvent.postInit
  cases hr : blank result.response.requestId with
  | true =>
    simp only [gatewayAuditEventOf, hr, if_true]
    rfl
  | false =>
    simp only [gatewayAuditEventOf, hr, Bool.false_eq_true, if_false]
    cases hs : result.response.evaluationStatus with
    | completed =>
      rw [hs] at h
      obtain ⟨outcome, ho⟩ := Option.isSome_iff_exists.1 h.1
      simp only [ho, h.2]
      rfl
    | failed =>
      rw [hs] at h
      obtain ⟨reason, hf⟩ := Option.isSome_iff_exists.1 h.1
      simp only [hf, h.2]
      rfl

theorem assemble_of_not_blank (h : result.response.SelfConsistent)
    (hr : blank result.response.requestId = false) (he : blank evidence.evidenceId = false) :
    assembleGatewayAuditEvent result evidence = .ok (gatewayAuditEventOf result evidence) := by
  show constructing GatewayAuditEvent.postInit (gatewayAuditEventOf result evidence) = _
  simp only [constructing, postInit_of_selfConsistent h, hr, he, Bool.false_eq_true, if_false]
  rfl

/-- The event's request id is blank. -/
def blankRequestId : PyExc :=
  { cls := .valueError, msg := "GatewayAuditEvent.request_id must not be empty." }

theorem assemble_of_blank (h : result.response.SelfConsistent)
    (hr : blank result.response.requestId = true) :
    assembleGatewayAuditEvent result evidence = .error blankRequestId := by
  show constructing GatewayAuditEvent.postInit (gatewayAuditEventOf result evidence) = _
  simp only [constructing, postInit_of_selfConsistent h, hr, if_true]
  rfl

end

/-- The record, the answer and the kernel's result say the same. -/
structure Agrees (record : AuditEvent) (response : JSONResponse) (result : OperationAwareEnforcementResult)
    (evidence : AuditEvidence) : Prop where
  auditEvidenceId : record.part "gateway_audit_event" "audit_evidence_id" = some (.str evidence.evidenceId)
  auditEvidence : Json.get? "audit_evidence" record.detail = some evidence.dump
  recordedEvidenceId : record.part "audit_evidence" "evidence_id" = some (.str evidence.evidenceId)
  evidenceId : response.content.member "evidence_id" = some (.str evidence.evidenceId)
  evaluationStatus :
    record.part "gateway_audit_event" "evaluation_status" =
      some (.str result.response.evaluationStatus.value) ∧
    response.content.member "evaluation_status" = some (.str result.response.evaluationStatus.value)
  outcome :
    record.part "gateway_audit_event" "outcome" =
      some (optionalString (result.response.outcome.map (·.value))) ∧
    response.content.member "outcome" = result.response.outcome.map fun outcome => .str outcome.value
  failureReason :
    record.part "gateway_audit_event" "failure_reason" =
      some (optionalString (result.response.failureReason.map (·.value))) ∧
    response.content.member "failure_reason" =
      result.response.failureReason.map fun reason => .str reason.value
  disposition :
    record.part "gateway_audit_event" "enforcement_action" = some (.str result.disposition.value) ∧
    response.content.member "disposition" = some (.str result.disposition.value)

theorem agrees_completed (method path : String) (httpStatus : Nat) (result : OperationAwareEnforcementResult)
    (composed : ComposedOperationAwareInput) {evidence : AuditEvidence}
    (h : result.auditEvidence = some evidence)
    (hdump : evidence.dump.member "evidence_id" = some (.str evidence.evidenceId)) :
    Agrees (completedEvent method path httpStatus result composed evidence (gatewayAuditEventOf result evidence))
      (OperationAware.resultResponse result) result evidence := by
  have hmember (key : String) : (OperationAware.resultResponse result).content.member key = _ :=
    Json.member_modelDump key _
  constructor
  case auditEvidenceId | auditEvidence => rfl
  case recordedEvidenceId => exact hdump
  case evidenceId => rw [hmember]; simp [h]
  case evaluationStatus => rw [hmember]; exact ⟨rfl, by simp⟩
  case outcome => rw [hmember]; refine ⟨rfl, ?_⟩; cases result.response.outcome <;> simp
  case failureReason => rw [hmember]; refine ⟨rfl, ?_⟩; cases result.response.failureReason <;> simp
  case disposition => rw [hmember]; exact ⟨rfl, by simp⟩

/-! ## Refusals -/

namespace OperationAware

/-- The stop writes one event of this request, with the status of the answer it gives and the id of
this subject. -/
def RefusesWith (req : Request) (subject : Option NormalizedSubject) (stop : Stop) : Prop :=
  ∃ action reason response, action ≠ OperationAwareEvents.authorizationCompleted ∧
    stop.Refuses (event req action (some reason) (some response.statusCode)
      (subject.map (·.subjectId))) response

/-- Certificate failures are of the seven documented classes. -/
def DocumentedCertificates (app : App) (req : Request) : Prop :=
  ∀ config subject exc, app.config = some config →
    resolveOperationProducerTrust app.x509 req.headers subject config = .error exc →
      producerMtlsFailures.any exc.isInstance = true

section

variable {app : App} {req : Request} {stop : Stop} {subject : NormalizedSubject}

theorem refusesWith_of_refuse {α : Type} {action reason : String} {response : JSONResponse}
    {governed : response.isRefusal = true} {status : Nat}
    (h : (refuse (event req action (some reason) (some status) (some subject.subjectId)) response governed :
      Gate α) = .error stop) (hstatus : response.statusCode = status)
    (haction : action ≠ OperationAwareEvents.authorizationCompleted) : RefusesWith req (some subject) stop := by
  subst hstatus
  exact ⟨action, reason, response, haction, refuses_of_refuse h⟩

theorem body_refuses (h : body app req = .error stop) : RefusesWith req none stop := by
  obtain ⟨reason, message, href⟩ := bodyGate_error h
  exact ⟨OperationAwareEvents.validationFailed, reason, validationFailed message req.correlationId, by decide,
    href⟩

theorem bearer_refuses (h : bearer req = .error stop) : RefusesWith req none stop := by
  obtain ⟨exc, -, href⟩ := bearerGate_error h
  exact ⟨OperationAwareEvents.authenticationFailed, Reason.missingToken,
    authenticationRequired exc.msg req.correlationId, by decide, href⟩

theorem authentication_refuses {token : String} (h : authentication app req token = .error stop) :
    RefusesWith req none stop := by
  obtain ⟨exc, -, href⟩ := authenticationGate_error h
  exact ⟨OperationAwareEvents.authenticationFailed, (authenticationFailure exc).1,
    authenticationFailed (authenticationFailure exc).2 req.correlationId, by decide, href⟩

theorem producerTrust_refuses (hdoc : DocumentedCertificates app req)
    (h : producerTrust app req subject = .error stop) : RefusesWith req (some subject) stop := by
  unfold producerTrust at h
  split at h
  next => cases h
  next config hconfig =>
    split at h
    next => cases h
    next exc hr =>
      have hcaught := hdoc config subject exc hconfig hr
      obtain ⟨reason, hreason⟩ := producerMtlsFailureReason_ok hcaught
      simp only [hcaught, if_true, hreason] at h
      exact refusesWith_of_refuse h rfl (by decide)

/-- Composition raises nothing that is not caught. -/
theorem composition_refuses {request : OperationAwareEvaluateRequest} {identityContext : IdentityContext}
    {trust : OperationProducerTrust}
    (h : composition app req request subject identityContext trust = .error stop) :
    RefusesWith req (some subject) stop := by
  unfold composition at h
  split at h
  next => cases h
  next exc hc =>
    have hcls := composeOperationAwareInput_error hc
    simp only [compositionFailures, List.mem_cons, List.not_mem_nil, or_false] at hcls
    rcases hcls with hcls | hcls | hcls | hcls | hcls <;>
      simp only [PyExc.isInstance, hcls, ExcClass.bases, reduceCtorEq, decide_true, decide_false,
        List.mem_cons, List.not_mem_nil, or_false, or_true, Bool.or_self, Bool.or_true, Bool.or_false,
        Bool.false_eq_true, if_true, if_false] at h
    all_goals exact refusesWith_of_refuse h rfl (by decide)

theorem presentEvaluator_refuses (h : presentEvaluator app req subject = .error stop) :
    RefusesWith req (some subject) stop := by
  unfold presentEvaluator at h
  split at h
  next => cases h
  next => exact refusesWith_of_refuse h rfl (by decide)

theorem evaluated_refuses {exc : PyExc} (h : evaluated req subject (.error exc) = .error stop) :
    RefusesWith req (some subject) stop := by
  simp only [evaluated] at h
  split at h
  next => exact refusesWith_of_refuse h rfl (by decide)
  next => exact refusesWith_of_refuse h rfl (by decide)

end

end OperationAware

/-! ## One record -/

/-- The events among these moments. -/
def events (ms : List Moment) : List AuditEvent :=
  ms.filterMap fun
    | .called _ => none
    | .wrote event => some event

@[simp] theorem events_append (ms ns : List Moment) : events (ms ++ ns) = events ms ++ events ns :=
  List.filterMap_append

/-- Authentication was asked, and returned this subject. -/
def AuthenticatedAs (app : App) (req : Request) (asked : List Call) (subject : NormalizedSubject) : Prop :=
  Call.authenticate ∈ asked ∧ CallerIs app req subject

/-- The kernel was called, and returned this result. -/
def KernelReturned (app : App) (asked : List Call) (result : OperationAwareEnforcementResult) : Prop :=
  ∃ call evaluator, Call.operationAwareKernel call ∈ asked ∧ app.operationAwareEvaluator = some evaluator ∧
    evaluator.enforcementPoint call = .ok result

/-- The record of a request that made these calls and was answered so. -/
structure DurablyRecorded (app : App) (req : Request) (asked : List Call) (response : JSONResponse)
    (record : AuditEvent) : Prop where
  httpStatus : Json.get? "http_status" record.detail = some (.int response.statusCode)
  correlationId : record.correlationId = some req.correlationId
  subjectId : ∀ id, record.subjectId = some id ↔
    ∃ subject, AuthenticatedAs app req asked subject ∧ subject.subjectId = id
  completed : record.action = OperationAwareEvents.authorizationCompleted ↔
    ∃ result evidence, KernelReturned app asked result ∧ result.auditEvidence = some evidence
  agrees : ∀ result evidence, KernelReturned app asked result → result.auditEvidence = some evidence →
    Agrees record response result evidence

theorem callerIs_unique {app : App} {req : Request} {subject subject' : NormalizedSubject}
    (h : CallerIs app req subject) (h' : CallerIs app req subject') : subject' = subject := by
  obtain ⟨token, identityContext, ht, ha⟩ := h
  obtain ⟨token', identityContext', ht', ha'⟩ := h'
  obtain rfl := Except.ok.inj (ht.symm.trans ht')
  cases ha.symm.trans ha'
  rfl

/-- The results the kernel documents: self-consistent, with ids that are not blank, and evidence that
writes its own id down. -/
structure DocumentedResult (result : OperationAwareEnforcementResult) : Prop where
  selfConsistent : result.response.SelfConsistent
  requestId_not_blank : blank result.response.requestId = false
  evidenceId_not_blank : ∀ evidence, result.auditEvidence = some evidence → blank evidence.evidenceId = false
  evidence_dump : ∀ evidence, result.auditEvidence = some evidence →
    evidence.dump.member "evidence_id" = some (.str evidence.evidenceId)

namespace OperationAware

variable {app : App} {req : Request}

/-- What composition made is of this request and its caller. -/
theorem composition_assembles {request : OperationAwareEvaluateRequest} {subject : NormalizedSubject}
    {identityContext : IdentityContext} {trust : OperationProducerTrust} {composed : ComposedOperationAwareInput}
    (h : composition app req request subject identityContext trust = .ok composed) :
    AssembledFrom request subject trust req.correlationId composed.action composed := by
  obtain ⟨-, -, -, action, resource, -, -, hassembled⟩ :=
    composeOperationAwareInput_ok (composed_of_composition h)
  rw [hassembled.action]
  exact hassembled.toAssembledFrom

/-- A script that answers, and leaves one record. -/
def LeavesRecord (app : App) (req : Request) (S : Script Effect Exit JSONResponse) : Prop :=
  ∃ response record, answerOf S.result = .ok response ∧ events (S.effects.map Effect.moment) = [record] ∧
    DurablyRecorded app req (callsOf S.effects) response record

/-- A stop before the kernel returned. -/
theorem leavesRecord_of_refuses {subject : Option NormalizedSubject} {stop : Stop}
    (h : RefusesWith req subject stop) (before : List Effect) (hquiet : events (before.map Effect.moment) = [])
    (hsubject : ∀ caller, AuthenticatedAs app req (callsOf before) caller ↔ subject = some caller)
    (hkernel : ∀ result, ¬ KernelReturned app (callsOf before) result) :
    LeavesRecord app req ⟨before ++ stop.effects, .error stop.exit⟩ := by
  obtain ⟨action, reason, response, haction, heffects, hexit⟩ := h
  have hcalls : callsOf (before ++ stop.effects) = callsOf before := by simp
  refine ⟨response, event req action (some reason) (some response.statusCode) (subject.map (·.subjectId)),
    by rw [hexit]; rfl, ?_, ?_⟩
  · rw [List.map_append, events_append, hquiet, heffects]
    rfl
  rw [hcalls]
  refine ⟨rfl, rfl, fun id => ?_, ?_, fun result evidence hresult => absurd hresult (hkernel result)⟩
  · show subject.map (·.subjectId) = some id ↔ _
    rw [Option.map_eq_some_iff]
    exact exists_congr fun caller => and_congr_left' (hsubject caller).symm
  · refine iff_of_false haction ?_
    rintro ⟨result, evidence, hresult, -⟩
    exact hkernel result hresult

theorem not_kernelReturned {asked : List Call} (h : ∀ call, Call.operationAwareKernel call ∉ asked)
    (result : OperationAwareEnforcementResult) : ¬ KernelReturned app asked result := by
  rintro ⟨call, -, hcall, -⟩
  exact h call hcall

theorem leavesRecord_of_stopsAt (hdoc : DocumentedCertificates app req) {before : List Effect} {stop : Stop}
    (h : StopsAt app req before stop) : LeavesRecord app req ⟨before ++ stop.effects, .error stop.exit⟩ := by
  have hunasked (caller : NormalizedSubject) :
      AuthenticatedAs app req (callsOf [.record .bodyRead]) caller ↔ none = some caller :=
    iff_of_false (fun hcaller => by simpa using hcaller.1) (by simp)
  have hidentified {request : OperationAwareEvaluateRequest} {subject : NormalizedSubject}
      {identityContext : IdentityContext} (hid : Identified app req request subject identityContext)
      (href : RefusesWith req (some subject) stop) :
      LeavesRecord app req ⟨[.record .bodyRead, .record .authenticate] ++ stop.effects, .error stop.exit⟩ := by
    obtain ⟨token, hcaller⟩ := hid.caller
    refine leavesRecord_of_refuses href _ rfl (fun caller => ?_) (not_kernelReturned (by simp))
    refine ⟨fun h => ?_, fun h => ?_⟩
    · rw [callerIs_unique ⟨token, identityContext, hcaller⟩ h.2]
    · obtain rfl := Option.some.inj h
      exact ⟨by simp, token, identityContext, hcaller⟩
  cases h with
  | body hb => exact leavesRecord_of_refuses (body_refuses hb) _ rfl hunasked (not_kernelReturned (by simp))
  | bearer request hbody ht =>
    exact leavesRecord_of_refuses (bearer_refuses ht) _ rfl hunasked (not_kernelReturned (by simp))
  | authentication request token hbody ht ha =>
    obtain ⟨exc, hraised, -⟩ := authenticationGate_error ha
    refine leavesRecord_of_refuses (authentication_refuses ha) _ rfl (fun caller => ?_)
      (not_kernelReturned (by simp))
    refine iff_of_false ?_ (by simp)
    rintro ⟨-, token', identityContext, htoken', hcaller⟩
    obtain rfl := Except.ok.inj ((bearerGate_ok ht).symm.trans htoken')
    rw [hraised] at hcaller
    cases hcaller
  | producerTrust request subject identityContext hid hp =>
    exact hidentified hid (producerTrust_refuses hdoc hp)
  | composition request subject identityContext trust hid hc => exact hidentified hid (composition_refuses hc)
  | evaluator request subject identityContext hid he => exact hidentified hid (presentEvaluator_refuses he)

/-- What was asked of the outside once the kernel was called. -/
def askedOnce (call : OperationAwareKernelCall) : List Call :=
  [.bodyRead, .authenticate, .evaluator, .operationAwareKernel call]

/-- Only one result is the kernel's. -/
theorem kernelReturned_askedOnce {evaluator : OperationAwareGatewayEvaluator} {call : OperationAwareKernelCall}
    {result : OperationAwareEnforcementResult} (hevaluator : app.operationAwareEvaluator = some evaluator)
    (hr : evaluator.enforcementPoint call = .ok result) (result' : OperationAwareEnforcementResult) :
    KernelReturned app (askedOnce call) result' ↔ result' = result := by
  constructor
  · rintro ⟨call', evaluator', hcall, hevaluator', hr'⟩
    obtain rfl := Option.some.inj (hevaluator.symm.trans hevaluator')
    obtain rfl : call' = call := by simpa [askedOnce] using hcall
    exact Except.ok.inj (hr'.symm.trans hr)
  · rintro rfl
    exact ⟨call, evaluator, by simp [askedOnce], hevaluator, hr⟩

/-- A returned result is recorded under its caller's id, as completed when it has evidence. -/
theorem durablyRecorded_returned {a : Admitted} (ha : Through app req a) {call : OperationAwareKernelCall}
    {result : OperationAwareEnforcementResult} (hr : a.evaluator.enforcementPoint call = .ok result)
    {record : AuditEvent} (hstatus : Json.get? "http_status" record.detail = some (.int result.httpStatus))
    (hcorrelation : record.correlationId = some a.composed.correlationId)
    (hsubject : record.subjectId = some a.composed.authorizationSubject.subjectId)
    (hcompleted : record.action = OperationAwareEvents.authorizationCompleted ↔
      ∃ evidence, result.auditEvidence = some evidence)
    (hagrees : ∀ evidence, result.auditEvidence = some evidence →
      Agrees record (resultResponse result) result evidence) :
    DurablyRecorded app req (askedOnce call) (resultResponse result) record := by
  have hevaluator : app.operationAwareEvaluator = some a.evaluator := presentEvaluator_ok ha.evaluator
  have hreturned := kernelReturned_askedOnce hevaluator hr
  have hcomposition := composition_assembles ha.composition
  have hcaller : CallerIs app req a.subject :=
    ⟨a.token, a.identityContext, bearerGate_ok ha.bearer, authenticationGate_ok ha.authentication⟩
  refine ⟨hstatus, ?_, fun id => ?_, hcompleted.trans ?_, fun result' evidence h he => ?_⟩
  · rw [hcorrelation, hcomposition.correlationId]
  · rw [hsubject, hcomposition.subject, Option.some.injEq]
    constructor
    · rintro rfl
      exact ⟨a.subject, ⟨by simp [askedOnce], hcaller⟩, rfl⟩
    · rintro ⟨caller, ⟨-, h⟩, rfl⟩
      rw [callerIs_unique hcaller h]
  · constructor
    · rintro ⟨evidence, he⟩
      exact ⟨result, evidence, (hreturned result).2 rfl, he⟩
    · rintro ⟨result', evidence, h, he⟩
      obtain rfl := (hreturned result').1 h
      exact ⟨evidence, he⟩
  · obtain rfl := (hreturned result').1 h
    exact hagrees evidence he

/-- The effects of an admitted request up to its kernel's answer. -/
def toKernel (call : OperationAwareKernelCall) : List Effect :=
  (askedOnce call).map .record

/-- The script of an admitted request whose kernel returned. -/
theorem script_returned {a : Admitted} {call : OperationAwareKernelCall} {result : OperationAwareEnforcementResult}
    (hk : a.composed.kernelCall app.models app.printable req.readings = .ok call)
    (hr : a.evaluator.enforcementPoint call = .ok result) :
    (⟨[.record .bodyRead, .record .authenticate], .ok a⟩ >>= decideScript app req true) =
      (⟨toKernel call, .ok ()⟩ >>= fun _ => durableRecordScript req true result a.composed >>= fun _ =>
        pure (resultResponse result)) := by
  rw [bind_ok, decideScript_result true hk hr, bind_ok, bind_ok]
  rfl

/-- The record of a completed evaluation. -/
def completedRecord (req : Request) (a : Admitted) (result : OperationAwareEnforcementResult)
    (evidence : AuditEvidence) : AuditEvent :=
  completedEvent req.method req.path result.httpStatus result a.composed evidence
    (gatewayAuditEventOf result evidence)

theorem durableRecordScript_of_assembled {a : Admitted} {result : OperationAwareEnforcementResult}
    {evidence : AuditEvidence} (he : result.auditEvidence = some evidence)
    (h : assembleGatewayAuditEvent result evidence = .ok (gatewayAuditEventOf result evidence)) :
    durableRecordScript req true result a.composed = perform (.emit (completedRecord req a result evidence)) := by
  simp only [durableRecordScript, he, if_true, h]
  rfl

/-- One effect is recorded after the kernel's answer, and the answer is given. -/
theorem leavesRecord_of_recorded {a : Admitted} {call : OperationAwareKernelCall}
    {result : OperationAwareEnforcementResult}
    (hk : a.composed.kernelCall app.models app.printable req.readings = .ok call)
    (hr : a.evaluator.enforcementPoint call = .ok result) {record : AuditEvent}
    (hscript : durableRecordScript req true result a.composed = perform (.emit record))
    (hrecorded : DurablyRecorded app req (askedOnce call) (resultResponse result) record) :
    LeavesRecord app req (⟨[.record .bodyRead, .record .authenticate], .ok a⟩ >>= decideScript app req true) := by
  rw [script_returned hk hr, hscript]
  exact ⟨resultResponse result, record, rfl, rfl, hrecorded⟩

theorem leavesRecord_of_through {a : Admitted} (ha : Through app req a)
    (hdoc : ∀ call result, a.composed.kernelCall app.models app.printable req.readings = .ok call →
      a.evaluator.enforcementPoint call = .ok result → DocumentedResult result) :
    LeavesRecord app req (⟨[.record .bodyRead, .record .authenticate], .ok a⟩ >>= decideScript app req true) := by
  have hevaluator : app.operationAwareEvaluator = some a.evaluator := presentEvaluator_ok ha.evaluator
  have hcaller : CallerIs app req a.subject :=
    ⟨a.token, a.identityContext, bearerGate_ok ha.bearer, authenticationGate_ok ha.authentication⟩
  have hsubject {asked : List Call} (hasked : Call.authenticate ∈ asked) (caller : NormalizedSubject) :
      AuthenticatedAs app req asked caller ↔ some a.subject = some caller := by
    refine ⟨fun h => by rw [callerIs_unique hcaller h.2], fun h => ?_⟩
    obtain rfl := Option.some.inj h
    exact ⟨hasked, hcaller⟩
  rcases hk : a.composed.kernelCall app.models app.printable req.readings with exc | call
  · obtain ⟨stop, hs⟩ := evaluated_error req a.subject exc
    have h := leavesRecord_of_refuses (evaluated_refuses hs)
      [.record .bodyRead, .record .authenticate, .record .evaluator] rfl (hsubject (by simp))
      (not_kernelReturned (by simp))
    rw [bind_ok, decideScript_unbuilt true hk hs]
    exact h
  rcases hr : a.evaluator.enforcementPoint call with exc | result
  · obtain ⟨stop, hs⟩ := evaluated_error req a.subject exc
    have hkernel (result : OperationAwareEnforcementResult) :
        ¬ KernelReturned app (callsOf (toKernel call)) result := by
      rintro ⟨call', evaluator, hcall, hevaluator', hr'⟩
      obtain rfl := Option.some.inj (hevaluator.symm.trans hevaluator')
      obtain rfl : call' = call := by simpa [toKernel, askedOnce] using hcall
      rw [hr] at hr'
      cases hr'
    have h := leavesRecord_of_refuses (evaluated_refuses hs) (toKernel call) rfl
      (hsubject (by simp [toKernel, askedOnce])) hkernel
    rw [bind_ok, decideScript_raised true hk hr hs]
    exact h
  have hresult := hdoc call result hk hr
  rcases he : result.auditEvidence with - | evidence
  · have hscript : durableRecordScript req true result a.composed =
        perform (.emit (missingEvidenceEvent req.method req.path result.httpStatus a.composed)) := by
      simp only [durableRecordScript, he]
    refine leavesRecord_of_recorded hk hr hscript
      (durablyRecorded_returned ha hr rfl rfl rfl ?_ fun evidence h => by rw [he] at h; cases h)
    refine iff_of_false ?_ (by simp [he])
    show OperationAwareEvents.evidenceMissing ≠ OperationAwareEvents.authorizationCompleted
    decide
  · have hassemble := assemble_of_not_blank hresult.selfConsistent hresult.requestId_not_blank
      (hresult.evidenceId_not_blank evidence he)
    refine leavesRecord_of_recorded hk hr (durableRecordScript_of_assembled he hassemble)
      (durablyRecorded_returned ha hr rfl rfl rfl (iff_of_true rfl ⟨evidence, he⟩) fun evidence' h => ?_)
    obtain rfl := Option.some.inj (he.symm.trans h)
    exact agrees_completed req.method req.path result.httpStatus result a.composed he
      (hresult.evidence_dump evidence he)

theorem leavesRecord_script (hcertificates : DocumentedCertificates app req)
    (hdoc : ∀ result, KernelReturned app (callsOf (script app req true).effects) result →
      DocumentedResult result) : LeavesRecord app req (script app req true) := by
  unfold script at hdoc ⊢
  rcases admissionScript_cases app req with ⟨a, ha, hS⟩ | ⟨before, stop, hstop, hS⟩
  · rw [hS] at hdoc ⊢
    refine leavesRecord_of_through ha fun call result hk hr => hdoc result ?_
    obtain ⟨es, -, heffects, -⟩ := decideScript_returned true hk hr
    refine ⟨call, a.evaluator, ?_, presentEvaluator_ok ha.evaluator, hr⟩
    rw [bind_ok, heffects]
    simp
  · rw [hS, bind_error]
    exact leavesRecord_of_stopsAt hcertificates hstop

end OperationAware

/-- What a durable record is stated for: the request resumes with a writer whose events can be built,
and certificate failures and the kernel's result are as documented. -/
structure RecordsDurably (app : App) (req : Request) (between : World → World) (w : World) : Prop where
  resumes : Resumes .operationAware app req between w
  certificates : OperationAware.DocumentedCertificates app req
  results : ∀ result,
    KernelReturned app (calls (Endpoint.operationAware.serve app req between w).observed) result →
      DocumentedResult result

/-- **One durable record.** Whatever the body, the authenticator and the kernel return or raise, and
whatever the sink does: the request is answered, and besides at most a recovery probe its handler
attempts one write, of a record with the answer's status, the request's correlation id, the id of the
authenticated subject, and the facts of the kernel's result. -/
theorem one_durable_record (app : App) (req : Request) (between : World → World) (w : World)
    (h : RecordsDurably app req between w) :
    let served := Endpoint.operationAware.serve app req between w
    ∃ probe trail response record, IsProbe .operationAware req probe ∧
      moments served.observed = probe ++ trail ∧ events trail = [record] ∧
      served.answer = .ok response ∧ DurablyRecorded app req (calls served.observed) response record := by
  obtain ⟨hanswer, hcalls, probe, hprobe, hmoments⟩ := h.resumes.serve
  have hresults := h.results
  rw [hcalls] at hresults
  obtain ⟨response, record, hresponse, hrecord, hrecorded⟩ :=
    OperationAware.leavesRecord_script h.certificates hresults
  refine ⟨probe, _, response, record, hprobe, hmoments, hrecord, hanswer.trans hresponse, ?_⟩
  rw [hcalls]
  exact hrecorded

/-! ## The record of a completed evaluation -/

/-- The kernel of a request with this body returned this result: it echoes the request id it was given,
and is self-consistent, with evidence of the id the gateway generated. -/
structure CompletesWith (app : App) (req : Request) (between : World → World) (w : World)
    (request : OperationAwareEvaluateRequest) (result : OperationAwareEnforcementResult)
    (evidence : AuditEvidence) : Prop where
  resumes : Resumes .operationAware app req between w
  parsed : ∃ bytes, req.body = .ok bytes ∧ app.parseOperationAwareEvaluateRequest bytes = .ok request
  returned : ∃ call evaluator,
    Call.operationAwareKernel call ∈ calls (Endpoint.operationAware.serve app req between w).observed ∧
    app.operationAwareEvaluator = some evaluator ∧ evaluator.enforcementPoint call = .ok result ∧
    result.response.requestId = call.request.requestId ∧ evidence.evidenceId = call.evidenceId
  selfConsistent : result.response.SelfConsistent
  auditEvidence : result.auditEvidence = some evidence
  generated_not_blank : blank req.readings.evidenceId = false

/-- The answer is classified from the result, after one attempt to write its record. -/
def CompletionRecorded (result : OperationAwareEnforcementResult) (served : Served) : Prop :=
  served.answer = .ok (OperationAware.resultResponse result) ∧
  ∃ record, (events (moments served.observed)).filter
    (·.action = OperationAwareEvents.authorizationCompleted) = [record]

/-- The request id is the caller's, else the correlation id. -/
theorem blank_getD {requestId : Option String} {correlationId : String} (h : blank correlationId = false) :
    blank (requestId.getD correlationId) = false ↔ ∀ id, requestId = some id → blank id = false := by
  rcases requestId with - | requestId
  · exact iff_of_true h fun id hid => by cases hid
  · simp only [Option.getD_some, Option.some.injEq, forall_eq']

/-- **A completed evaluation is recorded, exactly.** Whatever the body, the producer's trust, the
kernel's result and the sink: once the kernel has returned, the handler gives the answer classified
from its result after one attempt to write the completed record, if and only if the body's request id
is absent or not blank. -/
theorem completion_recorded_iff (app : App) (req : Request) (between : World → World) (w : World)
    (request : OperationAwareEvaluateRequest) (result : OperationAwareEnforcementResult)
    (evidence : AuditEvidence) (h : CompletesWith app req between w request result evidence) :
    CompletionRecorded result (Endpoint.operationAware.serve app req between w) ↔
      ∀ id, request.requestId = some id → blank id = false := by
  obtain ⟨hanswer, hcalls, probe, hprobe, hmoments⟩ := h.resumes.serve
  obtain ⟨call, evaluator, hcall, hevaluator, hr, hechoes, hevidence⟩ := h.returned
  rw [hcalls] at hcall
  obtain ⟨a, ha, hS, hk⟩ := OperationAware.through_of_kernel hcall
  obtain rfl := Option.some.inj ((OperationAware.presentEvaluator_ok ha.evaluator).symm.trans hevaluator)
  rw [OperationAware.script_returned hk hr] at hS
  have hrequest : a.request = request := by
    obtain ⟨bytes, hbytes, hparse⟩ := h.parsed
    exact Except.ok.inj (ha.body.symm.trans (bodyGate_of_parse hbytes hparse))
  have hid : result.response.requestId = request.requestId.getD req.correlationId := by
    rw [hechoes, kernelCall_eq hk, ← hrequest]
    exact (OperationAware.composition_assembles ha.composition).requestId
  rw [← blank_getD req.correlationId_not_blank, ← hid]
  have hgenerated : blank evidence.evidenceId = false := by
    rw [hevidence, kernelCall_eq hk]
    exact h.generated_not_blank
  have hprobes : (events probe).filter (·.action = OperationAwareEvents.authorizationCompleted) = [] := by
    rcases hprobe with rfl | rfl <;> rfl
  cases hblank : blank result.response.requestId with
  | false =>
    have hassemble := assemble_of_not_blank h.selfConsistent hblank hgenerated
    rw [OperationAware.durableRecordScript_of_assembled h.auditEvidence hassemble] at hS
    refine iff_of_true ⟨?_, OperationAware.completedRecord req a result evidence, ?_⟩ rfl
    · rw [hanswer]
      exact congrArg (fun S : Script Effect Exit JSONResponse => answerOf S.result) hS
    · have heffects : (OperationAware.script app req true).effects = _ := congrArg Script.effects hS
      rw [hmoments, events_append, List.filter_append, hprobes, List.nil_append]
      show (events ((OperationAware.script app req true).effects.map Effect.moment)).filter _ = _
      rw [heffects]
      rfl
  | true =>
    have hassemble : assembleGatewayAuditEvent result evidence = .error blankRequestId :=
      assemble_of_blank h.selfConsistent hblank
    have hrecord : OperationAware.durableRecordScript req true result a.composed =
        stop (.raised blankRequestId) := by
      simp only [OperationAware.durableRecordScript, h.auditEvidence, if_true, hassemble]
    rw [hrecord] at hS
    refine iff_of_false ?_ (by simp)
    rintro ⟨hgiven, -⟩
    have hraised : (OperationAware.script app req true).result = .error (.raised blankRequestId) := by
      rw [hS]
      rfl
    have hescaped := hanswer.symm.trans hgiven
    simp only [Endpoint.script, hraised, answerOf, reduceCtorEq] at hescaped

/-! ## A blank request id -/

/-- What a kernel that completes this call returns: an allow, with the ids it was given. -/
def completed (call : OperationAwareKernelCall) : OperationAwareEnforcementResult where
  response :=
    { requestId := call.request.requestId, correlationId := some call.request.correlationId
      evaluationStatus := .completed, outcome := some .allow, failureReason := none, bundleId := none
      bundleVersion := none, traceId := some call.traceId, reasonCode := none, explanation := none
      evaluationTrace := none }
  auditEvidence := some { evidenceId := call.evidenceId, dump := .obj [("evidence_id", .str call.evidenceId)] }
  disposition := .allow

/-- Its evidence. -/
def readAhuEvidence : AuditEvidence := { evidenceId := "e", dump := .obj [("evidence_id", .str "e")] }

/-- A body with this request id. -/
def readAhuBody (requestId : Option String) : OperationAwareEvaluateRequest where
  requestId := requestId
  action := "read:ahu"
  action_not_blank := readAhu_not_blank
  resourceType := none
  resourceId := none
  context := .empty
  context_empty := OrderedDict.entries_empty
  producerContext := fun _ => none

/-- An application whose every body has this request id, and whose kernel completes. -/
def completingApp (requestId : Option String) : App :=
  { permissiveApp with
    parseOperationAwareEvaluateRequest := fun _ => .ok (readAhuBody requestId)
    operationAwareEvaluator := some ⟨fun call => .ok (completed call)⟩ }

/-- What its kernel is called with. -/
def readAhuCall (requestId : String) : OperationAwareKernelCall where
  request :=
    { requestId, correlationId := "c", subjectId := "operator", subjectRoles := [], subjectAttrs := []
      action := "read:ahu", resource := none, resourceType := none, producerContext := fun _ => none
      evaluationTime := .utc 0 }
  traceId := "t"
  evidenceId := "e"
  recordedAt := .utc 0

theorem resumes_completing (requestId : Option String) :
    Resumes .operationAware (completingApp requestId) bearerRequest id acceptingWorld where
  begun := by
    rw [Endpoint.begin_eq]
    rfl
  recording := ⟨by rw [Endpoint.begin_eq]; rfl, fun _ => rfl⟩

/-- Its kernel is called once. -/
def CallsOnce (requestId : String) : Prop :=
  calls (Endpoint.operationAware.serve (completingApp (some requestId)) bearerRequest id acceptingWorld).observed =
    OperationAware.askedOnce (readAhuCall requestId)

theorem completesWith_completing {requestId : String} (h : CallsOnce requestId) :
    CompletesWith (completingApp (some requestId)) bearerRequest id acceptingWorld
      (readAhuBody (some requestId)) (completed (readAhuCall requestId))
      readAhuEvidence where
  resumes := resumes_completing _
  parsed := ⟨[], rfl, rfl⟩
  returned := ⟨readAhuCall requestId, _, by rw [h]; simp [OperationAware.askedOnce], rfl, rfl, rfl, rfl⟩
  selfConsistent := ⟨rfl, rfl⟩
  auditEvidence := rfl
  generated_not_blank := by decide

theorem completesWith_r : CompletesWith (completingApp (some "r")) bearerRequest id acceptingWorld
    (readAhuBody (some "r")) (completed (readAhuCall "r")) readAhuEvidence :=
  completesWith_completing rfl

/-- The theorem at a request id that is not blank: its completion is recorded. -/
theorem completion_recorded_iff_given :
    CompletionRecorded (completed (readAhuCall "r"))
      (Endpoint.operationAware.serve (completingApp (some "r")) bearerRequest id acceptingWorld) :=
  (completion_recorded_iff _ _ _ _ _ _ _ completesWith_r).2 fun id hid => by
    cases hid
    decide

/-- A request id of one space: the kernel has allowed, an exception leaves the handler, and nothing is
recorded. -/
theorem blank_request_id_escapes :
    let served := Endpoint.operationAware.serve (completingApp (some " ")) bearerRequest id acceptingWorld
    CompletesWith (completingApp (some " ")) bearerRequest id acceptingWorld (readAhuBody (some " "))
      (completed (readAhuCall " ")) readAhuEvidence ∧
    served.answer = .error blankRequestId ∧ events (moments served.observed) = [] ∧
    ¬ CompletionRecorded (completed (readAhuCall " ")) served := by
  have hanswer : (Endpoint.operationAware.serve (completingApp (some " ")) bearerRequest id
      acceptingWorld).answer = .error blankRequestId := rfl
  refine ⟨completesWith_completing rfl, hanswer, rfl, fun h => ?_⟩
  rw [CompletionRecorded, hanswer] at h
  cases h.1

theorem recordsDurably_completing :
    RecordsDurably (completingApp (some "r")) bearerRequest id acceptingWorld where
  resumes := resumes_completing _
  certificates config subject exc hconfig h := by
    cases hconfig
    cases h
  results result h := by
    have hcalls : CallsOnce "r" := rfl
    rw [hcalls] at h
    obtain rfl := (OperationAware.kernelReturned_askedOnce rfl rfl result).1 h
    exact ⟨⟨rfl, rfl⟩, by decide, fun _ he => by cases he; decide, fun _ he => by cases he; rfl⟩

/-- The theorem at that request. -/
theorem one_durable_record_completed :
    let served := Endpoint.operationAware.serve (completingApp (some "r")) bearerRequest id acceptingWorld
    ∃ probe trail response record, IsProbe .operationAware bearerRequest probe ∧
      moments served.observed = probe ++ trail ∧ events trail = [record] ∧ served.answer = .ok response ∧
      DurablyRecorded (completingApp (some "r")) bearerRequest (calls served.observed) response record :=
  one_durable_record (completingApp (some "r")) bearerRequest id acceptingWorld recordsDurably_completing

end BasisGateway
