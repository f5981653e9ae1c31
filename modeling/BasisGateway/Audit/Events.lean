/-
The gateway's audit events (`audit/gateway_events.py`,
`audit/operation_aware_gateway_events.py`): the action and reason
vocabularies of the two endpoints, and the event each emission builds.
-/
import BasisGateway.Core.OperationAwareComposition

namespace BasisGateway

/-! ## `/v1/evaluate` -/

namespace GatewayEvents

def evaluationRequested : String := "gateway.evaluation_requested"
def authenticationFailed : String := "gateway.authentication_failed"
def validationFailed : String := "gateway.validation_failed"
def evaluatorUnavailable : String := "gateway.evaluator_unavailable"
def evaluationFailedClosed : String := "gateway.evaluation_failed_closed"
def auditRecoveryProbe : String := "gateway.audit_recovery_probe"

end GatewayEvents

/-! ## `/v1/evaluate/operation-aware` -/

namespace OperationAwareEvents

def validationFailed : String := "gateway.operation_aware_validation_failed"
def authenticationFailed : String := "gateway.operation_aware_authentication_failed"
def compositionRejected : String := "gateway.operation_aware_composition_rejected"
def evaluatorUnavailable : String := "gateway.operation_aware_evaluator_unavailable"
def evaluationFailedClosed : String := "gateway.operation_aware_evaluation_failed_closed"
def producerMtlsTrustFailed : String := "gateway.operation_aware_producer_mtls_trust_failed"
def auditRecoveryProbe : String := "gateway.operation_aware_audit_recovery_probe"
def authorizationCompleted : String := "gateway.operation_aware_authorization_completed"
def evidenceMissing : String := "gateway.operation_aware_evidence_missing"

end OperationAwareEvents

/-! ## Reasons

Both modules define the first group, with the same values. -/

namespace Reason

def malformedBody : String := "malformed_request_body"
def invalidFields : String := "invalid_request_fields"
def missingToken : String := "missing_bearer_token"
def invalidToken : String := "invalid_token"
def verifierNotConfigured : String := "verifier_not_configured"
def identityNormalizationFailed : String := "identity_normalization_failed"
def evaluatorNotInitialized : String := "evaluator_not_initialized"
def evaluationException : String := "unexpected_evaluation_exception"
def invalidDecisionRequest : String := "invalid_decision_request"

def producerContextRejected : String := "producer_context_rejected"
def reservedContextKey : String := "reserved_context_key"
def actionOrResourceCompositionFailed : String := "action_or_resource_composition_failed"
def compositionInternalError : String := "composition_internal_error"
def missingAuditEvidence : String := "missing_audit_evidence"

def producerMtlsMissingAssertion : String := "producer_mtls_missing_assertion"
def producerMtlsDuplicateAssertion : String := "producer_mtls_duplicate_assertion"
def producerMtlsOversizedAssertion : String := "producer_mtls_oversized_assertion"
def producerMtlsMalformedEncoding : String := "producer_mtls_malformed_encoding"
def producerMtlsMalformedCertificate : String := "producer_mtls_malformed_certificate"
def producerMtlsNoEligibleUriSan : String := "producer_mtls_no_eligible_uri_san"
def producerMtlsMultipleEligibleUriSans : String := "producer_mtls_multiple_eligible_uri_sans"

end Reason

/-! ## The events -/

/-- A string that may be absent, as a member of an event's detail. -/
def optionalString (s : Option String) : Json := (s.map Json.str).getD .null

/-- The event `emit_gateway_event` builds. -/
def gatewayEvent (method path correlationId action : String) (reason : Option String := none)
    (policyVersion subjectId : Option String := none) (detail : List (String × Json) := []) : AuditEvent where
  action := action
  reason := reason
  correlationId := some correlationId
  subjectId := subjectId
  policyVersion := policyVersion
  detail := [("http_method", .str method), ("request_path", .str path)] ++ detail

/-- The event `emit_operation_aware_system_event` builds. -/
def operationAwareSystemEvent (method path correlationId action : String) (reason : Option String := none)
    (httpStatus : Option Nat := none) (subjectId : Option String := none) : AuditEvent where
  action := action
  reason := reason
  correlationId := some correlationId
  subjectId := subjectId
  detail := [("http_method", .str method), ("request_path", .str path)] ++
    (httpStatus.map fun status => ("http_status", Json.int status)).toList

/-- `GatewayAuditEvent`; its `event_type` is always `gateway_authorization`. -/
structure GatewayAuditEvent where
  requestId : String
  evaluationStatus : OperationAwareEvaluationStatus
  outcome : Option OperationAwareDecisionOutcome
  failureReason : Option OperationAwareFailureReason
  auditEvidenceId : String
  enforcementAction : EnforcementDisposition

namespace GatewayAuditEvent

def invalid (msg : String) : Except PyExc Unit := .error { cls := .valueError, msg }

/-- `__post_init__`, less the checks that the types of the fields make. -/
def postInit (event : GatewayAuditEvent) : Except PyExc Unit := do
  if blank event.requestId then invalid "GatewayAuditEvent.request_id must not be empty."
  match event.evaluationStatus with
  | .failed =>
    if event.outcome.isSome then
      invalid ("GatewayAuditEvent.outcome must be null when evaluation_status is 'failed'; a failed " ++
        "evaluation must never carry a substantive outcome.")
    if event.failureReason.isNone then
      invalid "GatewayAuditEvent.failure_reason must be non-null when evaluation_status is 'failed'."
  | .completed =>
    if event.outcome.isNone then
      invalid "GatewayAuditEvent.outcome must be non-null when evaluation_status is 'completed'."
    if event.failureReason.isSome then
      invalid "GatewayAuditEvent.failure_reason must be null when evaluation_status is 'completed'."
  if blank event.auditEvidenceId then invalid "GatewayAuditEvent.audit_evidence_id must not be empty."

/-- `to_dict`. -/
def toDict (event : GatewayAuditEvent) : Json :=
  .obj [("event_type", .str "gateway_authorization"), ("request_id", .str event.requestId),
    ("evaluation_status", .str event.evaluationStatus.value),
    ("outcome", optionalString (event.outcome.map (·.value))),
    ("failure_reason", optionalString (event.failureReason.map (·.value))),
    ("audit_evidence_id", .str event.auditEvidenceId),
    ("enforcement_action", .str event.enforcementAction.value)]

end GatewayAuditEvent

/-- `assemble_gateway_audit_event`, where there is evidence. -/
def assembleGatewayAuditEvent (result : OperationAwareEnforcementResult) (evidence : AuditEvidence) :
    Except PyExc GatewayAuditEvent :=
  constructing GatewayAuditEvent.postInit
    { requestId := result.response.requestId
      evaluationStatus := result.response.evaluationStatus
      outcome := result.response.outcome
      failureReason := result.response.failureReason
      auditEvidenceId := evidence.evidenceId
      enforcementAction := result.disposition }

/-- The event `emit_operation_aware_completed_event` builds, `build_operation_aware_audit_detail`
included. -/
def completedEvent (method path : String) (httpStatus : Nat) (result : OperationAwareEnforcementResult)
    (composed : ComposedOperationAwareInput) (evidence : AuditEvidence) (event : GatewayAuditEvent) :
    AuditEvent where
  action := OperationAwareEvents.authorizationCompleted
  outcome := some (if result.disposition = .allow then .allowed else .denied)
  correlationId := some composed.correlationId
  subjectId := some composed.authorizationSubject.subjectId
  requestId := some event.requestId
  detail :=
    let trust := composed.operationProducerTrust
    [("http_method", .str method), ("request_path", .str path), ("http_status", .int httpStatus),
      ("operation_producer_subject_id", optionalString trust.operationProducerSubjectId),
      ("operation_producer_trust_status", .str trust.status.value),
      ("operation_producer_trust_source", .str trust.source.value),
      ("operation_producer_workload_identity", optionalString trust.producerWorkloadIdentity),
      ("enforcement_action", .str event.enforcementAction.value),
      ("provenance", .obj (composed.provenance.map fun e => (e.1, .str e.2.value))),
      ("gateway_audit_event", event.toDict), ("audit_evidence", evidence.dump)]

/-- The event `emit_operation_aware_missing_evidence_event` builds. -/
def missingEvidenceEvent (method path : String) (httpStatus : Nat)
    (composed : ComposedOperationAwareInput) : AuditEvent where
  action := OperationAwareEvents.evidenceMissing
  reason := some Reason.missingAuditEvidence
  correlationId := some composed.correlationId
  subjectId := some composed.authorizationSubject.subjectId
  requestId := some composed.requestId
  detail :=
    let trust := composed.operationProducerTrust
    [("http_method", .str method), ("request_path", .str path), ("http_status", .int httpStatus),
      ("operation_producer_subject_id", optionalString trust.operationProducerSubjectId),
      ("operation_producer_trust_status", .str trust.status.value),
      ("operation_producer_workload_identity", optionalString trust.producerWorkloadIdentity)]

end BasisGateway
