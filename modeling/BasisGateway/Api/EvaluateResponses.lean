/-
The answers that carry a kernel's result: `EvaluateResponse`
(`api/schemas.py`), `OperationAwareEvaluateResponse`
(`api/operation_aware_schemas.py`) and the status table
(`api/operation_aware_classification.py`).
-/
import BasisGateway.Api.Responses
import BasisGateway.Core.Kernel

namespace BasisGateway

/-- Step 9 of `evaluate`. -/
def decisionResponse (decision : DecisionResponse) (correlationId : String) : JSONResponse where
  statusCode := if decision.outcome = .allow then 200 else 403
  content := modelDump [("request_id", some (.str decision.requestId)),
    ("outcome", some (.str decision.outcome.value)), ("reason", some (.str decision.reason)),
    ("policy_version", decision.policyVersion.map .str), ("correlation_id", some (.str correlationId))]

/-- `_FAILURE_REASON_HTTP_STATUS`. -/
def failureReasonHttpStatus : OperationAwareFailureReason → Nat
  | .invalidRequest => 400
  | .unsupportedSchemaVersion => 400
  | .invalidPolicyBundle => 503
  | .policyValidationFailure => 503
  | .conditionEvaluationError => 500
  | .internalEvaluationError => 500

/-- `_UNRECOGNIZED_STATE_HTTP_STATUS`. -/
def unrecognizedStateHttpStatus : Nat := 500

/-- `classify_operation_aware_http_status`. -/
def classifyOperationAwareHttpStatus (evaluationStatus : OperationAwareEvaluationStatus)
    (outcome : Option OperationAwareDecisionOutcome) (failureReason : Option OperationAwareFailureReason) :
    Nat :=
  match evaluationStatus with
  | .completed => match outcome with
    | some .allow => 200
    | some .deny | some .notApplicable => 403
    | none => unrecognizedStateHttpStatus
  | .failed => match failureReason with
    | some reason => failureReasonHttpStatus reason
    | none => unrecognizedStateHttpStatus

/-- The status of a result. -/
def OperationAwareEnforcementResult.httpStatus (result : OperationAwareEnforcementResult) : Nat :=
  classifyOperationAwareHttpStatus result.response.evaluationStatus result.response.outcome
    result.response.failureReason

/-- `OperationAwareEvaluateResponse.from_result`, dumped. -/
def operationAwareEvaluateResponse (result : OperationAwareEnforcementResult) : Json :=
  let response := result.response
  modelDump [("request_id", some (.str response.requestId)),
    ("correlation_id", response.correlationId.map .str),
    ("evaluation_status", some (.str response.evaluationStatus.value)),
    ("outcome", response.outcome.map fun outcome => .str outcome.value),
    ("failure_reason", response.failureReason.map fun reason => .str reason.value),
    ("bundle_id", response.bundleId.map .str), ("bundle_version", response.bundleVersion.map .str),
    ("trace_id", response.traceId.map .str),
    ("evidence_id", result.auditEvidence.map fun evidence => .str evidence.evidenceId),
    ("reason_code", response.reasonCode.map .str), ("explanation", response.explanation.map .str),
    ("disposition", some (.str result.disposition.value)), ("evaluation_trace", response.evaluationTrace)]

theorem decisionResponse_errorCode? (decision : DecisionResponse) (correlationId : String) :
    (decisionResponse decision correlationId).errorCode? = none := rfl

theorem operationAwareEvaluateResponse_errorCode? (statusCode : Nat)
    (result : OperationAwareEnforcementResult) :
    JSONResponse.errorCode? { statusCode, content := operationAwareEvaluateResponse result } = none := rfl

/-- Only a completed allow is a 200, whatever else the response says. -/
theorem classify_eq_200_iff (evaluationStatus : OperationAwareEvaluationStatus)
    (outcome : Option OperationAwareDecisionOutcome) (failureReason : Option OperationAwareFailureReason) :
    classifyOperationAwareHttpStatus evaluationStatus outcome failureReason = 200 ↔
      evaluationStatus = .completed ∧ outcome = some .allow := by
  cases evaluationStatus with
  | completed => rcases outcome with - | (_ | _ | _) <;> simp [classifyOperationAwareHttpStatus,
      unrecognizedStateHttpStatus]
  | failed => rcases failureReason with - | (_ | _ | _ | _ | _ | _) <;>
      simp [classifyOperationAwareHttpStatus, unrecognizedStateHttpStatus, failureReasonHttpStatus]

end BasisGateway
