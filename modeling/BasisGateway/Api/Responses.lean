/-
The response bodies (`api/schemas.py`) and the helpers that build the
gateway's own answers (`api/routes.py`), with the readiness probe's.
-/
import BasisGateway.Readiness
import BasisGateway.Values

namespace BasisGateway

/-- `JSONResponse`. -/
structure JSONResponse where
  statusCode : Nat
  content : Json

/-- `model_dump(exclude_none=True)` of a model with these fields. -/
def modelDump (fields : List (String × Option Json)) : Json :=
  .obj (fields.filterMap fun f => f.2.map fun v => (f.1, v))

/-- `ErrorResponse`. -/
structure ErrorResponse where
  error : String
  message : Option String := none
  correlationId : Option String := none

def ErrorResponse.dump (r : ErrorResponse) : Json :=
  modelDump [("error", some (.str r.error)), ("message", r.message.map .str),
    ("correlation_id", r.correlationId.map .str)]

/-- The shape of every error helper. -/
def errorResponse (statusCode : Nat) (error : String) (message : Option String)
    (correlationId : String) : JSONResponse where
  statusCode := statusCode
  content := ErrorResponse.dump { error, message, correlationId := some correlationId }

def authenticationRequired (message correlationId : String) : JSONResponse :=
  errorResponse 401 "authentication_required" (some message) correlationId

def authenticationFailed (message correlationId : String) : JSONResponse :=
  errorResponse 401 "authentication_failed" (some message) correlationId

def validationFailed (message correlationId : String) : JSONResponse :=
  errorResponse 400 "validation_failed" (some message) correlationId

def producerCertificateRejected (correlationId : String) : JSONResponse :=
  errorResponse 400 "producer_certificate_rejected"
    (some "Producer mTLS certificate assertion could not be established as trustworthy") correlationId

def evaluatorUnavailable (correlationId : String) : JSONResponse :=
  errorResponse 503 "evaluator_unavailable" (some "Evaluator not initialized") correlationId

def auditFailClosed (correlationId : String) : JSONResponse :=
  errorResponse 503 "audit_fail_closed"
    (some "Audit pipeline degraded; evaluation suspended (fail-closed mode)") correlationId

def evaluationFailedClosed (correlationId : String) : JSONResponse :=
  errorResponse 500 "evaluation_failed_closed" (some "Evaluation failed; request denied (fail-closed)")
    correlationId

def internalError (correlationId : String) : JSONResponse :=
  errorResponse 500 "internal_error" none correlationId

/-- The `error` of an error body. -/
def JSONResponse.errorCode? (r : JSONResponse) : Option String :=
  match r.content with
  | .obj ((key, .str error) :: _) => if key = "error" then some error else none
  | _ => none

/-- An error body of one of the four statuses of a refusal, other than that of suspended
evaluation. -/
def JSONResponse.isRefusal (r : JSONResponse) : Bool :=
  [400, 401, 500, 503].contains r.statusCode && r.errorCode?.any (· != "audit_fail_closed")

theorem JSONResponse.statusCode_of_isRefusal {r : JSONResponse} (h : r.isRefusal = true) :
    r.statusCode ∈ [400, 401, 500, 503] := by
  simp only [isRefusal, Bool.and_eq_true, List.contains_iff_mem] at h
  exact h.1

theorem JSONResponse.errorCode?_of_isRefusal {r : JSONResponse} (h : r.isRefusal = true) :
    r.errorCode? ≠ some "audit_fail_closed" := by
  intro he
  simp [isRefusal, he] at h

theorem isRefusal_producerCertificateRejected (correlationId : String) :
    (producerCertificateRejected correlationId).isRefusal = true := rfl

/-- `d or None` of a dictionary as a JSON field. -/
def nonEmptyObject (fields : List (String × Json)) : Option Json :=
  if fields.isEmpty then none else some (.obj fields)

/-- `GET /ready`, reading the tracker at one moment. -/
def ready (state : ReadinessState) (correlationId : String) : JSONResponse :=
  let components := nonEmptyObject (state.components.entries.map fun e => (e.1, .bool e.2))
  if state.isReady then
    { statusCode := 200
      content := modelDump [("status", some (.str "ready")), ("service", some (.str "basis-gateway")),
        ("components", components)] }
  else
    { statusCode := 503
      content := modelDump [("status", some (.str "not_ready")), ("service", some (.str "basis-gateway")),
        ("components", components),
        ("reason", some (.str (if state.reason = "" then "application not initialized" else state.reason))),
        ("reasons", nonEmptyObject (state.allReasons.map fun e => (e.1, .str e.2))),
        ("correlation_id", some (.str correlationId))] }

theorem ready_statusCode (state : ReadinessState) (correlationId : String) :
    (ready state correlationId).statusCode = if state.isReady = true then 200 else 503 := by
  rw [ready]
  split <;> rfl

end BasisGateway
