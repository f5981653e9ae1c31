/-
The two evaluation handlers (`api/routes.py`).

A handler runs in two atomic parts, before and after the one `await`: the
strict-mode check, and everything from the body on. Between them other
requests may run. Each step of the second part is a gate: it lets the
request through with a value, or refuses it with one audit event and one
answer, or lets an exception escape. The steps, the events, the answers and
the order of the `except` clauses are the source's.
-/
import BasisGateway.Api.EvaluateResponses
import BasisGateway.Core.Evaluator

namespace BasisGateway

/-- What the handlers read of `app.state`, and the libraries they call. Nothing here changes
while the process serves. -/
structure App where
  config : Option GatewayConfig
  /-- `authenticate`, on the verifiers of `app.state`. -/
  authenticate : AuthMode → String → Except PyExc (NormalizedSubject × IdentityContext)
  evaluator : Option GatewayEvaluator
  operationAwareEvaluator : Option OperationAwareGatewayEvaluator
  models : CoreModels
  x509 : X509
  /-- `EvaluateRequest.model_validate_json`. -/
  parseEvaluateRequest : Bytes → Except PyExc EvaluateRequest
  /-- `OperationAwareEvaluateRequest.model_validate_json`. -/
  parseOperationAwareEvaluateRequest : Bytes → Except PyExc OperationAwareEvaluateRequest
  printable : Char → Bool

/-- One request: what it carries, and what the process generates for it. -/
structure Request where
  correlationId : String
  /-- `CorrelationMiddleware` gives every request a UUID. -/
  correlationId_not_blank : blank correlationId = false
  method : String
  path : String
  authorization : Option String
  headers : RawHeaders
  /-- What `await request.body()` returns or raises. -/
  body : Except PyExc Bytes
  readings : Readings

/-! ## Gates -/

/-- One event and one answer. -/
structure Refusal where
  event : AuditEvent
  response : JSONResponse
  governed : response.isRefusal = true

inductive Stop
  | refuse (refusal : Refusal)
  | escape (exc : PyExc)

/-- A step that lets the request through with an `α`, or stops it. -/
abbrev Gate := Except Stop

def refuse {α : Type} (event : AuditEvent) (response : JSONResponse)
    (governed : response.isRefusal = true := by rfl) : Gate α := .error (.refuse { event, response, governed })

/-- The step in a handler: a refusal emits its event and returns its answer. -/
def Gate.pass {α : Type} : Gate α → HandlerM α
  | .ok a => pure a
  | .error (.refuse refusal) => do
    emit refusal.event
    throw (.answered refusal.response)
  | .error (.escape exc) => throw (.raised exc)

/-- `"; ".join(f"{'.'.join(str(loc) for loc in e['loc'])}: {e['msg']}" for e in errors)`. -/
def validationMessage (exc : PyExc) : String :=
  "; ".intercalate (exc.errors.map fun e => ".".intercalate e.loc ++ ": " ++ e.msg)

/-- The reason of a body that failed its schema. -/
def bodyFailureReason (exc : PyExc) : String :=
  if exc.errors.any (·.type = "json_invalid") then Reason.malformedBody else Reason.invalidFields

section SharedSteps

variable {α : Type} (app : App) (req : Request)

/-- The body, read and parsed; `failed` is the endpoint's event for a reason. -/
def bodyGate (parse : Bytes → Except PyExc α) (failed : String → AuditEvent) : Gate α :=
  match req.body.bind parse with
  | .ok parsed => .ok parsed
  | .error exc =>
    if exc.isInstance .validationError then
      refuse (failed (bodyFailureReason exc)) (validationFailed (validationMessage exc) req.correlationId)
    else refuse (failed Reason.malformedBody) (validationFailed "Malformed request body" req.correlationId)

/-- The bearer token. -/
def bearerGate (failed : String → AuditEvent) : Gate String :=
  match extractBearerToken req.authorization with
  | .ok token => .ok token
  | .error exc =>
    if exc.isInstance .tokenExtractionError ∨ exc.isInstance .authenticationError then
      refuse (failed Reason.missingToken) (authenticationRequired exc.msg req.correlationId)
    else .error (.escape exc)

def App.authMode : AuthMode := (app.config.map (·.authMode)).getD .oidc

/-- Runtime authentication. The last clause catches every class. -/
def authenticationGate (token : String) (failed : String → AuditEvent) :
    Gate (NormalizedSubject × IdentityContext) :=
  match app.authenticate app.authMode token with
  | .ok identity => .ok identity
  | .error exc =>
    if exc.isInstance .authNotConfiguredError then
      refuse (failed Reason.verifierNotConfigured)
        (authenticationFailed "Authentication not configured" req.correlationId)
    else if exc.isInstance .subjectMappingError then
      refuse (failed Reason.identityNormalizationFailed)
        (authenticationFailed "Identity normalization failed" req.correlationId)
    else refuse (failed Reason.invalidToken)
      (authenticationFailed "Token verification failed" req.correlationId)

end SharedSteps

/-! ## The strict-mode check -/

/-- `config is not None and config.audit_fail_closed`. -/
def App.auditFailClosed (app : App) : Bool := (app.config.map (·.auditFailClosed)).getD false

/-- `_resolve_audit_fail_closed_response`. -/
def resolveAuditFailClosedResponse (app : App) (correlationId : String) (probe : AuditEvent) :
    HandlerM (Option JSONResponse) := do
  let w ← get
  if app.auditFailClosed && w.degraded then
    emit probe
    let w ← get
    if w.degraded then return some (auditFailClosed correlationId) else return none
  else return none

/-! ## `POST /v1/evaluate` -/

namespace Evaluate

section

variable (app : App) (req : Request)

def event (action : String) (reason : Option String := none) (policyVersion subjectId : Option String := none)
    (detail : List (String × Json) := []) : AuditEvent :=
  gatewayEvent req.method req.path req.correlationId action reason policyVersion subjectId detail

def probe : AuditEvent := event req GatewayEvents.auditRecoveryProbe

/-- Step 1. -/
def body : Gate EvaluateRequest :=
  bodyGate req app.parseEvaluateRequest fun reason => event req GatewayEvents.validationFailed (some reason)

/-- The composed action, resource id and context. -/
structure Composed where
  action : String
  resourceId : Option String
  context : Context

/-- The refusal of steps 1b and 1c. -/
def compositionRefused {α : Type} (message : String) : Gate α :=
  refuse (event req GatewayEvents.validationFailed (some Reason.invalidFields))
    (validationFailed message req.correlationId)

/-- The `effective_context` of step 1b: the caller's, and the evidence of an action that was composed. -/
def actionContext (context : Context) (action : String) (resourceType : Option String) (composedAction : String) :
    Context :=
  match resourceType with
  | some resourceType => context.update (buildCompositionEvidence action resourceType composedAction)
  | none => context

/-- The `effective_context` of step 1c: that of step 1b, and the evidence of a resource id that was composed. -/
def resourceContext (context : Context) (resource : ResourceCompositionResult) : Context :=
  match resource.composed with
  | some (original, resourceType, typed) =>
    context.update (buildResourceCompositionEvidence original resourceType typed)
  | none => context

/-- Steps 1b and 1c. -/
def compose (evalRequest : EvaluateRequest) : Gate Composed :=
  let collisions := reservedKeyCollisions evalRequest.context
  if collisions ≠ [] then
    compositionRefused req ("context keys " ++ pyReprList app.printable collisions ++ " use the reserved '" ++
      reservedContextPrefix ++ "' namespace and must not be supplied by the caller")
  else match composeAction app.printable evalRequest.action evalRequest.resourceType with
    | .error exc =>
      if exc.isInstance .actionCompositionError then compositionRefused req exc.msg else .error (.escape exc)
    | .ok composedAction =>
      let effectiveContext :=
        actionContext evalRequest.context evalRequest.action evalRequest.resourceType composedAction
      match composeResourceId app.printable evalRequest.resourceType evalRequest.resourceId with
      | .error exc =>
        if exc.isInstance .resourceCompositionError then compositionRefused req exc.msg
        else .error (.escape exc)
      | .ok resource => .ok
        { action := composedAction
          resourceId := resource.resourceId
          context := resourceContext effectiveContext resource }

/-- Step 2. -/
def bearer : Gate String :=
  bearerGate req fun reason => event req GatewayEvents.authenticationFailed (some reason)

/-- Steps 3 and 4. -/
def authentication (token : String) : Gate (NormalizedSubject × IdentityContext) :=
  authenticationGate app req token fun reason => event req GatewayEvents.authenticationFailed (some reason)

/-- Step 5. -/
def presentEvaluator (subject : NormalizedSubject) : Gate GatewayEvaluator :=
  match app.evaluator with
  | some evaluator => .ok evaluator
  | none =>
    refuse (event req GatewayEvents.evaluatorUnavailable (some Reason.evaluatorNotInitialized) none
      (some subject.subjectId)) (evaluatorUnavailable req.correlationId)

/-- Step 6: `eval_request.request_id or correlation_id`. -/
def requestId (evalRequest : EvaluateRequest) : String :=
  if truthy evalRequest.requestId then evalRequest.requestId.getD "" else req.correlationId

/-- Step 7. -/
def receipt (evaluator : GatewayEvaluator) (subject : NormalizedSubject) (requestId : String) : AuditEvent :=
  event req GatewayEvents.evaluationRequested none evaluator.policyVersion (some subject.subjectId)
    [("request_id", .str requestId)]

/-- The `except` clauses of step 8. -/
def decided (evaluator : GatewayEvaluator) (subject : NormalizedSubject)
    (outcome : Except PyExc DecisionResponse) : Gate DecisionResponse :=
  match outcome with
  | .ok decision => .ok decision
  | .error exc =>
    if exc.isInstance .validationError then
      refuse (event req GatewayEvents.evaluationFailedClosed (some Reason.invalidDecisionRequest)
        evaluator.policyVersion (some subject.subjectId))
        (validationFailed (validationMessage exc) req.correlationId)
    else refuse (event req GatewayEvents.evaluationFailedClosed (some Reason.evaluationException)
      evaluator.policyVersion (some subject.subjectId)) (evaluationFailedClosed req.correlationId)

/-- What the handler has when it reaches its kernel. -/
structure Admitted where
  request : EvaluateRequest
  composed : Composed
  token : String
  subject : NormalizedSubject
  identityContext : IdentityContext
  evaluator : GatewayEvaluator

/-- Steps 1 to 5. -/
def admission : HandlerM Admitted := do
  record .bodyRead
  let request ← (body app req).pass
  let composed ← (compose app req request).pass
  let token ← (bearer req).pass
  record .authenticate
  let (subject, identityContext) ← (authentication app req token).pass
  let evaluator ← (presentEvaluator app req subject).pass
  return { request, composed, token, subject, identityContext, evaluator }

/-- The arguments of `evaluator.evaluate`. -/
def Admitted.input (a : Admitted) : EvaluationInput where
  normalizedSubject := a.subject
  rawToken := a.token
  claims := a.identityContext.claims
  action := a.composed.action
  resourceId := a.composed.resourceId
  requestId := requestId req a.request
  correlationId := req.correlationId
  context := a.composed.context

/-- The receipt of an admitted request. -/
def Admitted.receipt (a : Admitted) : AuditEvent :=
  Evaluate.receipt req a.evaluator a.subject (requestId req a.request)

/-- Steps 7 to 9. -/
def decide (a : Admitted) : HandlerM JSONResponse := do
  emit (a.receipt req)
  record .evaluator
  let outcome ← a.evaluator.evaluate app.models req.readings (a.input req)
  let decision ← (decided req a.evaluator a.subject outcome).pass
  return decisionResponse decision req.correlationId

/-- Up to the `await`. -/
def start : HandlerM (Option JSONResponse) :=
  resolveAuditFailClosedResponse app req.correlationId (probe req)

/-- From the `await` on. -/
def resume : HandlerM JSONResponse := do
  let admitted ← admission app req
  decide app req admitted

end

end Evaluate

/-! ## `POST /v1/evaluate/operation-aware` -/

/-- The seven classes of the `except` clause of step 4. -/
def producerMtlsFailures : List ExcClass :=
  [.missingProducerCertificateAssertionError, .duplicateProducerCertificateAssertionError,
    .oversizedProducerCertificateAssertionError, .certificateAssertionDecodingError,
    .certificateParsingError, .noEligibleUriSanError, .multipleEligibleUriSansError]

/-- `_producer_mtls_failure_reason`. -/
def producerMtlsFailureReason (exc : PyExc) : Except PyExc String :=
  if exc.isInstance .missingProducerCertificateAssertionError then .ok Reason.producerMtlsMissingAssertion
  else if exc.isInstance .duplicateProducerCertificateAssertionError then
    .ok Reason.producerMtlsDuplicateAssertion
  else if exc.isInstance .oversizedProducerCertificateAssertionError then
    .ok Reason.producerMtlsOversizedAssertion
  else if exc.isInstance .certificateAssertionDecodingError then .ok Reason.producerMtlsMalformedEncoding
  else if exc.isInstance .certificateParsingError then .ok Reason.producerMtlsMalformedCertificate
  else if exc.isInstance .noEligibleUriSanError then .ok Reason.producerMtlsNoEligibleUriSan
  else if exc.isInstance .multipleEligibleUriSansError then .ok Reason.producerMtlsMultipleEligibleUriSans
  else .error { cls := .assertionError, msg := "unreachable: unrecognized producer-mTLS exception type" }

namespace OperationAware

section

variable (app : App) (req : Request)

def event (action : String) (reason : Option String := none) (httpStatus : Option Nat := none)
    (subjectId : Option String := none) : AuditEvent :=
  operationAwareSystemEvent req.method req.path req.correlationId action reason httpStatus subjectId

def probe : AuditEvent := event req OperationAwareEvents.auditRecoveryProbe

/-- Step 1. -/
def body : Gate OperationAwareEvaluateRequest :=
  bodyGate req app.parseOperationAwareEvaluateRequest fun reason =>
    event req OperationAwareEvents.validationFailed (some reason) (some 400)

/-- Step 2. -/
def bearer : Gate String :=
  bearerGate req fun reason => event req OperationAwareEvents.authenticationFailed (some reason) (some 401)

/-- Step 3. -/
def authentication (token : String) : Gate (NormalizedSubject × IdentityContext) :=
  authenticationGate app req token fun reason =>
    event req OperationAwareEvents.authenticationFailed (some reason) (some 401)

/-- Step 4. -/
def producerTrust (subject : NormalizedSubject) : Gate OperationProducerTrust :=
  match app.config with
  | none => .ok (classifyOperationProducer subject ∅)
  | some config =>
    match resolveOperationProducerTrust app.x509 req.headers subject config with
    | .ok trust => .ok trust
    | .error exc =>
      if producerMtlsFailures.any exc.isInstance then
        match producerMtlsFailureReason exc with
        | .ok reason =>
          refuse (event req OperationAwareEvents.producerMtlsTrustFailed (some reason) (some 400)
            (some subject.subjectId)) (producerCertificateRejected req.correlationId)
        | .error exc => .error (.escape exc)
      else .error (.escape exc)

/-- A refusal of composition. -/
def compositionRejected {α : Type} (subject : NormalizedSubject) (reason message : String) : Gate α :=
  refuse (event req OperationAwareEvents.compositionRejected (some reason) (some 400)
    (some subject.subjectId)) (validationFailed message req.correlationId)

/-- Step 5. -/
def composition (oaRequest : OperationAwareEvaluateRequest) (subject : NormalizedSubject)
    (identityContext : IdentityContext) (trust : OperationProducerTrust) :
    Gate ComposedOperationAwareInput :=
  match composeOperationAwareInput app.printable oaRequest subject identityContext trust
      req.correlationId (.utc req.readings.evaluationTime) with
  | .ok composed => .ok composed
  | .error exc =>
    if exc.isInstance .untrustedOperationProducerContextError then
      compositionRejected req subject Reason.producerContextRejected exc.msg
    else if exc.isInstance .reservedContextKeyError then
      compositionRejected req subject Reason.reservedContextKey exc.msg
    else if exc.isInstance .operationAwareCompositionError then
      compositionRejected req subject Reason.actionOrResourceCompositionFailed exc.msg
    else if exc.isInstance .actionCompositionError ∨ exc.isInstance .resourceCompositionError then
      compositionRejected req subject Reason.actionOrResourceCompositionFailed exc.msg
    else if exc.isInstance .compositionInternalError then
      refuse (event req OperationAwareEvents.evaluationFailedClosed (some Reason.compositionInternalError)
        (some 500) (some subject.subjectId)) (internalError req.correlationId)
    else .error (.escape exc)

/-- Step 6. -/
def presentEvaluator (subject : NormalizedSubject) : Gate OperationAwareGatewayEvaluator :=
  match app.operationAwareEvaluator with
  | some evaluator => .ok evaluator
  | none =>
    refuse (event req OperationAwareEvents.evaluatorUnavailable (some Reason.evaluatorNotInitialized)
      (some 503) (some subject.subjectId)) (evaluatorUnavailable req.correlationId)

/-- The `except` clauses of step 7. -/
def evaluated (subject : NormalizedSubject) (outcome : Except PyExc OperationAwareEnforcementResult) :
    Gate OperationAwareEnforcementResult :=
  match outcome with
  | .ok result => .ok result
  | .error exc =>
    if exc.isInstance .operationAwareRequestConstructionError then
      compositionRejected req subject Reason.invalidDecisionRequest exc.msg
    else refuse (event req OperationAwareEvents.evaluationFailedClosed (some Reason.evaluationException)
      (some 500) (some subject.subjectId)) (evaluationFailedClosed req.correlationId)

/-- `emit_operation_aware_completed_event`. The event it assembles is checked outside its `try`. -/
def emitCompletedEvent (result : OperationAwareEnforcementResult) (composed : ComposedOperationAwareInput)
    (evidence : AuditEvidence) : HandlerM Unit := do
  let w ← get
  match w.writer with
  | none => pure ()
  | some _ =>
    match assembleGatewayAuditEvent result evidence with
    | .error exc => throw (.raised exc)
    | .ok event => emit (completedEvent req.method req.path result.httpStatus result composed evidence event)

/-- What the handler has when it reaches its kernel. -/
structure Admitted where
  request : OperationAwareEvaluateRequest
  token : String
  subject : NormalizedSubject
  identityContext : IdentityContext
  trust : OperationProducerTrust
  composed : ComposedOperationAwareInput
  evaluator : OperationAwareGatewayEvaluator

/-- Steps 1 to 6. -/
def admission : HandlerM Admitted := do
  record .bodyRead
  let request ← (body app req).pass
  let token ← (bearer req).pass
  record .authenticate
  let (subject, identityContext) ← (authentication app req token).pass
  let trust ← (producerTrust app req subject).pass
  let composed ← (composition app req request subject identityContext trust).pass
  let evaluator ← (presentEvaluator app req subject).pass
  return { request, token, subject, identityContext, trust, composed, evaluator }

/-- Step 9. -/
def emitDurableRecord (result : OperationAwareEnforcementResult)
    (composed : ComposedOperationAwareInput) : HandlerM Unit :=
  match result.auditEvidence with
  | some evidence => emitCompletedEvent req result composed evidence
  | none => emit (missingEvidenceEvent req.method req.path result.httpStatus composed)

/-- Steps 7 to 9. -/
def decide (a : Admitted) : HandlerM JSONResponse := do
  record .evaluator
  let outcome ← a.evaluator.evaluate app.models app.printable req.readings a.composed
  let result ← (evaluated req a.subject outcome).pass
  emitDurableRecord req result a.composed
  return { statusCode := result.httpStatus, content := operationAwareEvaluateResponse result }

/-- Up to the `await`. -/
def start : HandlerM (Option JSONResponse) :=
  resolveAuditFailClosedResponse app req.correlationId (probe req)

/-- From the `await` on. -/
def resume : HandlerM JSONResponse := do
  let admitted ← admission app req
  decide app req admitted

end

end OperationAware

/-! ## Serving a request -/

inductive Endpoint
  | evaluate | operationAware
  deriving DecidableEq, Repr

def Endpoint.probe : Endpoint → Request → AuditEvent
  | .evaluate => Evaluate.probe
  | .operationAware => OperationAware.probe

def Endpoint.start : Endpoint → App → Request → HandlerM (Option JSONResponse)
  | .evaluate => Evaluate.start
  | .operationAware => OperationAware.start

def Endpoint.resume : Endpoint → App → Request → HandlerM JSONResponse
  | .evaluate => Evaluate.resume
  | .operationAware => OperationAware.resume

/-- A response, or an exception that left the handler. -/
abbrev Answer := Except PyExc JSONResponse

/-- An early `return` is an answer like the last line's. -/
def answerOf : Except Exit JSONResponse → Answer
  | .ok response => .ok response
  | .error (.answered response) => .ok response
  | .error (.raised exc) => .error exc

/-- A request served: its answer, what its handler was observed to do, and the world after it. -/
structure Served where
  answer : Answer
  observed : List Observation
  world : World

/-- The first part. A waiting request has no answer yet. -/
def Endpoint.begin (endpoint : Endpoint) (app : App) (req : Request) (w : World) :
    Option Answer × World :=
  match (endpoint.start app req).exec w with
  | (.ok none, w') => (none, w')
  | (.ok (some response), w') => (some (.ok response), w')
  | (.error exit, w') => (some (answerOf (.error exit)), w')

/-- The second part. -/
def Endpoint.finish (endpoint : Endpoint) (app : App) (req : Request) (w : World) : Answer × World :=
  let (result, w') := (endpoint.resume app req).exec w
  (answerOf result, w')

/-- The whole request, where `between` is what happens to the world while the body is awaited. -/
def Endpoint.serve (endpoint : Endpoint) (app : App) (req : Request) (between : World → World)
    (w : World) : Served :=
  let (begun, w₁) := endpoint.begin app req w
  match begun with
  | some answer => { answer, observed := w₁.since w, world := w₁ }
  | none =>
    let (answer, w₂) := endpoint.finish app req (between w₁)
    { answer, observed := w₁.since w ++ w₂.since (between w₁), world := w₂ }

end BasisGateway
