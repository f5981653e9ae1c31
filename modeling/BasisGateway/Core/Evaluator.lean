/-
The two evaluators (`core/evaluator.py`, `core/operation_aware_evaluator.py`):
each builds its kernel's request from what the handler has, and calls the
kernel once. Whatever is raised on the way is a result here, since the
handlers catch it.
-/
import BasisGateway.World

namespace BasisGateway

open Prog Script

/-- What the clock and the id factories give one request. -/
structure Readings where
  /-- `datetime.now` in `_build_identity_context`. -/
  issuedNow : Int
  /-- `datetime.now` for `DecisionRequest.timestamp`. -/
  timestamp : Int
  /-- `utc_now` in `compose_operation_aware_input`. -/
  evaluationTime : Int
  /-- The evaluator's `clock`. -/
  recordedAt : Int
  traceId : String
  evidenceId : String

/-- The attributes that are strings; the others are dropped. -/
def stringAttributes (attributes : Claims) : List (String × String) :=
  attributes.filterMap fun e => match e.2 with
    | .str s => some (e.1, s)
    | _ => none

/-! ## `GatewayEvaluator` -/

/-- `isinstance(value, (int, float))`; a bool is an int. -/
def Json.isNumber : Json → Bool
  | .bool _ | .int _ | .float _ => true
  | _ => false

/-- A timestamp claim, when it is a number. -/
def timestampClaim (models : CoreModels) (key : String) (claims : Claims) : Except PyExc (Option DateTime) :=
  match Json.get? key claims with
  | some value => if value.isNumber then some <$> models.fromTimestamp value else .ok none
  | none => .ok none

/-- `_build_subject`. -/
def buildSubject (models : CoreModels) (normalized : NormalizedSubject) : Except PyExc Subject :=
  constructing models.subject
    { id := normalized.subjectId
      name := normalized.name
      roles := normalized.roles
      attrs := stringAttributes normalized.attributes }

/-- `_build_identity_context`. -/
def buildIdentityContext (models : CoreModels) (now : DateTime) (subject : Subject) (rawToken : String)
    (claims : Claims) : Except PyExc CoreIdentityContext := do
  let issuedAt := (← timestampClaim models "iat" claims).getD now
  let expiresAt ← timestampClaim models "exp" claims
  constructing models.identityContext { subject, token := rawToken, issuedAt, expiresAt }

/-- The keyword arguments of `GatewayEvaluator.evaluate`. -/
structure EvaluationInput where
  normalizedSubject : NormalizedSubject
  rawToken : String
  claims : Claims
  action : String
  resourceId : Option String
  requestId : String
  correlationId : String
  context : Context

/-- `evaluate`, up to the call of the enforcement point. -/
def EvaluationInput.kernelCall (models : CoreModels) (readings : Readings) (input : EvaluationInput) :
    Except PyExc KernelCall := do
  let subject ← buildSubject models input.normalizedSubject
  let identityContext ← buildIdentityContext models (.utc readings.issuedNow) subject input.rawToken
    input.claims
  let request ← constructing models.decisionRequest
    { requestId := input.requestId
      subjectId := subject.id
      subjectRoles := subject.roles
      subjectAttrs := subject.attrs
      action := input.action
      resourceId := input.resourceId
      context := input.context
      timestamp := .utc readings.timestamp }
  return { request, subject, identityContext, correlationId := input.correlationId }

/-- `evaluate`. The enforcement point writes its own events on the same audit writer. -/
def GatewayEvaluator.evaluate (models : CoreModels) (readings : Readings) (evaluator : GatewayEvaluator)
    (input : EvaluationInput) : HandlerM (Except PyExc DecisionResponse) := do
  match input.kernelCall models readings with
  | .error exc => return .error exc
  | .ok call =>
    record (.kernel call)
    forM (evaluator.enforcementPoint call).writes writeAudit
    return (evaluator.enforcementPoint call).result

/-! ## `OperationAwareGatewayEvaluator` -/

def operationAwareRequestConstructionError (msg : String) : PyExc :=
  { cls := .operationAwareRequestConstructionError, msg }

/-- `_reject_unexpected_composed_context_keys`. -/
def rejectUnexpectedComposedContextKeys (printable : Char → Bool) (context : Context) :
    Except PyExc Unit :=
  let unexpected := context.keys.filter fun key => !startsWith key reservedContextPrefix
  if unexpected ≠ [] then
    .error (operationAwareRequestConstructionError ("composed operation-aware context contains key(s) " ++
      "outside the reserved " ++ pyRepr printable reservedContextPrefix ++ " gateway namespace (" ++
      toString unexpected.length ++ " unexpected key(s)); this is a gateway-internal contract " ++
      "violation, not caller input, and is never silently discarded."))
  else .ok ()

/-- The kernel request, field by field. -/
def decisionRequestOf (composed : ComposedOperationAwareInput) : OperationAwareDecisionRequest where
  requestId := composed.requestId
  correlationId := composed.correlationId
  subjectId := composed.authorizationSubject.subjectId
  subjectRoles := composed.authorizationSubject.roles
  subjectAttrs := stringAttributes composed.authorizationSubject.attributes
  action := composed.action
  resource := composed.resourceId
  resourceType := composed.resourceType
  producerContext := composed.producerContext
  evaluationTime := composed.evaluationTime

/-- `build_operation_aware_decision_request`. -/
def buildOperationAwareDecisionRequest (models : CoreModels) (printable : Char → Bool)
    (composed : ComposedOperationAwareInput) : Except PyExc OperationAwareDecisionRequest := do
  rejectUnexpectedComposedContextKeys printable composed.context
  match constructing models.operationAwareDecisionRequest (decisionRequestOf composed) with
  | .ok request => .ok request
  | .error exc =>
    if exc.isInstance .validationError then
      .error (operationAwareRequestConstructionError ("Failed to construct " ++
        "OperationAwareDecisionRequest from composed operation-aware input (" ++
        toString exc.errors.length ++ " validation error(s))."))
    else .error exc

/-- `_require_tz_aware`. -/
def requireTzAware (value : DateTime) (source : String) : Except PyExc Unit :=
  if value.utcOffset = none then
    .error { cls := .operationAwareEvaluatorInternalError
             msg := source ++ " returned a naive datetime; recorded_at must always be timezone-aware. " ++
              "This indicates a gateway-internal programming error in the injected clock, never caller " ++
              "input." }
  else .ok ()

/-- `evaluate`, up to the call of the enforcement point. -/
def ComposedOperationAwareInput.kernelCall (models : CoreModels) (printable : Char → Bool)
    (readings : Readings) (composed : ComposedOperationAwareInput) :
    Except PyExc OperationAwareKernelCall := do
  let request ← buildOperationAwareDecisionRequest models printable composed
  let recordedAt := DateTime.utc readings.recordedAt
  requireTzAware recordedAt "clock()"
  return { request, traceId := readings.traceId, evidenceId := readings.evidenceId, recordedAt }

/-- `evaluate`. -/
def OperationAwareGatewayEvaluator.evaluate (models : CoreModels) (printable : Char → Bool)
    (readings : Readings) (evaluator : OperationAwareGatewayEvaluator)
    (composed : ComposedOperationAwareInput) :
    HandlerM (Except PyExc OperationAwareEnforcementResult) := do
  match composed.kernelCall models printable readings with
  | .error exc => return .error exc
  | .ok call =>
    record (.operationAwareKernel call)
    return evaluator.enforcementPoint call

/-! ## What they do to the world -/

/-- What `GatewayEvaluator.evaluate` does. -/
def GatewayEvaluator.script (models : CoreModels) (readings : Readings) (evaluator : GatewayEvaluator)
    (input : EvaluationInput) : Script Effect Exit (Except PyExc DecisionResponse) :=
  match input.kernelCall models readings with
  | .error exc => ⟨[], .ok (.error exc)⟩
  | .ok call =>
    let run := evaluator.enforcementPoint call
    ⟨.record (.kernel call) :: run.writes.map .write, .ok run.result⟩

/-- What `OperationAwareGatewayEvaluator.evaluate` does. -/
def OperationAwareGatewayEvaluator.script (models : CoreModels) (printable : Char → Bool)
    (readings : Readings) (evaluator : OperationAwareGatewayEvaluator)
    (composed : ComposedOperationAwareInput) :
    Script Effect Exit (Except PyExc OperationAwareEnforcementResult) :=
  match composed.kernelCall models printable readings with
  | .error exc => ⟨[], .ok (.error exc)⟩
  | .ok call => ⟨[.record (.operationAwareKernel call)], .ok (evaluator.enforcementPoint call)⟩

/-- The worlds with an audit writer, or those without. -/
def HasWriter (present : Bool) (w : World) : Prop := w.writer.isSome = present

theorem HasWriter.act {present : Bool} (e : Effect) (w : World) (h : HasWriter present w) :
    HasWriter present (World.act e w) := (World.act_isSome e w).trans h

/-- From every world with a writer, or from every world without, `p` does what `S` says. -/
abbrev Scripted (present : Bool) {α : Type} (p : HandlerM α) (S : Script Effect Exit α) : Prop :=
  Follows World.act (HasWriter present) p S

theorem GatewayEvaluator.evaluate_scripted (present : Bool) (models : CoreModels) (readings : Readings)
    (evaluator : GatewayEvaluator) (input : EvaluationInput) :
    Scripted present (evaluator.evaluate models readings input) (evaluator.script models readings input) := by
  unfold GatewayEvaluator.evaluate GatewayEvaluator.script
  split
  next exc _ => exact .pure _
  next call _ =>
    have h := (Follows.perform (record_settles (.kernel call))).bind HasWriter.act
      (fun _ => (Follows.forM (I := HasWriter present) HasWriter.act writeAudit_settles
        (evaluator.enforcementPoint call).writes).bind HasWriter.act
          fun _ => .pure (evaluator.enforcementPoint call).result)
    simpa only [perform_bind, bind_ok, pure_eq, List.append_nil] using h

theorem OperationAwareGatewayEvaluator.evaluate_scripted (present : Bool) (models : CoreModels)
    (printable : Char → Bool) (readings : Readings) (evaluator : OperationAwareGatewayEvaluator)
    (composed : ComposedOperationAwareInput) :
    Scripted present (evaluator.evaluate models printable readings composed)
      (evaluator.script models printable readings composed) := by
  unfold OperationAwareGatewayEvaluator.evaluate OperationAwareGatewayEvaluator.script
  split
  next exc _ => exact .pure _
  next call _ =>
    exact (Follows.perform (record_settles (.operationAwareKernel call))).bind HasWriter.act
      fun _ => .pure (evaluator.enforcementPoint call)

/-! ## What the kernel request carries -/

theorem constructing_ok {α : Type} {validate : α → Except PyExc Unit} {a b : α}
    (h : constructing validate a = .ok b) : b = a := by
  unfold constructing at h
  rcases hv : validate a with exc | u
  · rw [hv] at h; cases h
  · rw [hv] at h; cases h; rfl

/-- What a kernel request says of its subject. -/
structure SubjectFields where
  subjectId : String
  subjectRoles : List String
  subjectAttrs : List (String × String)
  deriving DecidableEq, Repr

def DecisionRequest.subjectFields (request : DecisionRequest) : SubjectFields :=
  ⟨request.subjectId, request.subjectRoles, request.subjectAttrs⟩

def OperationAwareDecisionRequest.subjectFields (request : OperationAwareDecisionRequest) :
    SubjectFields := ⟨request.subjectId, request.subjectRoles, request.subjectAttrs⟩

/-- What a kernel request is to say of this subject. -/
def NormalizedSubject.subjectFields (subject : NormalizedSubject) : SubjectFields :=
  ⟨subject.subjectId, subject.roles, stringAttributes subject.attributes⟩

/-- Exactly the string-valued attributes. -/
theorem mem_stringAttributes {attributes : Claims} {key value : String} :
    (key, value) ∈ stringAttributes attributes ↔ (key, Json.str value) ∈ attributes := by
  simp only [stringAttributes, List.mem_filterMap]
  constructor
  · rintro ⟨⟨k, v⟩, hm, h⟩
    split at h
    next s hs =>
      cases h
      obtain rfl : v = .str value := hs
      exact hm
    next => cases h
  · exact fun hm => ⟨_, hm, rfl⟩

/-- The fields of the kernel call of `/v1/evaluate`. -/
structure EvaluationInput.Calls (input : EvaluationInput) (call : KernelCall) : Prop where
  subject : call.request.subjectFields = input.normalizedSubject.subjectFields
  requestId : call.request.requestId = input.requestId
  action : call.request.action = input.action
  resourceId : call.request.resourceId = input.resourceId
  context : call.request.context = input.context
  correlationId : call.correlationId = input.correlationId

theorem EvaluationInput.calls_of_kernelCall {models : CoreModels} {readings : Readings}
    {input : EvaluationInput} {call : KernelCall} (h : input.kernelCall models readings = .ok call) :
    input.Calls call := by
  unfold EvaluationInput.kernelCall at h
  rcases hs : buildSubject models input.normalizedSubject with exc | subject
  · rw [hs] at h; cases h
  rw [hs] at h
  simp only [bind, Except.bind] at h
  rcases hi : buildIdentityContext models (.utc readings.issuedNow) subject input.rawToken input.claims
    with exc | identityContext
  · rw [hi] at h; cases h
  rw [hi] at h
  simp only at h
  split at h
  next => cases h
  next request hr =>
    cases h
    obtain rfl := constructing_ok hr
    obtain rfl := constructing_ok hs
    exact ⟨rfl, rfl, rfl, rfl, rfl, rfl⟩

theorem buildOperationAwareDecisionRequest_ok {models : CoreModels} {printable : Char → Bool}
    {composed : ComposedOperationAwareInput} {request : OperationAwareDecisionRequest}
    (h : buildOperationAwareDecisionRequest models printable composed = .ok request) :
    request = decisionRequestOf composed := by
  unfold buildOperationAwareDecisionRequest at h
  rcases hr : rejectUnexpectedComposedContextKeys printable composed.context with exc | u
  · rw [hr] at h; cases h
  rw [hr] at h
  simp only [constructing, bind, Except.bind, pure, Except.pure] at h
  split at h
  next request' heq =>
    cases h
    split at heq
    next => cases heq
    next => cases heq; rfl
  next =>
    split at h
    next => cases h
    next => cases h

theorem kernelCall_eq {models : CoreModels} {printable : Char → Bool} {readings : Readings}
    {composed : ComposedOperationAwareInput} {call : OperationAwareKernelCall}
    (h : composed.kernelCall models printable readings = .ok call) :
    call = { request := decisionRequestOf composed, traceId := readings.traceId
             evidenceId := readings.evidenceId, recordedAt := .utc readings.recordedAt } := by
  unfold ComposedOperationAwareInput.kernelCall at h
  rcases hb : buildOperationAwareDecisionRequest models printable composed with exc | request
  · rw [hb] at h; cases h
  rw [hb] at h
  cases h
  rw [buildOperationAwareDecisionRequest_ok hb]

theorem kernelCall_request {models : CoreModels} {printable : Char → Bool} {readings : Readings}
    {composed : ComposedOperationAwareInput} {call : OperationAwareKernelCall}
    (h : composed.kernelCall models printable readings = .ok call) :
    call.request = decisionRequestOf composed := by
  rw [kernelCall_eq h]

theorem kernelCall_subjectFields {models : CoreModels} {printable : Char → Bool} {readings : Readings}
    {composed : ComposedOperationAwareInput} {call : OperationAwareKernelCall}
    (h : composed.kernelCall models printable readings = .ok call) :
    call.request.subjectFields = composed.authorizationSubject.subjectFields := by
  rw [kernelCall_request h]
  rfl

end BasisGateway
