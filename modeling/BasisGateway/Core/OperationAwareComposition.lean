/-
The trust and composition boundary of the operation-aware endpoint
(`core/operation_aware_composition.py`): a schema-valid body, an
authenticated subject and a producer classification become the one value the
kernel request is built from, with the provenance of each of its fields; or
they are rejected.
-/
import BasisGateway.Auth.OperationProducer

namespace BasisGateway

inductive ProvenanceClassification
  | verified | gatewayDerived | trustedProducerAsserted | untrustedCallerAsserted
  | configurationDerived | unavailable
  deriving DecidableEq, Repr

def ProvenanceClassification.value : ProvenanceClassification → String
  | .verified => "verified"
  | .gatewayDerived => "gateway_derived"
  | .trustedProducerAsserted => "trusted_producer_asserted"
  | .untrustedCallerAsserted => "untrusted_caller_asserted"
  | .configurationDerived => "configuration_derived"
  | .unavailable => "unavailable"

/-- `ComposedOperationAwareInput`. -/
structure ComposedOperationAwareInput where
  requestId : String
  correlationId : String
  authorizationSubject : NormalizedSubject
  identityContext : IdentityContext
  operationProducerTrust : OperationProducerTrust
  action : String
  resourceId : Option String
  resourceType : Option String
  context : Context
  producerContext : ProducerContext
  evaluationTime : DateTime
  provenance : List (String × ProvenanceClassification)

def compositionInternalError (msg : String) : PyExc := { cls := .compositionInternalError, msg }

/-- `UntrustedOperationProducerContextError`: the names of the fields, never their values. -/
def untrustedOperationProducerContext (offending : List ProducerOnlyField) : PyExc :=
  { cls := .untrustedOperationProducerContextError
    msg := "caller is not a classified operation producer and may not supply " ++
      "operation-producer-only field(s): " ++ ", ".intercalate (offending.map (·.name)) }

/-- `ReservedContextKeyError`. -/
def reservedContextKey (printable : Char → Bool) (offending : List String) : PyExc :=
  { cls := .reservedContextKeyError
    msg := "context keys use the reserved " ++ pyRepr printable reservedContextPrefix ++ " namespace " ++
      "and must not be supplied by the caller: " ++ ", ".intercalate offending }

/-- Step 2 for a trust that is `TRUSTED`: each mechanism has its own shape. -/
def checkTrustedSource (printable : Char → Bool) (subject : NormalizedSubject)
    (trust : OperationProducerTrust) : Except PyExc Unit :=
  match trust.source with
  | .configuredSubjectIdAllowlist =>
    if trust.operationProducerSubjectId ≠ some subject.subjectId then
      .error (compositionInternalError ("producer_trust.status is TRUSTED (source=" ++
        pyRepr printable trust.source.value ++ ") but operation_producer_subject_id (" ++
        pyReprOpt printable trust.operationProducerSubjectId ++ ") does not match subject.subject_id (" ++
        pyRepr printable subject.subjectId ++ ")."))
    else .ok ()
  | .mtlsAdmittedUriSan =>
    if trust.operationProducerSubjectId ≠ none then
      .error (compositionInternalError ("producer_trust.status is TRUSTED via MTLS_ADMITTED_URI_SAN but " ++
        "operation_producer_subject_id is not None (" ++
        pyReprOpt printable trust.operationProducerSubjectId ++ "); an mTLS-trusted producer must " ++
        "never carry a bearer subject id as its producer identity — ADR-0008 'Producer vs. " ++
        "authorization subject'."))
    else if truthy trust.producerWorkloadIdentity = false then
      .error (compositionInternalError ("producer_trust.status is TRUSTED via MTLS_ADMITTED_URI_SAN but " ++
        "producer_workload_identity is empty/None; an admitted mTLS producer must always carry its " ++
        "derived URI SAN."))
    else .ok ()
  | _ =>
    .error (compositionInternalError ("producer_trust.status is TRUSTED but source (" ++
      pyRepr printable trust.source.value ++ ") is not a recognized trusted source; this is a " ++
      "gateway-internal programming error, never caller-triggered."))

/-- Step 2: the subject, the identity context and the trust describe one caller. -/
def checkIdentityConsistency (printable : Char → Bool) (subject : NormalizedSubject)
    (identityContext : IdentityContext) (trust : OperationProducerTrust) : Except PyExc Unit :=
  if identityContext.subjectId ≠ subject.subjectId then
    .error (compositionInternalError ("identity_context.subject_id (" ++
      pyRepr printable identityContext.subjectId ++ ") does not match subject.subject_id (" ++
      pyRepr printable subject.subjectId ++ "); the verified identity context and the normalized " ++
      "subject must describe the same authenticated caller."))
  else if trust.authorizationSubjectId ≠ subject.subjectId then
    .error (compositionInternalError ("producer_trust.authorization_subject_id (" ++
      pyRepr printable trust.authorizationSubjectId ++ ") does not match subject.subject_id (" ++
      pyRepr printable subject.subjectId ++ "); the producer-trust classification must have been " ++
      "derived from this same authenticated subject."))
  else match trust.status with
    | .trusted => checkTrustedSource printable subject trust
    | .untrusted =>
      if trust.operationProducerSubjectId ≠ none then
        .error (compositionInternalError ("producer_trust.status is " ++
          pyRepr printable trust.status.value ++ " (not TRUSTED) but operation_producer_subject_id is not " ++
          "None (" ++ pyReprOpt printable trust.operationProducerSubjectId ++ "); an untrusted result " ++
          "must never carry a producer subject id."))
      else .ok ()

/-- Step 11. -/
def provenanceOf (request : OperationAwareEvaluateRequest) (trust : OperationProducerTrust)
    (resource : ResourceCompositionResult) (context : Context) :
    List (String × ProvenanceClassification) :=
  [("authorization_subject_id", .verified),
    ("authorization_subject_roles", .verified),
    ("authorization_subject_attributes", .verified),
    ("operation_producer_subject_id", presentAs .verified trust.operationProducerSubjectId.isSome),
    ("operation_producer_trust", .configurationDerived),
    ("action", if request.resourceType.isSome then .gatewayDerived else .untrustedCallerAsserted),
    ("resource_id", if resource.composed.isSome then .gatewayDerived
      else presentAs .untrustedCallerAsserted resource.resourceId.isSome),
    ("resource_type", presentAs .untrustedCallerAsserted request.resourceType.isSome),
    ("context", presentAs .gatewayDerived (context.entries.isEmpty = false))] ++
  ProducerOnlyField.all.map (fun field =>
    (field.name, presentAs .trustedProducerAsserted (request.producerContext field).isSome)) ++
  [("evaluation_time", .gatewayDerived),
    ("request_id", if request.requestId.isSome then .untrustedCallerAsserted else .gatewayDerived),
    ("correlation_id", .gatewayDerived)]
where
  presentAs (classification : ProvenanceClassification) (present : Bool) : ProvenanceClassification :=
    if present then classification else .unavailable

/-- Step 7: the `combined_context`. -/
def combinedContext (request : OperationAwareEvaluateRequest) (composedAction : String)
    (resource : ResourceCompositionResult) : Context :=
  let withAction := match request.resourceType with
    | none => request.context
    | some resourceType =>
      request.context.update (buildCompositionEvidence request.action resourceType composedAction)
  match resource.composed with
  | none => withAction
  | some (original, resourceType, typed) =>
    withAction.update (buildResourceCompositionEvidence original resourceType typed)

/-- Steps 7 to 11, once action and resource are composed. -/
def composedInput (request : OperationAwareEvaluateRequest) (subject : NormalizedSubject)
    (identityContext : IdentityContext) (trust : OperationProducerTrust) (correlationId : String)
    (evaluationTime : DateTime) (composedAction : String) (resource : ResourceCompositionResult) :
    Except PyExc ComposedOperationAwareInput :=
  let context := combinedContext request composedAction resource
  if evaluationTime.utcOffset = none then
    .error (compositionInternalError ("clock() returned a naive datetime; evaluation_time must always be " ++
      "timezone-aware. This indicates a gateway-internal programming error in the injected clock, never " ++
      "caller input."))
  else .ok
    { requestId := request.requestId.getD correlationId
      correlationId := correlationId
      authorizationSubject := subject
      identityContext := identityContext
      operationProducerTrust := trust
      action := composedAction
      resourceId := resource.resourceId
      resourceType := request.resourceType
      context := context
      producerContext := request.producerContext
      evaluationTime := evaluationTime
      provenance := provenanceOf request trust resource context }

/-- `compose_operation_aware_input`, with the reading of its clock. -/
def composeOperationAwareInput (printable : Char → Bool) (request : OperationAwareEvaluateRequest)
    (subject : NormalizedSubject) (identityContext : IdentityContext) (trust : OperationProducerTrust)
    (correlationId : String) (clock : DateTime) : Except PyExc ComposedOperationAwareInput :=
  if blank correlationId then
    .error (compositionInternalError ("correlation_id must be a non-empty, non-whitespace string; it is " ++
      "gateway-owned and must be supplied by middleware before compose_operation_aware_input() is called."))
  else do
    checkIdentityConsistency printable subject identityContext trust
    let offending := presentOperationProducerOnlyFields request
    if offending ≠ [] ∧ trust.status ≠ .trusted then .error (untrustedOperationProducerContext offending)
    else
      let collisions := reservedKeyCollisions request.context
      if collisions ≠ [] then .error (reservedContextKey printable collisions)
      else
        let composedAction ← composeAction printable request.action request.resourceType
        let resource ← composeResourceId printable request.resourceType request.resourceId
        composedInput request subject identityContext trust correlationId clock composedAction resource

/-! ## What composition leaves -/

section

variable {printable : Char → Bool} {request : OperationAwareEvaluateRequest}
  {subject : NormalizedSubject} {identityContext : IdentityContext} {trust : OperationProducerTrust}
  {correlationId : String} {clock : DateTime} {composed : ComposedOperationAwareInput}

/-- What a composed input has of the request, the caller and the gateway. -/
structure AssembledFrom (request : OperationAwareEvaluateRequest) (subject : NormalizedSubject)
    (trust : OperationProducerTrust) (correlationId action : String) (composed : ComposedOperationAwareInput) :
    Prop where
  requestId : composed.requestId = request.requestId.getD correlationId
  correlationId : composed.correlationId = correlationId
  subject : composed.authorizationSubject = subject
  trust : composed.operationProducerTrust = trust
  action : composed.action = action
  producerContext : composed.producerContext = request.producerContext

/-- All of a composed input, from what its steps returned. -/
structure Assembled (request : OperationAwareEvaluateRequest) (subject : NormalizedSubject)
    (identityContext : IdentityContext) (producerTrust : OperationProducerTrust) (correlationId : String)
    (clock : DateTime) (composedAction : String) (resource : ResourceCompositionResult)
    (composed : ComposedOperationAwareInput) : Prop
    extends AssembledFrom request subject producerTrust correlationId composedAction composed where
  identityContext : composed.identityContext = identityContext
  resourceId : composed.resourceId = resource.resourceId
  resourceType : composed.resourceType = request.resourceType
  context : composed.context = combinedContext request composedAction resource
  evaluationTime : composed.evaluationTime = clock
  provenance : composed.provenance = provenanceOf request producerTrust resource composed.context

theorem composedInput_ok {composedAction : String} {resource : ResourceCompositionResult}
    (h : composedInput request subject identityContext trust correlationId clock composedAction resource =
      .ok composed) :
    Assembled request subject identityContext trust correlationId clock composedAction resource composed := by
  unfold composedInput at h
  split at h
  next => cases h
  next => cases h; exact ⟨⟨rfl, rfl, rfl, rfl, rfl, rfl⟩, rfl, rfl, rfl, rfl, rfl, rfl⟩

/-- The steps of a composition that succeeds. -/
theorem composeOperationAwareInput_ok (h : composeOperationAwareInput printable request subject
    identityContext trust correlationId clock = .ok composed) :
    checkIdentityConsistency printable subject identityContext trust = .ok () ∧
    (presentOperationProducerOnlyFields request = [] ∨ trust.status = .trusted) ∧
    reservedKeyCollisions request.context = [] ∧
    ∃ action resource, composeAction printable request.action request.resourceType = .ok action ∧
      composeResourceId printable request.resourceType request.resourceId = .ok resource ∧
      Assembled request subject identityContext trust correlationId clock action resource composed := by
  unfold composeOperationAwareInput at h
  split at h
  next => cases h
  next =>
    rcases hid : checkIdentityConsistency printable subject identityContext trust with exc | u
    · rw [hid] at h; cases h
    rw [hid] at h
    simp only [bind, Except.bind] at h
    split at h
    next => cases h
    next hgate =>
      split at h
      next => cases h
      next hres =>
        rcases ha : composeAction printable request.action request.resourceType with exc | action
        · rw [ha] at h; cases h
        rcases hr : composeResourceId printable request.resourceType request.resourceId with exc | resource
        · rw [ha, hr] at h; cases h
        rw [ha, hr] at h
        rw [not_and_or, not_not, not_not] at hgate
        exact ⟨rfl, hgate, not_not.1 hres, action, resource, rfl, rfl, composedInput_ok h⟩

/-- What a composed input took to be composed. -/
structure Composes (printable : Char → Bool) (request : OperationAwareEvaluateRequest)
    (subject : NormalizedSubject) (trust : OperationProducerTrust)
    (composed : ComposedOperationAwareInput) : Prop where
  gate : presentOperationProducerOnlyFields request = [] ∨ trust.status = .trusted
  reserved : reservedKeyCollisions request.context = []
  action : composeAction printable request.action request.resourceType = .ok composed.action
  resource : ∃ result, composeResourceId printable request.resourceType request.resourceId = .ok result
  producerContext : composed.producerContext = request.producerContext
  subject : composed.authorizationSubject = subject
  trust : composed.operationProducerTrust = trust

theorem composes_of_ok (h : composeOperationAwareInput printable request subject identityContext trust
    correlationId clock = .ok composed) : Composes printable request subject trust composed := by
  obtain ⟨-, hgate, hres, action, resource, ha, hr, hassembled⟩ := composeOperationAwareInput_ok h
  exact ⟨hgate, hres, by rw [hassembled.action, ha], ⟨resource, hr⟩, hassembled.producerContext,
    hassembled.subject, hassembled.trust⟩

/-! ## What composition raises -/

/-- The classes of its exceptions, each with a clause in the handler. -/
def compositionFailures : List ExcClass :=
  [.compositionInternalError, .untrustedOperationProducerContextError, .reservedContextKeyError,
    .actionCompositionError, .resourceCompositionError]

theorem checkTrustedSource_error {exc : PyExc} (h : checkTrustedSource printable subject trust = .error exc) :
    exc.cls = .compositionInternalError := by
  unfold checkTrustedSource at h
  repeat' split at h
  all_goals cases h
  all_goals rfl

theorem checkIdentityConsistency_error {exc : PyExc}
    (h : checkIdentityConsistency printable subject identityContext trust = .error exc) :
    exc.cls = .compositionInternalError := by
  unfold checkIdentityConsistency at h
  split at h
  next => cases h; rfl
  next =>
    split at h
    next => cases h; rfl
    next =>
      split at h
      next => exact checkTrustedSource_error h
      next =>
        split at h
        next => cases h; rfl
        next => cases h

theorem composeOperationAwareInput_error {exc : PyExc} (h : composeOperationAwareInput printable request
    subject identityContext trust correlationId clock = .error exc) : exc.cls ∈ compositionFailures := by
  unfold composeOperationAwareInput at h
  split at h
  next => cases h; decide
  next =>
    rcases hid : checkIdentityConsistency printable subject identityContext trust with exc' | u
    · rw [hid] at h
      cases h
      simp [checkIdentityConsistency_error hid, compositionFailures]
    rw [hid] at h
    simp only [bind, Except.bind] at h
    split at h
    next => cases h; simp [untrustedOperationProducerContext, compositionFailures]
    next =>
      split at h
      next => cases h; simp [reservedContextKey, compositionFailures]
      next =>
        rcases ha : composeAction printable request.action request.resourceType with exc' | action
        · rw [ha] at h
          cases h
          simp [composeAction_error ha, compositionFailures]
        rcases hr : composeResourceId printable request.resourceType request.resourceId with exc' | resource
        · rw [ha, hr] at h
          cases h
          simp [composeResourceId_error hr, compositionFailures]
        · rw [ha, hr] at h
          simp only [composedInput] at h
          split at h
          next => cases h; decide
          next => cases h

/-- The gate itself: an untrusted caller's producer-only fields are refused by name, before
anything of the request's content is composed. -/
theorem compose_untrusted (hc : blank correlationId = false)
    (hid : checkIdentityConsistency printable subject identityContext trust = .ok ())
    (hp : presentOperationProducerOnlyFields request ≠ []) (ht : trust.status = .untrusted) :
    composeOperationAwareInput printable request subject identityContext trust correlationId clock =
      .error (untrustedOperationProducerContext (presentOperationProducerOnlyFields request)) := by
  simp [composeOperationAwareInput, hc, hid, hp, ht, bind, Except.bind]

end

/-! ## Consistency of what the resolvers return -/

/-- Either mechanism's trust describes the subject it was resolved for. -/
theorem checkIdentityConsistency_classify (printable : Char → Bool) {subject : NormalizedSubject}
    {identityContext : IdentityContext} (h : identityContext.subjectId = subject.subjectId)
    (ids : Finset String) :
    checkIdentityConsistency printable subject identityContext (classifyOperationProducer subject ids) =
      .ok () := by
  unfold classifyOperationProducer
  split
  next => simp [checkIdentityConsistency, h]
  next =>
    split
    next => simp [checkIdentityConsistency, checkTrustedSource, h]
    next => simp [checkIdentityConsistency, h]

theorem checkIdentityConsistency_admitted (printable : Char → Bool) {subject : NormalizedSubject}
    {identityContext : IdentityContext} (h : identityContext.subjectId = subject.subjectId)
    (uris : Finset String) {uri : String} (hu : uri ≠ "" ∨ uri ∉ uris) :
    checkIdentityConsistency printable subject identityContext (admittedTrust subject uris uri) = .ok () := by
  unfold admittedTrust
  split
  next hm =>
    have hne : uri ≠ "" := hu.resolve_right (not_not.2 hm)
    simp [checkIdentityConsistency, checkTrustedSource, h, hne]
  next => simp [checkIdentityConsistency, h]

end BasisGateway
