/-
The guards inside `compose_operation_aware_input` that no caller can trip.
Its internal errors ask that the subject, the identity context and the
producer trust describe one caller, that an admitted producer has a URI, and
that the context has no key but the gateway's own. Authentication, the two
mechanisms, the parser of the admitted URIs and the request model see to
each of these, so that of its errors only those of a request remain.
-/
import BasisGateway.Allowlists
import BasisGateway.CompositionAgreement
import BasisGateway.CompositionEvidence
import BasisGateway.ProducerCertificates
import BasisGateway.ProducerGate
import Mathlib.Data.Finset.Insert

namespace BasisGateway

open Script

/-- The configuration's two allowlists came out of their parsers. -/
structure ParsedAllowlists (jsonLoads : String → Except PyExc Json) (config : GatewayConfig) : Prop where
  subjectIds : ∃ setting, parseOperationProducerSubjectIds setting = .ok config.operationProducerSubjectIds
  admittedUris : ∃ setting,
    parseOperationProducerMtlsAdmittedUris jsonLoads setting = .ok config.operationProducerMtlsAdmittedUris

/-- One of the two mechanisms, whichever is selected, returns this trust for the subject. -/
def ReturnedTrust (x509 : X509) (config : GatewayConfig) (subject : NormalizedSubject)
    (trust : OperationProducerTrust) : Prop :=
  trust = classifyOperationProducer subject config.operationProducerSubjectIds ∨
  ∃ headers, resolveMtlsOperationProducerTrust x509 headers subject config.operationProducerMtlsAdmittedUris =
    .ok trust

/-! ## Composition -/

section

variable {jsonLoads : String → Except PyExc Json} {x509 : X509} {config : GatewayConfig}
  {printable : Char → Bool} {request : OperationAwareEvaluateRequest} {subject : NormalizedSubject}
  {identityContext : IdentityContext} {trust : OperationProducerTrust} {correlationId : String}
  {clock : DateTime} {composed : ComposedOperationAwareInput}

/-- What a mechanism returns describes the caller it was asked about. -/
theorem checkIdentityConsistency_returned (hid : identityContext.subjectId = subject.subjectId)
    (hconfig : ParsedAllowlists jsonLoads config) (htrust : ReturnedTrust x509 config subject trust) :
    checkIdentityConsistency printable subject identityContext trust = .ok () := by
  rcases htrust with rfl | ⟨headers, hresolved⟩
  · exact checkIdentityConsistency_classify printable hid _
  · obtain ⟨uri, -, rfl⟩ := resolveMtls_ok hresolved
    obtain ⟨setting, hparsed⟩ := hconfig.admittedUris
    have hempty := empty_notMem_uris hparsed
    have huri : uri ≠ "" ∨ uri ∉ config.operationProducerMtlsAdmittedUris := by
      by_cases h : uri = ""
      · exact .inr (h ▸ hempty)
      · exact .inl h
    exact checkIdentityConsistency_admitted printable hid _ huri

theorem reservedKeyCollisions_of_request (request : OperationAwareEvaluateRequest) :
    reservedKeyCollisions request.context = [] := by
  have hkeys : request.context.keys = [] := by
    rw [OrderedDict.keys, request.context_empty]
    rfl
  rw [reservedKeyCollisions, hkeys]
  rfl

/-- The classes of the errors a request can cause. -/
def requestFailures : List ExcClass :=
  [.untrustedOperationProducerContextError, .actionCompositionError, .resourceCompositionError]

/-- With its guards satisfied, composition fails only for what the request says. -/
theorem requestFailures_of_consistent {exc : PyExc} (hc : blank correlationId = false)
    (hid : checkIdentityConsistency printable subject identityContext trust = .ok ())
    (hclock : clock.utcOffset ≠ none)
    (h : composeOperationAwareInput printable request subject identityContext trust correlationId clock =
      .error exc) : exc.cls ∈ requestFailures := by
  have hres := reservedKeyCollisions_of_request request
  simp only [composeOperationAwareInput, hc, hid, hres, Bool.false_eq_true, if_false, ne_eq,
    not_true_eq_false, bind, Except.bind] at h
  split at h
  next =>
    cases h
    simp [untrustedOperationProducerContext, requestFailures]
  next =>
    rcases ha : composeAction printable request.action request.resourceType with exc' | action
    · rw [ha] at h
      cases h
      simp [composeAction_error ha, requestFailures]
    rcases hr : composeResourceId printable request.resourceType request.resourceId with exc' | resource
    · rw [ha, hr] at h
      cases h
      simp [composeResourceId_error hr, requestFailures]
    · rw [ha, hr] at h
      simp only [composedInput, hclock, if_false] at h
      cases h

theorem not_guard_of_requestFailures {exc : PyExc} (h : exc.cls ∈ requestFailures) :
    exc.isInstance .compositionInternalError = false ∧ exc.isInstance .reservedContextKeyError = false := by
  simp only [requestFailures, List.mem_cons, List.not_mem_nil, or_false] at h
  rcases h with h | h | h <;> simp [PyExc.isInstance, h, ExcClass.bases]

/-- A composed context is the evidence and nothing else. -/
theorem entries_of_composed (h : composeOperationAwareInput printable request subject identityContext trust
    correlationId clock = .ok composed) :
    composed.context.entries =
      compositionEvidence request.action request.resourceType request.resourceId := by
  obtain ⟨-, -, hres, action, resource, ha, hr, hassembled⟩ := composeOperationAwareInput_ok h
  rw [hassembled.context, OperationAware.combinedContext_eq, entries_resourceContext hres ha hr,
    request.context_empty, List.nil_append]

theorem reserved_of_composed (h : composeOperationAwareInput printable request subject identityContext trust
    correlationId clock = .ok composed) {key : String} (hkey : key ∈ composed.context.keys) :
    startsWith key reservedContextPrefix = true := by
  rw [OrderedDict.keys, entries_of_composed h] at hkey
  have hsub := (keys_compositionEvidence request.action request.resourceType request.resourceId).subset
  exact evidenceKeys_reserved key (hsub hkey)

theorem expected_of_composed (h : composeOperationAwareInput printable request subject identityContext trust
    correlationId clock = .ok composed) :
    rejectUnexpectedComposedContextKeys printable composed.context = .ok () := by
  have hnone : (composed.context.keys.filter fun key => !startsWith key reservedContextPrefix) = [] := by
    rw [List.filter_eq_nil_iff]
    intro key hkey
    simp [reserved_of_composed h hkey]
  simp [rejectUnexpectedComposedContextKeys, hnone]

/-- The kernel request of a composed input is built whenever the kernel's model accepts its fields. -/
theorem buildDecisionRequest_iff (models : CoreModels) (h : composeOperationAwareInput printable request subject
    identityContext trust correlationId clock = .ok composed) {kernel : OperationAwareDecisionRequest} :
    buildOperationAwareDecisionRequest models printable composed = .ok kernel ↔
      models.operationAwareDecisionRequest (decisionRequestOf composed) = .ok () ∧
        kernel = decisionRequestOf composed := by
  constructor
  · intro hbuild
    refine ⟨?_, buildOperationAwareDecisionRequest_ok hbuild⟩
    rcases hmodel : models.operationAwareDecisionRequest (decisionRequestOf composed) with exc | u
    · simp only [buildOperationAwareDecisionRequest, expected_of_composed h, constructing, hmodel, bind,
        Except.bind] at hbuild
      split at hbuild <;> cases hbuild
    · rfl
  · intro hmodel
    obtain ⟨haccepts, rfl⟩ := hmodel
    simp only [buildOperationAwareDecisionRequest, expected_of_composed h, constructing, haccepts, bind,
      Except.bind]
    rfl

end

/-! ## The route -/

/-- The app as startup makes it: it authenticates with its verifiers, and its configuration was parsed. -/
structure Production (jsonLoads : String → Except PyExc Json) (app : App) : Prop where
  authenticate : ∃ verifiers, app.authenticate = BasisGateway.authenticate verifiers
  config : ∀ config, app.config = some config → ParsedAllowlists jsonLoads config

/-- The answer is not the 500 of a gateway-internal error. -/
def NotInternal (answer : Answer) : Prop :=
  ∀ response, answer = .ok response → response.errorCode? ≠ some "internal_error"

/-- The handler is not left with such an answer. -/
def ExitsWell (exit : Exit) : Prop := NotInternal (answerOf (.error exit))

/-- A refusal with another code. -/
theorem exitsWell_of_refuses {stop : Stop} {event : AuditEvent} {statusCode : Nat} {error : String}
    {message : Option String} {correlationId : String}
    (h : stop.Refuses event (errorResponse statusCode error message correlationId))
    (hcode : error ≠ "internal_error") : ExitsWell stop.exit := by
  intro response hanswer
  rw [h.2] at hanswer
  cases hanswer
  intro hinternal
  exact hcode (Option.some.inj hinternal)

theorem stopsOnly_gate {α : Type} {P : Exit → Prop} {gate : Gate α}
    (h : ∀ stop, gate = .error stop → P stop.exit) : StopsOnly P (Gate.script gate) := by
  cases gate with
  | ok a => exact .pure a
  | error stop =>
    intro exit hexit
    cases hexit
    exact h stop rfl

theorem ok_of_script {α : Type} {gate : Gate α} {a : α} (h : (Gate.script gate).result = .ok a) :
    gate = .ok a := by
  cases gate with
  | ok b => cases h; rfl
  | error stop => cases h

namespace OperationAware

variable {app : App} {req : Request} {jsonLoads : String → Except PyExc Json}
  {request : OperationAwareEvaluateRequest} {subject : NormalizedSubject} {identityContext : IdentityContext}
  {trust : OperationProducerTrust} {stop : Stop}

/-- The trust of a request is consistent with its caller. -/
theorem consistent_of_production (happ : Production jsonLoads app) {token : String}
    (ha : authentication app req token = .ok (subject, identityContext))
    (hp : producerTrust app req subject = .ok trust) :
    checkIdentityConsistency app.printable subject identityContext trust = .ok () := by
  obtain ⟨verifiers, hverifiers⟩ := happ.authenticate
  have hauthenticated := authenticationGate_ok ha
  rw [hverifiers] at hauthenticated
  have hid := authenticate_subjectId hauthenticated
  unfold producerTrust at hp
  split at hp
  next =>
    cases hp
    exact checkIdentityConsistency_classify app.printable hid ∅
  next config hconfig =>
    split at hp
    next hresolved =>
      cases hp
      have hreturned : ReturnedTrust app.x509 config subject trust := by
        cases hon : config.operationProducerMtlsTrustedProxyEnabled with
        | true =>
          rw [resolve_of_mtls hon] at hresolved
          exact .inr ⟨req.headers, hresolved⟩
        | false =>
          rw [resolve_of_allowlist hon] at hresolved
          exact .inl (Except.ok.inj hresolved).symm
      exact checkIdentityConsistency_returned hid (happ.config config hconfig) hreturned
    next =>
      split at hp
      next => split at hp <;> cases hp
      next => cases hp

/-- For a consistent caller, what composition refuses is answered 400. -/
theorem composition_refuses_request
    (hid : checkIdentityConsistency app.printable subject identityContext trust = .ok ())
    (h : composition app req request subject identityContext trust = .error stop) :
    ∃ event message, stop.Refuses event (validationFailed message req.correlationId) := by
  unfold composition at h
  split at h
  next => cases h
  next exc hc =>
    have hcls := requestFailures_of_consistent req.correlationId_not_blank hid (by simp [DateTime.utc]) hc
    simp only [requestFailures, List.mem_cons, List.not_mem_nil, or_false] at hcls
    rcases hcls with hcls | hcls | hcls <;>
      simp only [PyExc.isInstance, hcls, ExcClass.bases, reduceCtorEq, decide_true, decide_false,
        List.mem_cons, List.not_mem_nil, or_false, or_true, Bool.or_self, Bool.or_true, Bool.or_false,
        Bool.false_eq_true, if_true, if_false] at h
    all_goals exact ⟨_, _, refuses_of_refuse h⟩

theorem producerTrust_exitsWell (h : producerTrust app req subject = .error stop) : ExitsWell stop.exit := by
  unfold producerTrust at h
  split at h
  next => cases h
  next =>
    split at h
    next => cases h
    next =>
      split at h
      next =>
        split at h
        next => exact exitsWell_of_refuses (refuses_of_refuse h) (by decide)
        next =>
          cases h
          intro response hanswer
          cases hanswer
      next =>
        cases h
        intro response hanswer
        cases hanswer

theorem evaluated_exitsWell {exc : PyExc} (h : evaluated req subject (.error exc) = .error stop) :
    ExitsWell stop.exit := by
  simp only [evaluated] at h
  split at h
  next => exact exitsWell_of_refuses (refuses_of_refuse h) (by decide)
  next => exact exitsWell_of_refuses (refuses_of_refuse h) (by decide)

/-- No gate before the evaluator answers an internal error. -/
theorem admissionScript_exitsWell (happ : Production jsonLoads app) :
    StopsOnly ExitsWell (admissionScript app req) := by
  refine .bind (.perform _) fun _ _ => ?_
  refine .bind (stopsOnly_gate fun stop h => ?_) fun request _ => ?_
  · obtain ⟨reason, message, href⟩ := bodyGate_error h
    exact exitsWell_of_refuses href (by decide)
  refine .bind (stopsOnly_gate fun stop h => ?_) fun token _ => ?_
  · obtain ⟨exc, -, href⟩ := bearerGate_error h
    exact exitsWell_of_refuses href (by decide)
  refine .bind (.perform _) fun _ _ => ?_
  refine .bind (stopsOnly_gate fun stop h => ?_) fun identity hidentity => ?_
  · obtain ⟨exc, -, href⟩ := authenticationGate_error h
    exact exitsWell_of_refuses href (by decide)
  refine .bind (stopsOnly_gate fun stop h => producerTrust_exitsWell h) fun trust htrust => ?_
  have hid := consistent_of_production happ (ok_of_script hidentity) (ok_of_script htrust)
  refine .bind (stopsOnly_gate fun stop h => ?_) fun composed _ => ?_
  · obtain ⟨event, message, href⟩ := composition_refuses_request hid h
    exact exitsWell_of_refuses href (by decide)
  refine .bind (stopsOnly_gate fun stop h => ?_) fun evaluator _ => .pure _
  unfold presentEvaluator at h
  split at h
  next => cases h
  next => exact exitsWell_of_refuses (refuses_of_refuse h) (by decide)

theorem notInternal_decideScript (present : Bool) (a : Admitted) :
    NotInternal (answerOf (decideScript app req present a).result) := by
  rcases hk : a.composed.kernelCall app.models app.printable req.readings with exc | call
  · obtain ⟨stop, hs⟩ := evaluated_error req a.subject exc
    rw [decideScript_unbuilt present hk hs]
    exact evaluated_exitsWell hs
  rcases hr : a.evaluator.enforcementPoint call with exc | result
  · obtain ⟨stop, hs⟩ := evaluated_error req a.subject exc
    rw [decideScript_raised present hk hr hs]
    exact evaluated_exitsWell hs
  · obtain ⟨es, -, -, hresult⟩ := decideScript_returned present hk hr
    intro response hresponse
    rcases hresult with h | ⟨exc, h⟩
    · rw [h] at hresponse
      cases hresponse
      rw [resultResponse, operationAwareEvaluateResponse_errorCode?]
      simp
    · rw [h] at hresponse
      cases hresponse

theorem notInternal_script (happ : Production jsonLoads app) (present : Bool) :
    NotInternal (answerOf (script app req present).result) := by
  have hadmission : StopsOnly ExitsWell (admissionScript app req) := admissionScript_exitsWell happ
  unfold script
  rcases hS : admissionScript app req with ⟨es, exit | a⟩
  · rw [hS] at hadmission
    exact hadmission exit rfl
  · exact notInternal_decideScript present a

end OperationAware

/-- What production calls composition with: an identity that authentication returned, a trust that a
mechanism returned for it under a parsed configuration, the middleware's correlation id, and an aware
clock. -/
structure ProductionInputs (jsonLoads : String → Except PyExc Json) (x509 : X509) (subject : NormalizedSubject)
    (identityContext : IdentityContext) (trust : OperationProducerTrust) (correlationId : String)
    (clock : DateTime) : Prop where
  identity : ∃ verifiers mode token, authenticate verifiers mode token = .ok (subject, identityContext)
  trust : ∃ config, ParsedAllowlists jsonLoads config ∧ ReturnedTrust x509 config subject trust
  correlationId : blank correlationId = false
  clock : clock.utcOffset ≠ none

/-- **The gateway-internal guards are unreachable.** For every schema-valid request, composition raises
neither its internal error nor the one of a reserved key, and the context it returns has only the keys
the kernel request accepts. So the route never answers its internal error, and what it admits to the
evaluator is never refused for its context. -/
theorem composition_guards_unreachable (jsonLoads : String → Except PyExc Json) (x509 : X509)
    (printable : Char → Bool) :
    (∀ request subject identityContext trust correlationId clock,
      ProductionInputs jsonLoads x509 subject identityContext trust correlationId clock →
      let result :=
        composeOperationAwareInput printable request subject identityContext trust correlationId clock
      (∀ exc, result = .error exc → exc.isInstance .compositionInternalError = false ∧
        exc.isInstance .reservedContextKeyError = false) ∧
      ∀ composed, result = .ok composed →
        rejectUnexpectedComposedContextKeys printable composed.context = .ok ()) ∧
    ∀ app, Production jsonLoads app → ∀ req between w,
      NotInternal (Endpoint.operationAware.serve app req between w).answer ∧
      ∀ a, OperationAware.Through app req a →
        rejectUnexpectedComposedContextKeys app.printable a.composed.context = .ok () := by
  refine ⟨?_, ?_⟩
  · intro request subject identityContext trust correlationId clock h result
    obtain ⟨verifiers, mode, token, hidentity⟩ := h.identity
    obtain ⟨config, hconfig, htrust⟩ := h.trust
    have hid : checkIdentityConsistency printable subject identityContext trust = .ok () :=
      checkIdentityConsistency_returned (authenticate_subjectId hidentity) hconfig htrust
    refine ⟨fun exc hexc => ?_, fun composed hcomposed => expected_of_composed hcomposed⟩
    exact not_guard_of_requestFailures (requestFailures_of_consistent h.correlationId hid h.clock hexc)
  · intro app happ req between w
    refine ⟨?_, fun a ha => expected_of_composed (OperationAware.composed_of_composition ha.composition)⟩
    rcases hb : Endpoint.operationAware.begin app req w with ⟨- | answer, w₁⟩
    · rw [Endpoint.serve_of_begin hb]
      exact OperationAware.notInternal_script happ _
    · intro response hresponse
      simp only [Endpoint.serve, hb, Endpoint.begin_answers hb] at hresponse
      cases hresponse
      intro hinternal
      have hcode : "audit_fail_closed" = "internal_error" := Option.some.inj hinternal
      exact absurd hcode (by decide)

/-- A configuration that lists the operator, and one producer's URI. -/
def operatorConfig : GatewayConfig where
  auditFailureThreshold := 3
  operationProducerSubjectIds := {"operator"}
  operationProducerMtlsAdmittedUris := {"spiffe://plant/adapter"}

/-- The operation of a rooftop unit, with what a producer says of it. -/
def assertedRooftop : OperationAwareEvaluateRequest :=
  { readRooftop.aware none with
    producerContext := fun field => if field = .safetyContext then some (.obj []) else none }

theorem authenticate_operator : authenticate operatorVerifiers .oidc "token" =
    .ok (operator, ⟨"", "operator", [("sub", .str "operator")]⟩) := by
  simp [authenticate, operatorVerifiers, mapClaims, Json.get?, extractRoles, collectAttributes, attributeClaims,
    operator, bind, Except.bind]

theorem operator_inputs : ProductionInputs (fun _ => .ok .null) permissiveApp.x509 operator
    ⟨"", "operator", [("sub", .str "operator")]⟩ (classifyOperationProducer operator {"operator"}) "c"
    (.utc 0) where
  identity := ⟨operatorVerifiers, .oidc, "token", authenticate_operator⟩
  trust := ⟨operatorConfig, ⟨⟨.collection [.str " operator"], rfl⟩,
    ⟨.collection [.str "spiffe://plant/adapter"], rfl⟩⟩, .inl rfl⟩
  correlationId := by decide
  clock := by decide

/-- The theorem at a composition that succeeds. -/
theorem composition_guards_unreachable_operator :
    ∃ composed, composeOperationAwareInput (fun _ => true) assertedRooftop operator
        ⟨"", "operator", [("sub", .str "operator")]⟩ (classifyOperationProducer operator {"operator"}) "c"
        (.utc 0) = .ok composed ∧
      rejectUnexpectedComposedContextKeys (fun _ => true) composed.context = .ok () :=
  ⟨_, rfl, ((composition_guards_unreachable _ _ _).1 assertedRooftop _ _ _ _ _ operator_inputs).2 _ rfl⟩

end BasisGateway
