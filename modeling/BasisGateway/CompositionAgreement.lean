/-
One composition, written twice. The handler of `/v1/evaluate` composes the
request itself; the operation-aware endpoint calls
`compose_operation_aware_input`. Asked for the same operation, with no
caller context and no field only a producer may assert, both refuse with
the same words or both compose the same action, resource id and evidence.
-/
import BasisGateway.StrictMode

namespace BasisGateway

/-- An operation as either endpoint's body states it. -/
structure Operation where
  action : String
  /-- Both models' `action_not_empty`. -/
  action_not_blank : blank action = false
  resourceType : Option String
  resourceId : Option String

/-- The body of `/v1/evaluate` that asks for it. -/
def Operation.plain (op : Operation) (requestId : Option String) : EvaluateRequest where
  requestId := requestId
  action := op.action
  action_not_blank := op.action_not_blank
  resourceType := op.resourceType
  resourceId := op.resourceId
  context := .empty

/-- The body of `/v1/evaluate/operation-aware` that asks for it. -/
def Operation.aware (op : Operation) (requestId : Option String) : OperationAwareEvaluateRequest where
  requestId := requestId
  action := op.action
  action_not_blank := op.action_not_blank
  resourceType := op.resourceType
  resourceId := op.resourceId
  context := .empty
  context_empty := OrderedDict.entries_empty
  producerContext := fun _ => none

/-- The two compositions agree: one message, in the same 400 `validation_failed` answer; or one
action, one resource id and one evidence map. -/
inductive Agree (req req' : Request) : Gate Evaluate.Composed → Gate ComposedOperationAwareInput → Prop
  | rejected (message : String) (refusal refusal' : Refusal)
      (h : refusal.response = validationFailed message req.correlationId)
      (h' : refusal'.response = validationFailed message req'.correlationId) :
      Agree req req' (.error (.refuse refusal)) (.error (.refuse refusal'))
  | accepted (composed : Evaluate.Composed) (input : ComposedOperationAwareInput)
      (haction : input.action = composed.action) (hresource : input.resourceId = composed.resourceId)
      (hcontext : input.context = composed.context) : Agree req req' (.ok composed) (.ok input)

theorem Operation.present_aware (op : Operation) (requestId : Option String) :
    presentOperationProducerOnlyFields (op.aware requestId) = [] := by
  simp [presentOperationProducerOnlyFields, Operation.aware]

/-- No context, no reserved key. -/
theorem reservedKeyCollisions_empty : reservedKeyCollisions .empty = [] := rfl

/-! ## The inline composition -/

namespace Evaluate

variable {app : App} {req : Request} {request : EvaluateRequest} {exc : PyExc}

theorem compose_of_action_error (hres : reservedKeyCollisions request.context = [])
    (ha : composeAction app.printable request.action request.resourceType = .error exc) :
    compose app req request = compositionRefused req exc.msg := by
  have hcls : exc.isInstance .actionCompositionError = true := by
    simp [PyExc.isInstance, composeAction_error ha]
  simp only [compose, hres, ne_eq, not_true_eq_false, if_false, ha, hcls, if_true]

theorem compose_of_resource_error {action : String} (hres : reservedKeyCollisions request.context = [])
    (ha : composeAction app.printable request.action request.resourceType = .ok action)
    (hr : composeResourceId app.printable request.resourceType request.resourceId = .error exc) :
    compose app req request = compositionRefused req exc.msg := by
  have hcls : exc.isInstance .resourceCompositionError = true := by
    simp [PyExc.isInstance, composeResourceId_error hr]
  simp only [compose, hres, ne_eq, not_true_eq_false, if_false, ha, hr, hcls, if_true]

theorem compose_of_ok {action : String} {resource : ResourceCompositionResult}
    (hres : reservedKeyCollisions request.context = [])
    (ha : composeAction app.printable request.action request.resourceType = .ok action)
    (hr : composeResourceId app.printable request.resourceType request.resourceId = .ok resource) :
    compose app req request = .ok
      { action
        resourceId := resource.resourceId
        context := resourceContext (actionContext request.context request.action request.resourceType action)
          resource } := by
  simp only [compose, hres, ne_eq, not_true_eq_false, if_false, ha, hr]

end Evaluate

/-! ## The operation-aware composition -/

namespace OperationAware

variable {app : App} {req : Request} {request : OperationAwareEvaluateRequest}
  {subject : NormalizedSubject} {identityContext : IdentityContext} {trust : OperationProducerTrust}
  {exc : PyExc}

/-- The context that this endpoint combines at once is the one the handler of `/v1/evaluate` builds up. -/
theorem combinedContext_eq (request : OperationAwareEvaluateRequest) (composedAction : String)
    (resource : ResourceCompositionResult) :
    combinedContext request composedAction resource = Evaluate.resourceContext
      (Evaluate.actionContext request.context request.action request.resourceType composedAction) resource := by
  simp only [combinedContext, Evaluate.resourceContext]
  rcases request.resourceType with - | resourceType
  · rcases resource.composed with - | ⟨original, resourceType, typed⟩
    · rfl
    · rfl
  · rcases resource.composed with - | ⟨original, resourceType, typed⟩
    · rfl
    · rfl

/-- With no context and no producer-only field, an error of the shared functions is refused in its
own words. -/
theorem composition_of_error
    (hc : composeOperationAwareInput app.printable request subject identityContext trust
      req.correlationId (.utc req.readings.evaluationTime) = .error exc)
    (hcls : exc.cls = .actionCompositionError ∨ exc.cls = .resourceCompositionError) :
    composition app req request subject identityContext trust =
      compositionRejected req subject Reason.actionOrResourceCompositionFailed exc.msg := by
  unfold composition
  rw [hc]
  rcases hcls with hcls | hcls <;> simp [PyExc.isInstance, hcls, ExcClass.bases]

end OperationAware

/-- For a consistent caller, what is left of `compose_operation_aware_input` are the two functions
both endpoints share, and the assembly. -/
theorem Operation.compose_aware (op : Operation) (requestId : Option String) (req : Request)
    {printable : Char → Bool} {subject : NormalizedSubject} {identityContext : IdentityContext}
    {trust : OperationProducerTrust}
    (hid : checkIdentityConsistency printable subject identityContext trust = .ok ()) :
    composeOperationAwareInput printable (op.aware requestId) subject identityContext trust
        req.correlationId (.utc req.readings.evaluationTime) =
      (do let action ← composeAction printable op.action op.resourceType
          let resource ← composeResourceId printable op.resourceType op.resourceId
          composedInput (op.aware requestId) subject identityContext trust req.correlationId
            (.utc req.readings.evaluationTime) action resource) := by
  have hpresent := op.present_aware requestId
  have hres : reservedKeyCollisions (op.aware requestId).context = [] := reservedKeyCollisions_empty
  simp only [composeOperationAwareInput, req.correlationId_not_blank, Bool.false_eq_true, if_false, hid,
    hpresent, hres, ne_eq, not_true_eq_false, false_and]
  rfl

/-- **The two request-composition paths agree.** For every operation and every caller whose subject,
identity context and producer trust are consistent; and whatever subject authentication returned, both
kernel requests say the same of it, its attributes being exactly the string-valued ones. -/
theorem compositions_agree (app : App) (req req' : Request) (op : Operation)
    (requestId requestId' : Option String) (subject : NormalizedSubject)
    (identityContext : IdentityContext) (trust : OperationProducerTrust)
    (hid : checkIdentityConsistency app.printable subject identityContext trust = .ok ()) :
    Agree req req' (Evaluate.compose app req (op.plain requestId))
      (OperationAware.composition app req' (op.aware requestId') subject identityContext trust) ∧
    ∀ (input : EvaluationInput) (composed : ComposedOperationAwareInput) (call : KernelCall)
      (call' : OperationAwareKernelCall), input.normalizedSubject = subject →
      composed.authorizationSubject = subject → input.kernelCall app.models req.readings = .ok call →
      composed.kernelCall app.models app.printable req'.readings = .ok call' →
        call.request.subjectFields = call'.request.subjectFields ∧
        call.request.subjectId = subject.subjectId ∧ call.request.subjectRoles = subject.roles ∧
        ∀ key value, (key, value) ∈ call.request.subjectAttrs ↔
          (key, Json.str value) ∈ subject.attributes := by
  refine ⟨?_, fun input composed call call' hinput hcomposed hcall hcall' => ?_⟩
  · have hres : reservedKeyCollisions (op.plain requestId).context = [] := reservedKeyCollisions_empty
    have haware := op.compose_aware requestId' req' hid
    rcases ha : composeAction app.printable op.action op.resourceType with exc | action
    · rw [ha] at haware
      rw [Evaluate.compose_of_action_error hres ha,
        OperationAware.composition_of_error haware (.inl (composeAction_error ha))]
      exact .rejected exc.msg _ _ rfl rfl
    rcases hr : composeResourceId app.printable op.resourceType op.resourceId with exc | resource
    · rw [ha, hr] at haware
      rw [Evaluate.compose_of_resource_error hres ha hr,
        OperationAware.composition_of_error haware (.inr (composeResourceId_error hr))]
      exact .rejected exc.msg _ _ rfl rfl
    · rw [ha, hr] at haware
      rw [Evaluate.compose_of_ok hres ha hr, OperationAware.composition, haware]
      exact .accepted _ _ rfl rfl (OperationAware.combinedContext_eq (op.aware requestId') action resource)
  · have hfields := (EvaluationInput.calls_of_kernelCall hcall).subject
    rw [hinput] at hfields
    refine ⟨by rw [hfields, kernelCall_subjectFields hcall', hcomposed],
      congrArg SubjectFields.subjectId hfields, congrArg SubjectFields.subjectRoles hfields,
      fun key value => ?_⟩
    rw [show call.request.subjectAttrs = stringAttributes subject.attributes from
      congrArg SubjectFields.subjectAttrs hfields, mem_stringAttributes]

/-- Reading one rooftop unit. -/
def readRooftop : Operation where
  action := "read"
  action_not_blank := by decide
  resourceType := some "ahu"
  resourceId := some "rooftop-1"

/-- Its caller. -/
def rooftopReader : NormalizedSubject :=
  { subjectId := "operator", name := "operator", roles := ["reader"], attributes := [("email", .str "o@x")] }

/-- The theorem at that operation: both compositions accept it. -/
theorem compositions_agree_readRooftop :
    (∃ composed input, Evaluate.compose permissiveApp bearerRequest (readRooftop.plain none) = .ok composed ∧
      OperationAware.composition permissiveApp bearerRequest (readRooftop.aware none) rooftopReader
        ⟨"https://issuer", "operator", []⟩ (classifyOperationProducer rooftopReader ∅) = .ok input) ∧
    Agree bearerRequest bearerRequest (Evaluate.compose permissiveApp bearerRequest (readRooftop.plain none))
      (OperationAware.composition permissiveApp bearerRequest (readRooftop.aware none) rooftopReader
        ⟨"https://issuer", "operator", []⟩ (classifyOperationProducer rooftopReader ∅)) :=
  ⟨⟨_, _, rfl, rfl⟩, (compositions_agree permissiveApp bearerRequest bearerRequest readRooftop none none
    rooftopReader ⟨"https://issuer", "operator", []⟩ (classifyOperationProducer rooftopReader ∅) rfl).1⟩

end BasisGateway
