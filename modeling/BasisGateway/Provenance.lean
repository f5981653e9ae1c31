/-
The provenance of a composed input. Each of its facts has one label, and the
label is what the composed value and the caller's say it is: unavailable
when there is no value, asserted by a producer only for what a trusted one
sent, derived by the gateway when composition made the value another than
the caller's, and verified for nothing that a body can say.
-/
import BasisGateway.CompositionGuards

namespace BasisGateway

/-- A fact with an entry in the provenance map. -/
inductive Fact
  | authorizationSubjectId | authorizationSubjectRoles | authorizationSubjectAttributes
  | operationProducerSubjectId | operationProducerTrust | action | resourceId | resourceType | context
  | producerOnly (field : ProducerOnlyField)
  | evaluationTime | requestId | correlationId
  deriving DecidableEq, Repr

namespace Fact

def name : Fact → String
  | .authorizationSubjectId => "authorization_subject_id"
  | .authorizationSubjectRoles => "authorization_subject_roles"
  | .authorizationSubjectAttributes => "authorization_subject_attributes"
  | .operationProducerSubjectId => "operation_producer_subject_id"
  | .operationProducerTrust => "operation_producer_trust"
  | .action => "action"
  | .resourceId => "resource_id"
  | .resourceType => "resource_type"
  | .context => "context"
  | .producerOnly field => field.name
  | .evaluationTime => "evaluation_time"
  | .requestId => "request_id"
  | .correlationId => "correlation_id"

/-- The facts, in the order of their entries. -/
def all : List Fact :=
  [.authorizationSubjectId, .authorizationSubjectRoles, .authorizationSubjectAttributes,
    .operationProducerSubjectId, .operationProducerTrust, .action, .resourceId, .resourceType, .context] ++
  ProducerOnlyField.all.map .producerOnly ++ [.evaluationTime, .requestId, .correlationId]

theorem mem_all (fact : Fact) : fact ∈ all := by
  cases fact with
  | producerOnly field => cases field <;> decide
  | _ => decide

theorem names_nodup : (all.map name).Nodup := by decide +kernel

theorem name_injective {fact fact' : Fact} (h : fact.name = fact'.name) : fact = fact' :=
  List.inj_on_of_nodup_map names_nodup (mem_all fact) (mem_all fact') h

/-- A body has a field for it. -/
def ofBody : Fact → Bool
  | .action | .resourceId | .resourceType | .context | .producerOnly _ | .requestId => true
  | _ => false

/-- Its composed value is there: not `None`, and for the context not empty. -/
def Present (composed : ComposedOperationAwareInput) : Fact → Prop
  | .operationProducerSubjectId => composed.operationProducerTrust.operationProducerSubjectId ≠ none
  | .resourceId => composed.resourceId ≠ none
  | .resourceType => composed.resourceType ≠ none
  | .context => composed.context.entries ≠ []
  | .producerOnly field => composed.producerContext field ≠ none
  | _ => True

end Fact

/-- The fact has this label. -/
def ComposedOperationAwareInput.Labels (composed : ComposedOperationAwareInput) (fact : Fact)
    (label : ProvenanceClassification) : Prop := (fact.name, label) ∈ composed.provenance

/-- Trust that came from the allowlist of subject ids. -/
def OperationProducerTrust.ByAllowlist (trust : OperationProducerTrust) : Prop :=
  trust.status = .trusted ∧ trust.source = .configuredSubjectIdAllowlist

instance (trust : OperationProducerTrust) : Decidable trust.ByAllowlist :=
  inferInstanceAs (Decidable (_ ∧ _))

/-- What the label of a fact is to be: of the composed value, and of what the caller sent for it. -/
def Fact.label (request : OperationAwareEvaluateRequest) (composed : ComposedOperationAwareInput) :
    Fact → ProvenanceClassification
  | .authorizationSubjectId | .authorizationSubjectRoles | .authorizationSubjectAttributes => .verified
  | .operationProducerSubjectId =>
    if composed.operationProducerTrust.ByAllowlist then .verified else .unavailable
  | .operationProducerTrust => .configurationDerived
  | .action => if composed.action = request.action then .untrustedCallerAsserted else .gatewayDerived
  | .resourceId =>
    if composed.resourceId = none then .unavailable
    else if composed.resourceId = request.resourceId then .untrustedCallerAsserted else .gatewayDerived
  | .resourceType => if composed.resourceType = none then .unavailable else .untrustedCallerAsserted
  | .context => if composed.context.entries = [] then .unavailable else .gatewayDerived
  | .producerOnly field =>
    if composed.producerContext field = none then .unavailable else .trustedProducerAsserted
  | .evaluationTime | .correlationId => .gatewayDerived
  | .requestId => if request.requestId = none then .gatewayDerived else .untrustedCallerAsserted

/-! ## The labels are those of the values -/

/-- What is joined with a colon is longer than either part. -/
theorem append_colon_ne (first second : String) :
    first ++ ":" ++ second ≠ first ∧ first ++ ":" ++ second ≠ second := by
  have hcolon : ":".length = 1 := rfl
  have hlength : (first ++ ":" ++ second).length = first.length + 1 + second.length := by
    rw [String.length_append, String.length_append, hcolon]
  constructor
  · intro h
    rw [h] at hlength
    omega
  · intro h
    rw [h] at hlength
    omega

section

variable {printable : Char → Bool} {request : OperationAwareEvaluateRequest} {subject : NormalizedSubject}
  {identityContext : IdentityContext} {trust : OperationProducerTrust} {correlationId : String}
  {clock : DateTime} {composed : ComposedOperationAwareInput}

/-- A trust consistent with its caller has a producer subject id exactly when it came from the allowlist. -/
theorem producerSubjectId_iff
    (h : checkIdentityConsistency printable subject identityContext trust = .ok ()) :
    trust.operationProducerSubjectId ≠ none ↔ trust.ByAllowlist := by
  unfold checkIdentityConsistency at h
  split at h
  next => cases h
  next =>
    split at h
    next => cases h
    next =>
      split at h
      next hstatus =>
        unfold checkTrustedSource at h
        split at h
        next hsource =>
          split at h
          next => cases h
          next hid =>
            rw [not_not] at hid
            simp [OperationProducerTrust.ByAllowlist, hstatus, hsource, hid]
        next hsource =>
          split at h
          next => cases h
          next hid =>
            rw [not_not] at hid
            simp [OperationProducerTrust.ByAllowlist, hsource, hid]
        next => cases h
      next hstatus =>
        split at h
        next => cases h
        next hid =>
          rw [not_not] at hid
          simp [OperationProducerTrust.ByAllowlist, hstatus, hid]

/-- The label of a resource id, for each way it is composed. -/
theorem label_resourceId {resource : ResourceCompositionResult}
    (h : ComposesResource request.resourceType request.resourceId resource)
    (hid : composed.resourceId = resource.resourceId) :
    (if resource.composed.isSome then ProvenanceClassification.gatewayDerived
      else provenanceOf.presentAs .untrustedCallerAsserted resource.resourceId.isSome) =
      Fact.resourceId.label request composed := by
  rw [Fact.label, hid]
  generalize request.resourceType = resourceType at h
  generalize request.resourceId = resourceId at h ⊢
  cases h with
  | absent => rfl
  | typed resourceId => simp [provenanceOf.presentAs]
  | composed resourceType resourceId => simp [(append_colon_ne resourceType resourceId).2]

/-- **Each fact has its one entry, with the label of its value.** -/
theorem provenance_eq (h : composeOperationAwareInput printable request subject identityContext trust
    correlationId clock = .ok composed) :
    composed.provenance = Fact.all.map fun fact => (fact.name, fact.label request composed) := by
  obtain ⟨hid, -, -, action, resource, ha, hr, hassembled⟩ := composeOperationAwareInput_ok h
  have hproducer : provenanceOf.presentAs .verified trust.operationProducerSubjectId.isSome =
      Fact.operationProducerSubjectId.label request composed := by
    have hiff := producerSubjectId_iff hid
    rw [Fact.label, hassembled.trust]
    by_cases hby : trust.ByAllowlist
    · have hsome := Option.isSome_iff_ne_none.2 (hiff.2 hby)
      rw [if_pos hby, provenanceOf.presentAs, hsome, if_pos rfl]
    · have hnone := not_not.1 (mt hiff.1 hby)
      rw [if_neg hby, provenanceOf.presentAs, hnone]
      rfl
  have haction : (if request.resourceType.isSome then ProvenanceClassification.gatewayDerived
      else .untrustedCallerAsserted) = Fact.action.label request composed := by
    rw [Fact.label, hassembled.action, composeAction_ok ha]
    cases request.resourceType with
    | none => simp
    | some resourceType => simp [(append_colon_ne request.action resourceType).1]
  have hresource := label_resourceId (composesResource_of_ok hr) hassembled.resourceId
  have hresourceType : provenanceOf.presentAs .untrustedCallerAsserted request.resourceType.isSome =
      Fact.resourceType.label request composed := by
    rw [Fact.label, hassembled.resourceType]
    cases request.resourceType <;> rfl
  have hcontext : provenanceOf.presentAs .gatewayDerived (composed.context.entries.isEmpty = false) =
      Fact.context.label request composed := by
    rw [Fact.label]
    cases composed.context.entries <;> simp [provenanceOf.presentAs]
  have hfields : ∀ field, provenanceOf.presentAs .trustedProducerAsserted (request.producerContext field).isSome =
      (Fact.producerOnly field).label request composed := by
    intro field
    rw [Fact.label, hassembled.producerContext]
    cases request.producerContext field <;> rfl
  have hrequestId : (if request.requestId.isSome then ProvenanceClassification.untrustedCallerAsserted
      else .gatewayDerived) = Fact.requestId.label request composed := by
    rw [Fact.label]
    cases request.requestId <;> rfl
  rw [hassembled.provenance, provenanceOf, hproducer, haction, hresource, hresourceType, hcontext, hrequestId]
  simp only [hfields]
  rfl

theorem labels_iff (h : composeOperationAwareInput printable request subject identityContext trust
    correlationId clock = .ok composed) {fact : Fact} {label : ProvenanceClassification} :
    composed.Labels fact label ↔ label = fact.label request composed := by
  rw [ComposedOperationAwareInput.Labels, provenance_eq h, List.mem_map]
  constructor
  · intro hmem
    obtain ⟨fact', -, heq⟩ := hmem
    obtain ⟨hname, hlabel⟩ := Prod.mk.inj heq
    rw [← hlabel, Fact.name_injective hname]
  · intro hlabel
    exact ⟨fact, fact.mem_all, by rw [hlabel]⟩

/-- What is composed is the caller's action, or the caller's with the resource type. -/
theorem action_cases (h : composeOperationAwareInput printable request subject identityContext trust
    correlationId clock = .ok composed) :
    composed.action = request.action ∨
      ∃ resourceType, request.resourceType = some resourceType ∧
        composed.action = request.action ++ ":" ++ resourceType := by
  obtain ⟨-, -, -, action, resource, ha, -, hassembled⟩ := composeOperationAwareInput_ok h
  have hcomposed := composeAction_ok ha
  rw [hassembled.action]
  cases hrt : request.resourceType with
  | none =>
    rw [hrt] at hcomposed
    exact .inl hcomposed
  | some resourceType =>
    rw [hrt] at hcomposed
    exact .inr ⟨resourceType, rfl, hcomposed⟩

/-- The same of the resource id. -/
theorem resource_cases (h : composeOperationAwareInput printable request subject identityContext trust
    correlationId clock = .ok composed) :
    composed.resourceId = request.resourceId ∨
      ∃ resourceType resourceId, request.resourceType = some resourceType ∧
        request.resourceId = some resourceId ∧
        composed.resourceId = some (resourceType ++ ":" ++ resourceId) := by
  obtain ⟨-, -, -, action, resource, -, hr, hassembled⟩ := composeOperationAwareInput_ok h
  have hcases := composesResource_of_ok hr
  rw [hassembled.resourceId]
  generalize request.resourceType = resourceType at hcases ⊢
  generalize request.resourceId = resourceId at hcases ⊢
  cases hcases with
  | absent | typed => exact .inl rfl
  | composed resourceType resourceId => exact .inr ⟨resourceType, resourceId, rfl, rfl, rfl⟩

end

/-- The provenance of a composed input is exact: each fact has one entry, and each label is there for
just the facts it is true of. -/
structure ProvenanceExact (request : OperationAwareEvaluateRequest) (trust : OperationProducerTrust)
    (composed : ComposedOperationAwareInput) : Prop where
  names : composed.provenance.map Prod.fst = Fact.all.map Fact.name
  distinct : (composed.provenance.map Prod.fst).Nodup
  count : composed.provenance.length = 21
  unavailable : ∀ fact, composed.Labels fact .unavailable ↔ ¬ fact.Present composed
  asserted : ∀ fact, composed.Labels fact .trustedProducerAsserted ↔
    ∃ field, fact = .producerOnly field ∧ composed.producerContext field ≠ none
  asserted_trusted : ∀ fact, composed.Labels fact .trustedProducerAsserted → trust.status = .trusted
  action_derived : composed.Labels .action .gatewayDerived ↔ composed.action ≠ request.action
  action_composed : composed.Labels .action .gatewayDerived ↔ ∃ resourceType,
    request.resourceType = some resourceType ∧ composed.action = request.action ++ ":" ++ resourceType
  action_passed : composed.Labels .action .untrustedCallerAsserted ↔ composed.action = request.action
  resource_derived : composed.Labels .resourceId .gatewayDerived ↔ composed.resourceId ≠ request.resourceId
  resource_composed : composed.Labels .resourceId .gatewayDerived ↔ ∃ resourceType resourceId,
    request.resourceType = some resourceType ∧ request.resourceId = some resourceId ∧
    composed.resourceId = some (resourceType ++ ":" ++ resourceId)
  resource_passed : composed.Labels .resourceId .untrustedCallerAsserted ↔
    composed.resourceId ≠ none ∧ composed.resourceId = request.resourceId
  context_derived : composed.Labels .context .gatewayDerived ↔ composed.context.entries ≠ []
  context_reserved : ∀ key ∈ composed.context.keys, startsWith key reservedContextPrefix = true
  producer_verified : composed.Labels .operationProducerSubjectId .verified ↔ trust.ByAllowlist
  verified : ∀ fact, composed.Labels fact .verified → fact.ofBody = false

/-- What the kernel is told is what was composed, and of the rest what was given. -/
structure CarriesOver (request : OperationAwareEvaluateRequest) (subject : NormalizedSubject)
    (composed : ComposedOperationAwareInput) (kernel : OperationAwareDecisionRequest) : Prop where
  subject : kernel.subjectFields = subject.subjectFields
  producerContext : kernel.producerContext = request.producerContext
  action : kernel.action = composed.action
  resource : kernel.resource = composed.resourceId
  resourceType : kernel.resourceType = request.resourceType
  requestId : kernel.requestId = composed.requestId
  correlationId : kernel.correlationId = composed.correlationId
  evaluationTime : kernel.evaluationTime = composed.evaluationTime

section

variable {printable : Char → Bool} {request : OperationAwareEvaluateRequest} {subject : NormalizedSubject}
  {identityContext : IdentityContext} {trust : OperationProducerTrust} {correlationId : String}
  {clock : DateTime} {composed : ComposedOperationAwareInput}

theorem label_unavailable_iff (h : composeOperationAwareInput printable request subject identityContext trust
    correlationId clock = .ok composed) (fact : Fact) :
    ProvenanceClassification.unavailable = fact.label request composed ↔ ¬ fact.Present composed := by
  obtain ⟨hid, -, -, action, resource, -, -, hassembled⟩ := composeOperationAwareInput_ok h
  cases fact with
  | operationProducerSubjectId =>
    have hiff := producerSubjectId_iff hid
    rw [Fact.label, Fact.Present, hassembled.trust, hiff]
    by_cases hby : trust.ByAllowlist <;> simp [hby]
  | action => by_cases ha : composed.action = request.action <;> simp [Fact.label, Fact.Present, ha]
  | resourceId =>
    by_cases hnone : composed.resourceId = none
    · simp [Fact.label, Fact.Present, hnone]
    · by_cases heq : composed.resourceId = request.resourceId
      · have hsome : request.resourceId ≠ none := heq ▸ hnone
        simp [Fact.label, Fact.Present, heq, hsome]
      · simp [Fact.label, Fact.Present, hnone, heq]
  | resourceType => by_cases hrt : composed.resourceType = none <;> simp [Fact.label, Fact.Present, hrt]
  | context => by_cases hc : composed.context.entries = [] <;> simp [Fact.label, Fact.Present, hc]
  | producerOnly field =>
    by_cases hf : composed.producerContext field = none <;> simp [Fact.label, Fact.Present, hf]
  | requestId => by_cases hr : request.requestId = none <;> simp [Fact.label, Fact.Present, hr]
  | _ => simp [Fact.label, Fact.Present]

theorem label_asserted_iff (fact : Fact) :
    ProvenanceClassification.trustedProducerAsserted = fact.label request composed ↔
      ∃ field, fact = .producerOnly field ∧ composed.producerContext field ≠ none := by
  cases fact with
  | producerOnly field =>
    by_cases hf : composed.producerContext field = none <;> simp [Fact.label, hf]
  | _ =>
    simp only [Fact.label, reduceCtorEq, false_and, exists_false, iff_false]
    repeat' split
    all_goals simp

theorem label_verified_ofBody {fact : Fact}
    (h : ProvenanceClassification.verified = fact.label request composed) : fact.ofBody = false := by
  cases fact with
  | action | resourceId | resourceType | context | producerOnly | requestId =>
    simp only [Fact.label] at h
    repeat' split at h
    all_goals cases h
  | _ => rfl

/-- What a producer may assert is there only for one that is trusted. -/
theorem trusted_of_present (h : composeOperationAwareInput printable request subject identityContext trust
    correlationId clock = .ok composed) {field : ProducerOnlyField}
    (hfield : composed.producerContext field ≠ none) : trust.status = .trusted := by
  have hcomposes := composes_of_ok h
  rw [hcomposes.producerContext] at hfield
  refine hcomposes.gate.resolve_left ?_
  intro hnone
  have hmem := (mem_present request field).2 (Option.isSome_iff_ne_none.2 hfield)
  rw [hnone] at hmem
  cases hmem

theorem provenanceExact_of_ok (h : composeOperationAwareInput printable request subject identityContext trust
    correlationId clock = .ok composed) : ProvenanceExact request trust composed := by
  have haction := action_cases h
  have hresource := resource_cases h
  have hnames : composed.provenance.map Prod.fst = Fact.all.map Fact.name := by
    rw [provenance_eq h, List.map_map]
    rfl
  have hderived : composed.Labels .action .gatewayDerived ↔ composed.action ≠ request.action := by
    rw [labels_iff h, Fact.label]
    by_cases heq : composed.action = request.action <;> simp [heq]
  -- a composed id is never the caller's, and one that is not composed is the caller's
  have hresourceDerived :
      composed.Labels .resourceId .gatewayDerived ↔ composed.resourceId ≠ request.resourceId := by
    rw [labels_iff h, Fact.label]
    by_cases heq : composed.resourceId = request.resourceId
    · by_cases hnone : request.resourceId = none <;> simp [heq, hnone]
    · obtain ⟨resourceType, resourceId, -, -, hcomposed⟩ := hresource.resolve_left heq
      simp only [hcomposed, reduceCtorEq, if_false] at heq ⊢
      simp [heq]
  constructor
  case names => exact hnames
  case distinct =>
    rw [hnames]
    exact Fact.names_nodup
  case count =>
    rw [provenance_eq h, List.length_map]
    rfl
  case unavailable =>
    intro fact
    rw [labels_iff h, label_unavailable_iff h]
  case asserted =>
    intro fact
    rw [labels_iff h, label_asserted_iff]
  case asserted_trusted =>
    intro fact hlabel
    obtain ⟨field, -, hfield⟩ := (label_asserted_iff fact).1 ((labels_iff h).1 hlabel)
    exact trusted_of_present h hfield
  case action_derived => exact hderived
  case action_composed =>
    rw [hderived]
    constructor
    · intro hne
      exact haction.resolve_left hne
    · intro hcomposed
      obtain ⟨resourceType, -, heq⟩ := hcomposed
      rw [heq]
      exact (append_colon_ne request.action resourceType).1
  case action_passed =>
    rw [labels_iff h, Fact.label]
    by_cases heq : composed.action = request.action <;> simp [heq]
  case resource_derived => exact hresourceDerived
  case resource_composed =>
    rw [hresourceDerived]
    constructor
    · intro hne
      exact hresource.resolve_left hne
    · intro hcomposed
      obtain ⟨resourceType, resourceId, -, hid, heq⟩ := hcomposed
      rw [heq, hid]
      intro hsame
      exact (append_colon_ne resourceType resourceId).2 (Option.some.inj hsame)
  case resource_passed =>
    rw [labels_iff h, Fact.label]
    by_cases hnone : composed.resourceId = none
    · simp [hnone]
    · by_cases heq : composed.resourceId = request.resourceId <;> simp [hnone, heq]
  case context_derived =>
    rw [labels_iff h, Fact.label]
    by_cases hempty : composed.context.entries = [] <;> simp [hempty]
  case context_reserved =>
    intro key hkey
    exact reserved_of_composed h hkey
  case producer_verified =>
    rw [labels_iff h, Fact.label, (composes_of_ok h).trust]
    by_cases hby : trust.ByAllowlist <;> simp [hby]
  case verified =>
    intro fact hlabel
    exact label_verified_ofBody ((labels_iff h).1 hlabel)

theorem carriesOver_of_ok (h : composeOperationAwareInput printable request subject identityContext trust
    correlationId clock = .ok composed) : CarriesOver request subject composed (decisionRequestOf composed) := by
  obtain ⟨-, -, -, action, resource, -, -, hassembled⟩ := composeOperationAwareInput_ok h
  constructor
  case subject =>
    rw [← hassembled.subject]
    rfl
  case producerContext => exact hassembled.producerContext
  case resourceType => exact hassembled.resourceType
  all_goals rfl

end

/-- **Provenance is sound and complete.** Whenever composition returns, each fact has one label and each
label is there for just the facts it is true of; what a producer asserted, the subject and the trust are
those that were given; and the kernel's request is built with them unchanged, if its model accepts it. -/
theorem provenance_exact {printable : Char → Bool} {request : OperationAwareEvaluateRequest}
    {subject : NormalizedSubject} {identityContext : IdentityContext} {trust : OperationProducerTrust}
    {correlationId : String} {clock : DateTime} {composed : ComposedOperationAwareInput}
    (h : composeOperationAwareInput printable request subject identityContext trust correlationId clock =
      .ok composed) :
    ProvenanceExact request trust composed ∧
    (composed.producerContext = request.producerContext ∧ composed.authorizationSubject = subject ∧
      composed.identityContext = identityContext ∧ composed.operationProducerTrust = trust) ∧
    ∀ models kernel, (buildOperationAwareDecisionRequest models printable composed = .ok kernel ↔
        models.operationAwareDecisionRequest (decisionRequestOf composed) = .ok () ∧
          kernel = decisionRequestOf composed) ∧
      (kernel = decisionRequestOf composed → CarriesOver request subject composed kernel) := by
  obtain ⟨-, -, -, action, resource, -, -, hassembled⟩ := composeOperationAwareInput_ok h
  refine ⟨provenanceExact_of_ok h, ⟨hassembled.producerContext, hassembled.subject, hassembled.identityContext,
    hassembled.trust⟩, ?_⟩
  intro models kernel
  refine ⟨buildDecisionRequest_iff models h, ?_⟩
  intro hkernel
  rw [hkernel]
  exact carriesOver_of_ok h

/-- The theorem at a trusted producer's request. -/
theorem provenance_exact_assertedRooftop :
    ∃ composed, composeOperationAwareInput (fun _ => true) assertedRooftop operator
        ⟨"", "operator", [("sub", .str "operator")]⟩ (classifyOperationProducer operator {"operator"}) "c"
        (.utc 0) = .ok composed ∧
      ProvenanceExact assertedRooftop (classifyOperationProducer operator {"operator"}) composed ∧
      composed.Labels (.producerOnly .safetyContext) .trustedProducerAsserted ∧
      composed.Labels (.producerOnly .riskContext) .unavailable := by
  obtain ⟨composed, h⟩ : ∃ composed, composeOperationAwareInput (fun _ => true) assertedRooftop operator
    ⟨"", "operator", [("sub", .str "operator")]⟩ (classifyOperationProducer operator {"operator"}) "c"
    (.utc 0) = .ok composed := ⟨_, rfl⟩
  obtain ⟨hexact, ⟨hproducer, -⟩, -⟩ := provenance_exact h
  refine ⟨composed, h, hexact, (hexact.asserted _).2 ⟨.safetyContext, rfl, ?_⟩, (hexact.unavailable _).2 ?_⟩
  · rw [hproducer]
    simp [assertedRooftop]
  · rw [Fact.Present, hproducer]
    simp [assertedRooftop]

end BasisGateway
