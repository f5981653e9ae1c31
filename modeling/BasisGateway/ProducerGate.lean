/-
The producer-context gate, from the header list to the kernel. A field only
a producer may assert reaches the kernel only from a caller the selected
mechanism trusts; and what an untrusted caller is told does not depend on
what it put in such a field.
-/
import BasisGateway.Auth.ProducerTrustFacts
import BasisGateway.KernelCalls

namespace BasisGateway

open Script

/-- The app with these verifiers behind its authentication. -/
def App.withVerifiers (app : App) (verifiers : Verifiers) : App :=
  { app with authenticate := BasisGateway.authenticate verifiers }

/-- The mechanism the configuration selects trusts this caller. -/
def TrustedBy (x509 : X509) (config : GatewayConfig) (headers : RawHeaders) (subject : NormalizedSubject) :
    Prop :=
  if config.operationProducerMtlsTrustedProxyEnabled then
    ∃ uri, CarriesUri x509 headers uri ∧ uri ∈ config.operationProducerMtlsAdmittedUris
  else subject.subjectId ∈ config.operationProducerSubjectIds

/-! ## Classification -/

theorem mem_of_classify_trusted {subject : NormalizedSubject} {ids : Finset String}
    (h : (classifyOperationProducer subject ids).status = .trusted) : subject.subjectId ∈ ids := by
  unfold classifyOperationProducer at h
  split at h
  next => cases h
  next =>
    split at h
    next hm => exact hm
    next => cases h

theorem admittedTrust_status (subject : NormalizedSubject) (uris : Finset String) (uri : String) :
    (admittedTrust subject uris uri).status = .trusted ↔ uri ∈ uris := by
  unfold admittedTrust
  split
  next hm => exact iff_of_true rfl hm
  next hm => exact iff_of_false (by simp) hm

theorem trustedBy_of_resolve {x509 : X509} {headers : RawHeaders} {subject : NormalizedSubject}
    {config : GatewayConfig} {trust : OperationProducerTrust}
    (h : resolveOperationProducerTrust x509 headers subject config = .ok trust)
    (ht : trust.status = .trusted) : TrustedBy x509 config headers subject := by
  unfold TrustedBy
  split
  next hon =>
    obtain ⟨uri, hu, rfl⟩ := resolveMtls_ok ((resolve_of_mtls hon).symm.trans h)
    exact ⟨uri, hu, (admittedTrust_status ..).1 ht⟩
  next hoff =>
    rw [resolve_of_allowlist (by simpa using hoff)] at h
    cases h
    exact mem_of_classify_trusted ht

/-- An untrusted result is consistent with the identity it was resolved for. -/
theorem checkIdentityConsistency_untrusted (printable : Char → Bool) {x509 : X509} {headers : RawHeaders}
    {subject : NormalizedSubject} {identityContext : IdentityContext} {config : GatewayConfig}
    {trust : OperationProducerTrust} (hid : identityContext.subjectId = subject.subjectId)
    (h : resolveOperationProducerTrust x509 headers subject config = .ok trust)
    (ht : trust.status = .untrusted) :
    checkIdentityConsistency printable subject identityContext trust = .ok () := by
  cases hon : config.operationProducerMtlsTrustedProxyEnabled with
  | true =>
    obtain ⟨uri, -, rfl⟩ := resolveMtls_ok ((resolve_of_mtls hon).symm.trans h)
    have hnot : uri ∉ config.operationProducerMtlsAdmittedUris := fun hm => by
      rw [(admittedTrust_status ..).2 hm] at ht
      cases ht
    exact checkIdentityConsistency_admitted printable hid _ (.inr hnot)
  | false =>
    rw [resolve_of_allowlist hon] at h
    cases h
    exact checkIdentityConsistency_classify printable hid _

namespace OperationAware

variable {app : App} {req : Request} {subject : NormalizedSubject} {trust : OperationProducerTrust}

theorem producerTrust_ok (h : producerTrust app req subject = .ok trust) :
    (app.config = none ∧ trust = classifyOperationProducer subject ∅) ∨
      ∃ config, app.config = some config ∧
        resolveOperationProducerTrust app.x509 req.headers subject config = .ok trust := by
  unfold producerTrust at h
  split at h
  next hnone => cases h; exact .inl ⟨hnone, rfl⟩
  next config hsome =>
    split at h
    next hr => cases h; exact .inr ⟨config, hsome, hr⟩
    next =>
      split at h
      next => split at h <;> cases h
      next => cases h

/-! ## An untrusted caller -/

/-- The caller is identified and classified as no producer, and the body has producer-only fields. -/
structure Unentitled (app : App) (req : Request) (request : OperationAwareEvaluateRequest)
    (subject : NormalizedSubject) (identityContext : IdentityContext) : Prop where
  identified : Identified app req request subject identityContext
  trust : ∃ trust, producerTrust app req subject = .ok trust ∧ trust.status = .untrusted
  present : presentOperationProducerOnlyFields request ≠ []

/-- The refusal of producer-only fields. -/
def producerContextRefused (req : Request) (subject : NormalizedSubject) (fields : List ProducerOnlyField) :
    Refusal where
  event := event req OperationAwareEvents.compositionRejected (some Reason.producerContextRejected)
    (some 400) (some subject.subjectId)
  response := validationFailed (untrustedOperationProducerContext fields).msg req.correlationId
  governed := rfl

section

variable {verifiers : Verifiers} {request : OperationAwareEvaluateRequest}
  {identityContext : IdentityContext}

/-- Composition refuses the fields by name. -/
theorem composition_untrusted
    (hid : Identified (app.withVerifiers verifiers) req request subject identityContext)
    (hp : producerTrust (app.withVerifiers verifiers) req subject = .ok trust)
    (ht : trust.status = .untrusted) (hpresent : presentOperationProducerOnlyFields request ≠ []) :
    let refusal := producerContextRefused req subject (presentOperationProducerOnlyFields request)
    composition (app.withVerifiers verifiers) req request subject identityContext trust =
      .error (.refuse refusal) := by
  obtain ⟨token, -, hcaller⟩ := hid.caller
  have hsubject : identityContext.subjectId = subject.subjectId := authenticate_subjectId hcaller
  have hconsistent : checkIdentityConsistency app.printable subject identityContext trust = .ok () := by
    rcases producerTrust_ok hp with ⟨-, rfl⟩ | ⟨config, -, hr⟩
    · exact checkIdentityConsistency_classify _ hsubject _
    · exact checkIdentityConsistency_untrusted _ hsubject hr ht
  have hc : composeOperationAwareInput app.printable request subject identityContext trust req.correlationId
      (.utc req.readings.evaluationTime) = _ :=
    compose_untrusted req.correlationId_not_blank hconsistent hpresent ht
  have hcls : (untrustedOperationProducerContext (presentOperationProducerOnlyFields request)).isInstance
      .untrustedOperationProducerContextError = true := rfl
  unfold composition
  simp only [App.withVerifiers, hc, hcls, if_true]
  rfl

theorem script_of_unentitled
    (h : Unentitled (app.withVerifiers verifiers) req request subject identityContext) (present : Bool) :
    let stop := Stop.refuse
      (producerContextRefused req subject (presentOperationProducerOnlyFields request))
    script (app.withVerifiers verifiers) req present =
      ⟨[.record .bodyRead, .record .authenticate] ++ stop.effects, .error stop.exit⟩ := by
  obtain ⟨trust, hp, ht⟩ := h.trust
  exact script_of_composition h.identified hp (composition_untrusted h.identified hp ht h.present) present

end

end OperationAware

/-- The same request with another body. -/
def Request.withBody (req : Request) (body : Except PyExc Bytes) : Request := { req with body := body }

/-- The names of the fields present are those of the fields present, and not their values. -/
theorem present_congr {request request' : OperationAwareEvaluateRequest}
    (h : ∀ field, (request'.producerContext field).isSome = (request.producerContext field).isSome) :
    presentOperationProducerOnlyFields request' = presentOperationProducerOnlyFields request := by
  simp only [presentOperationProducerOnlyFields, h]

/-- A request admitted with a producer-only field is one the selected mechanism trusts. -/
theorem OperationAware.Passed.trusted {app : App} {req : Request} {a : OperationAware.Admitted}
    (h : OperationAware.Passed app req a) {field : ProducerOnlyField}
    (hfield : a.composed.producerContext field ≠ none) :
    ∃ config, app.config = some config ∧ TrustedBy app.x509 config req.headers a.subject := by
  have hmem : field ∈ presentOperationProducerOnlyFields a.request := by
    rw [mem_present, ← h.composes.producerContext]
    exact Option.isSome_iff_ne_none.2 hfield
  have ht : a.trust.status = .trusted :=
    h.composes.gate.resolve_left (List.ne_nil_of_mem hmem)
  rcases OperationAware.producerTrust_ok h.trust with ⟨-, htrust⟩ | ⟨config, hconfig, hr⟩
  · rw [htrust] at ht
    exact absurd (mem_of_classify_trusted ht) (Finset.notMem_empty _)
  · exact ⟨config, hconfig, trustedBy_of_resolve hr ht⟩

/-- **The producer-context gate.** For any app, request and shared state, whatever runs while the body
is awaited. If the kernel's request has a producer-only field, its caller is trusted by the mechanism
the configuration selects. And an untrusted caller's request with such a field is answered 400, never
reaches the kernel, and is served exactly as any other body of the same caller with the same fields
present. -/
theorem producer_context_gated (app : App) (verifiers : Verifiers) (req : Request) (between : World → World)
    (w : World) :
    let gateway := app.withVerifiers verifiers
    let served := Endpoint.operationAware.serve gateway req between w
    (∀ call field, Call.operationAwareKernel call ∈ calls served.observed →
      call.request.producerContext field ≠ none →
        ∃ request subject identityContext config,
          OperationAware.Identified gateway req request subject identityContext ∧
          gateway.config = some config ∧ TrustedBy gateway.x509 config req.headers subject) ∧
    ∀ request subject identityContext,
      OperationAware.Unentitled gateway req request subject identityContext →
      (Endpoint.operationAware.begin gateway req w).1 = none →
        (∃ response, served.answer = .ok response ∧ response.statusCode = 400) ∧
        kernelCalls served.observed = [] ∧
        ∀ body request',
          OperationAware.Identified gateway (req.withBody body) request' subject identityContext →
          (∀ field, (request'.producerContext field).isSome = (request.producerContext field).isSome) →
            Endpoint.operationAware.serve gateway (req.withBody body) between w = served := by
  intro gateway served
  refine ⟨fun call field hcall hfield => ?_, fun request subject identityContext h hbegun => ?_⟩
  · obtain ⟨present, hscript⟩ := Endpoint.mem_calls_serve hcall
    obtain ⟨a, hthrough, -, hk⟩ := OperationAware.through_of_kernel hscript
    have ha := hthrough.passed
    rw [kernelCall_request hk] at hfield
    obtain ⟨config, hconfig, htrusted⟩ := ha.trusted hfield
    exact ⟨a.request, a.subject, a.identityContext, config, ⟨ha.body, a.token, ha.token, ha.authenticated⟩,
      hconfig, htrusted⟩
  · obtain ⟨w₁, hw₁⟩ : ∃ w₁, Endpoint.operationAware.begin gateway req w = (none, w₁) :=
      ⟨_, Prod.ext hbegun rfl⟩
    have hscript (present : Bool) : Endpoint.operationAware.script gateway req present = ⟨_, _⟩ :=
      OperationAware.script_of_unentitled h present
    let refusal :=
      OperationAware.producerContextRefused req subject (presentOperationProducerOnlyFields request)
    refine ⟨⟨refusal.response, ?_, rfl⟩, ?_, fun body request' hid hsame => ?_⟩
    · simp only [served, Endpoint.serve_of_begin hw₁, hscript]
      rfl
    · simp only [served, Endpoint.kernelCalls_of_begin hw₁, hscript, callsOf_append, callsOf_stop]
      rfl
    · have hpresent := present_congr hsame
      obtain ⟨trust, hp, ht⟩ := h.trust
      have h' : OperationAware.Unentitled gateway (req.withBody body) request' subject identityContext :=
        ⟨hid, ⟨trust, hp, ht⟩, hpresent.trans_ne h.present⟩
      have hw₁' : Endpoint.operationAware.begin gateway (req.withBody body) w = (none, w₁) := hw₁
      have hscript' (present : Bool) : Endpoint.operationAware.script gateway (req.withBody body) present =
          ⟨_, _⟩ := OperationAware.script_of_unentitled h' present
      rw [Endpoint.serve_of_begin hw₁', hscript']
      simp only [served, Endpoint.serve_of_begin hw₁, hscript, hpresent]
      rfl

end BasisGateway
