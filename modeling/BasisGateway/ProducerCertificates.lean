/-
Certificate failures as governed rejections. Every failure the pipeline has a
class for ends in the one 400 answer after one audit write with its reason.
What the X.509 library raises when the extensions are first read has no such
class, that there is no SAN extension apart, and leaves the handler.
-/
import BasisGateway.Auth.ProducerTrustFacts
import BasisGateway.StrictMode

namespace BasisGateway

/-! ## The library's documented outcomes -/

/-- The X.509 library, raising what its documentation says: `ValueError` or `TypeError` when it
loads a certificate, and four classes when it reads the SAN extension. -/
structure DocumentedX509 extends X509 where
  loadPem_raises : ∀ {pem exc}, loadPem pem = .error exc →
    exc.isInstance .valueError = true ∨ exc.isInstance .typeError = true
  uriSans_raises : ∀ {pem certificate exc}, loadPem pem = .ok certificate →
    certificate.uriSans = .error exc →
      exc.cls ∈ [.extensionNotFound, .valueError, .duplicateExtension, .unsupportedGeneralNameType]

/-- The app with this library and these settings, trusted-proxy mTLS enabled. -/
def App.behindTrustedProxy (app : App) (x509 : DocumentedX509) (config : GatewayConfig) : App :=
  { app with
    x509 := x509.toX509
    config := some { config with operationProducerMtlsTrustedProxyEnabled := true } }

/-! ## Failures and reasons -/

/-- Each failure is caught, and audited with its own reason. -/
theorem caught_failure {exc : PyExc} {failure : CertificateFailure} (h : exc.cls = failure.cls) :
    producerMtlsFailures.any exc.isInstance = true ∧ producerMtlsFailureReason exc = .ok failure.reason := by
  rcases exc with ⟨cls, msg, errors⟩
  subst h
  cases failure <;> exact ⟨rfl, rfl⟩

/-- What is caught has a reason. -/
theorem producerMtlsFailureReason_ok {exc : PyExc} (h : producerMtlsFailures.any exc.isInstance = true) :
    ∃ reason, producerMtlsFailureReason exc = .ok reason := by
  unfold producerMtlsFailureReason
  repeat' split
  all_goals first
    | exact ⟨_, rfl⟩
    | simp_all [producerMtlsFailures]

theorem uncaught_extensionFault {exc : PyExc}
    (h : exc.cls ∈ [ExcClass.valueError, .duplicateExtension, .unsupportedGeneralNameType]) :
    producerMtlsFailures.any exc.isInstance = false := by
  rcases exc with ⟨cls, msg, errors⟩
  simp only [List.mem_cons, List.not_mem_nil, or_false] at h
  rcases h with rfl | rfl | rfl <;> rfl

/-! ## The gate of step 4 -/

namespace OperationAware

variable {app : App} {x509 : DocumentedX509} {config : GatewayConfig} {req : Request}
  {subject : NormalizedSubject}

/-- The refusal of a certificate. -/
def certificateRefused (req : Request) (subject : NormalizedSubject) (failure : CertificateFailure) :
    Refusal where
  event := event req OperationAwareEvents.producerMtlsTrustFailed (some failure.reason) (some 400)
    (some subject.subjectId)
  response := producerCertificateRejected req.correlationId
  governed := isRefusal_producerCertificateRejected req.correlationId

/-- How step 4 ends behind a trusted proxy. -/
inductive ProducerTrustOutcome (x509 : X509) (req : Request) (subject : NormalizedSubject)
    (gate : Gate OperationProducerTrust) : Prop
  | obtained (trust : OperationProducerTrust) (h : gate = .ok trust)
  | refused (failure : CertificateFailure) (fails : FailsBy x509 req.headers failure)
      (h : gate = .error (.refuse (certificateRefused req subject failure)))
  | escaped (exc : PyExc) (fault : ExtensionFault x509 req.headers exc)
      (h : gate = .error (.escape exc))

theorem resolve_behindTrustedProxy (x509 : X509) (headers : RawHeaders) (subject : NormalizedSubject)
    (config : GatewayConfig) : resolveOperationProducerTrust x509 headers subject
      { config with operationProducerMtlsTrustedProxyEnabled := true } =
        resolveMtlsOperationProducerTrust x509 headers subject config.operationProducerMtlsAdmittedUris :=
  resolve_of_mtls rfl

section

variable {result : Except PyExc OperationProducerTrust}
  (h : resolveMtlsOperationProducerTrust x509.toX509 req.headers subject
    config.operationProducerMtlsAdmittedUris = result)

include h

theorem producerTrust_of_ok {trust : OperationProducerTrust} (hr : result = .ok trust) :
    producerTrust (app.behindTrustedProxy x509 config) req subject = .ok trust := by
  simp only [producerTrust, App.behindTrustedProxy, resolve_behindTrustedProxy, h, hr]

theorem producerTrust_of_caught {exc : PyExc} {failure : CertificateFailure} (hr : result = .error exc)
    (hcls : exc.cls = failure.cls) : producerTrust (app.behindTrustedProxy x509 config) req subject =
      .error (.refuse (certificateRefused req subject failure)) := by
  obtain ⟨hcaught, hreason⟩ := caught_failure hcls
  simp only [producerTrust, App.behindTrustedProxy, resolve_behindTrustedProxy, h, hr, hcaught, if_true,
    hreason]
  rfl

theorem producerTrust_of_uncaught {exc : PyExc} (hr : result = .error exc)
    (hcaught : producerMtlsFailures.any exc.isInstance = false) :
    producerTrust (app.behindTrustedProxy x509 config) req subject = .error (.escape exc) := by
  simp only [producerTrust, App.behindTrustedProxy, resolve_behindTrustedProxy, h, hr, hcaught,
    Bool.false_eq_true, if_false]

end

/-- What the library raises on the extensions is what resolution raises. -/
theorem resolveMtls_of_fault {x509 : X509} {headers : RawHeaders} (subject : NormalizedSubject)
    (uris : Finset String) {exc : PyExc} (h : ExtensionFault x509 headers exc) :
    resolveMtlsOperationProducerTrust x509 headers subject uris = .error exc := by
  obtain ⟨certificate, hpresents, hs, hne⟩ := h
  have hi : exc.isInstance .extensionNotFound = false := by
    rw [← Bool.not_eq_true, isInstance_extensionNotFound]
    exact hne
  rw [resolveMtls_of_presents hpresents, deriveProducerIdentity, hs]
  simp only [hi, Bool.false_eq_true, if_false]
  rfl

theorem uncaught_of_fault {exc : PyExc} (h : ExtensionFault x509.toX509 req.headers exc) :
    producerMtlsFailures.any exc.isInstance = false := by
  obtain ⟨certificate, ⟨value, pem, sole, bounded, decoded, single, parsed⟩, hs, hne⟩ := h
  have hmem := x509.uriSans_raises parsed hs
  exact uncaught_extensionFault ((List.mem_cons.1 hmem).resolve_left hne)

theorem producerTrust_outcome (app : App) (x509 : DocumentedX509) (config : GatewayConfig) (req : Request)
    (subject : NormalizedSubject) : ProducerTrustOutcome x509.toX509 req subject
      (producerTrust (app.behindTrustedProxy x509 config) req subject) := by
  cases resolveMtls_cases x509.toX509 req.headers subject config.operationProducerMtlsAdmittedUris with
  | established uri hu hr => exact .obtained _ (producerTrust_of_ok hr rfl)
  | failed failure exc hfails hcls hr =>
    exact .refused failure hfails (producerTrust_of_caught hr rfl hcls)
  | unread exc hf hr => exact .escaped exc hf (producerTrust_of_uncaught hr rfl (uncaught_of_fault hf))
  | unloaded pem exc hload hcls hr => exact absurd (x509.loadPem_raises hload) hcls

end OperationAware

/-! ## Serving -/

/-- The reasons of the mTLS failures audited. -/
def producerMtlsReasons (os : List Observation) : List (Option String) :=
  os.filterMap fun
    | .wrote event _ =>
      if event.action = OperationAwareEvents.producerMtlsTrustFailed then some event.reason else none
    | .called _ _ => none

/-- The request comes to its producer's trust: the strict-mode check lets it through, its body is
schema-valid and its caller authenticated; and there is a writer, whose events can be built. -/
structure ReachesProducerTrust (app : App) (req : Request) (subject : NormalizedSubject)
    (between : World → World) (w : World) : Prop where
  begun : (Endpoint.operationAware.begin app req w).1 = none
  identified : ∃ request identityContext, OperationAware.Identified app req request subject identityContext
  writer : (between (Endpoint.operationAware.begin app req w).2).writer.isSome = true
  constructs : ∀ event,
    ((between (Endpoint.operationAware.begin app req w).2).pipeline.construct event).isOk = true

/-- The request obtains a trust, or is refused for its certificate's failure, with one audit write. -/
def CertificateGoverned (app : App) (req : Request) (subject : NormalizedSubject) (served : Served) : Prop :=
  (∃ trust, OperationAware.producerTrust app req subject = .ok trust) ∨
  ∃ failure, FailsBy app.x509 req.headers failure ∧
    served.answer = .ok (producerCertificateRejected req.correlationId) ∧
    producerMtlsReasons served.observed = [some failure.reason]

/-- The strict-mode check audits no certificate. -/
theorem producerMtlsReasons_begin (app : App) (req : Request) (w : World) :
    producerMtlsReasons ((Endpoint.operationAware.begin app req w).2.since w) = [] := by
  have haction : (Endpoint.operationAware.probe req).action ≠
      OperationAwareEvents.producerMtlsTrustFailed := by
    show OperationAwareEvents.auditRecoveryProbe ≠ _
    decide
  rw [Endpoint.since_begin]
  split
  next =>
    rw [World.observe]
    split <;> simp [producerMtlsReasons, haction]
  next => rfl

/-- A refused certificate is audited once. -/
theorem producerMtlsReasons_refused {w : World} (hwriter : w.writer.isSome = true)
    (hconstructs : ∀ event, (w.pipeline.construct event).isOk = true) (req : Request)
    (subject : NormalizedSubject) (failure : CertificateFailure) :
    producerMtlsReasons (w.observed ([.record .bodyRead, .record .authenticate] ++
      (Stop.refuse (OperationAware.certificateRefused req subject failure)).effects)) =
      [some failure.reason] := by
  have hreaches (event : AuditEvent) (trace : List Observation) :
      { w with trace := trace }.reaches event = true := by
    simp only [World.reaches, hwriter, hconstructs, Bool.and_self]
  simp only [Stop.effects, List.cons_append, List.nil_append, World.observed, World.observe, World.act,
    World.afterRecord, hreaches, if_true, List.append_nil]
  rfl

section

variable {app : App} {x509 : DocumentedX509} {config : GatewayConfig} {req : Request}
  {subject : NormalizedSubject} {between : World → World} {w : World}

/-- A stop at the producer's trust, served. -/
theorem serve_of_producerTrust (h : ReachesProducerTrust app req subject between w) {stop : Stop}
    (hstop : OperationAware.producerTrust app req subject = .error stop) :
    let served := Endpoint.operationAware.serve app req between w
    let resumed := between (Endpoint.operationAware.begin app req w).2
    let effects := [.record .bodyRead, .record .authenticate] ++ stop.effects
    served.answer = answerOf (.error stop.exit) ∧
    producerMtlsReasons served.observed = producerMtlsReasons (resumed.observed effects) := by
  obtain ⟨hbegun, ⟨request, identityContext, hid⟩, hwriter, hconstructs⟩ := h
  obtain ⟨w₁, hw₁⟩ : ∃ w₁, Endpoint.operationAware.begin app req w = (none, w₁) :=
    ⟨_, Prod.ext hbegun rfl⟩
  have hsince := producerMtlsReasons_begin app req w
  have hscript : Endpoint.operationAware.script app req (between w₁).writer.isSome = ⟨_, _⟩ :=
    OperationAware.script_of_producerTrust hid hstop _
  intro served resumed effects
  have hserved : served = _ := (Endpoint.serve_of_begin hw₁ between).trans (by rw [hscript])
  rw [hw₁] at hsince
  rw [hserved]
  refine ⟨rfl, ?_⟩
  simp only [resumed, hw₁, producerMtlsReasons, List.filterMap_append]
  rw [← producerMtlsReasons, hsince, List.nil_append]

theorem producerTrust_of_fault {exc : PyExc} (hfault : ExtensionFault x509.toX509 req.headers exc) :
    OperationAware.producerTrust (app.behindTrustedProxy x509 config) req subject = .error (.escape exc) :=
  OperationAware.producerTrust_of_uncaught (OperationAware.resolveMtls_of_fault subject _ hfault) rfl
    (OperationAware.uncaught_of_fault hfault)

/-- What the library raises on the extensions leaves the handler. -/
theorem serve_of_fault (h : ReachesProducerTrust (app.behindTrustedProxy x509 config) req subject between w)
    {exc : PyExc} (hfault : ExtensionFault x509.toX509 req.headers exc) :
    let proxied := app.behindTrustedProxy x509 config
    let served := Endpoint.operationAware.serve proxied req between w
    served.answer = .error exc ∧ producerMtlsReasons served.observed = [] ∧
    ¬ CertificateGoverned proxied req subject served := by
  have hescape : OperationAware.producerTrust (app.behindTrustedProxy x509 config) req subject = _ :=
    producerTrust_of_fault hfault
  obtain ⟨hanswer, hreasons⟩ := serve_of_producerTrust h hescape
  refine ⟨hanswer, hreasons.trans rfl, ?_⟩
  rintro (⟨trust, htrust⟩ | ⟨failure, -, hrejected, -⟩)
  · rw [hescape] at htrust
    cases htrust
  · rw [hanswer] at hrejected
    cases hrejected

end

/-- **Certificate failures, exactly.** Behind a trusted proxy, for any headers and a library with its
documented outcomes: a request that comes to its producer's trust obtains one or ends in the governed
rejection, with the one audit write of its failure's reason, if and only if the library raises
nothing on its certificate's extensions but that there is no SAN extension. No exception that is
caught is without a reason. -/
theorem certificate_failures_governed_iff (app : App) (x509 : DocumentedX509) (config : GatewayConfig)
    (req : Request) (subject : NormalizedSubject) (between : World → World) (w : World)
    (h : ReachesProducerTrust (app.behindTrustedProxy x509 config) req subject between w) :
    let proxied := app.behindTrustedProxy x509 config
    (CertificateGoverned proxied req subject (Endpoint.operationAware.serve proxied req between w) ↔
      ∀ exc, ¬ ExtensionFault x509.toX509 req.headers exc) ∧
    ∀ exc : PyExc, producerMtlsFailures.any exc.isInstance = true →
      ∃ reason, producerMtlsFailureReason exc = .ok reason := by
  intro proxied
  refine ⟨⟨fun hgoverned exc hfault => (serve_of_fault h hfault).2.2 hgoverned, fun hread => ?_⟩,
    fun exc => producerMtlsFailureReason_ok⟩
  cases OperationAware.producerTrust_outcome app x509 config req subject with
  | obtained trust htrust => exact .inl ⟨trust, htrust⟩
  | refused failure hfails hrefused =>
    obtain ⟨hanswer, hreasons⟩ := serve_of_producerTrust h hrefused
    refine .inr ⟨failure, hfails, hanswer, hreasons.trans ?_⟩
    exact producerMtlsReasons_refused h.writer h.constructs req subject failure
  | escaped exc hfault => exact absurd hfault (hread exc)

/-! ## A certificate with two SAN extensions -/

/-- An X.509 v3 certificate whose SAN extension occurs twice, as a PEM block with this space and
this line end. -/
def doubleSanBlock (space newline : Bytes) : Bytes :=
  asciiBytes "-----BEGIN" ++ space ++ asciiBytes "CERTIFICATE-----" ++ newline ++
  asciiBytes "MIHUMIGHoAMCAQICAQEwBQYDK2VwMAAwHhcNMjUwMTAxMDAwMDAwWhcNMzUwMTAx" ++ newline ++
  asciiBytes "MDAwMDAwWjAAMCowBQYDK2VwAyEAAAECAwQFBgcICQoLDA0ODxAREhMUFRYXGBka" ++ newline ++
  asciiBytes "GxwdHh+jJjAkMBAGA1UdEQQJMAeGBXVybjphMBAGA1UdEQQJMAeGBXVybjpiMAUG" ++ newline ++
  asciiBytes "AytlcANBAAAAAAAAAAAAAAAAAAAAAAAAAAAAAAAAAAAAAAAAAAAAAAAAAAAAAAAA" ++ newline ++
  asciiBytes "AAAAAAAAAAAAAAAAAAAAAAAAAAAAAAA=" ++ newline ++
  asciiBytes "-----END" ++ space ++ asciiBytes "CERTIFICATE-----" ++ newline

def doubleSanPem : Bytes := doubleSanBlock (asciiBytes " ") (asciiBytes "\n")

/-- The block as an ingress escapes it. -/
def doubleSanAssertion : Bytes := doubleSanBlock (asciiBytes "%20") (asciiBytes "%0A")

def duplicateExtension : PyExc :=
  { cls := .duplicateExtension, msg := "Duplicate 2.5.29.17 extension found" }

/-- A library that loads this one certificate. -/
def doubleSanX509 : DocumentedX509 where
  loadPem pem :=
    if pem = doubleSanPem then .ok ⟨.error duplicateExtension⟩ else .error { cls := .valueError, msg := "" }
  loadPem_raises {pem exc} h := by
    split at h
    next => cases h
    next => cases h; exact .inl rfl
  uriSans_raises {pem certificate exc} h hs := by
    split at h
    next => cases h; cases hs; decide
    next => cases h

/-- A request that presents it. -/
def doubleSanRequest : Request :=
  { bearerRequest with
    path := "/v1/evaluate/operation-aware"
    headers := [(producerClientCertHeaderName, doubleSanAssertion)] }

theorem doubleSan_presents : Presents doubleSanX509.toX509 doubleSanRequest.headers
    ⟨.error duplicateExtension⟩ := by
  refine ⟨doubleSanAssertion, doubleSanPem, ?_, ?_, ?_, ?_, by simp only [doubleSanX509, if_true]⟩
  · rw [doubleSanRequest, certificateValues, List.filter_cons_of_pos (by simp [SameHeaderName])]
    rfl
  · decide +kernel
  · rw [decodeProducerCertificateAssertion, decodeLatin1, String.toList_ofList]
    decide +kernel
  · decide +kernel

/-- An application whose every body asks for one action. -/
def readAhuApp : App :=
  { permissiveApp with
    parseOperationAwareEvaluateRequest := fun _ => .ok
      { requestId := none, action := "read:ahu", action_not_blank := readAhu_not_blank, resourceType := none
        resourceId := none, context := .empty, context_empty := OrderedDict.entries_empty, producerContext := fun _ => none } }

/-- Its one caller. -/
def operator : NormalizedSubject :=
  { subjectId := "operator", name := "operator", roles := [], attributes := [] }

/-- An OIDC verifier to which every token is the operator's. -/
def operatorVerifiers : Verifiers where
  oidcVerifier := some fun _ => .ok [("sub", .str "operator")]
  basisLocalTrust := none

/-- A freshly started gateway whose sink accepts everything. -/
def acceptingWorld : World := (freshStartup brittleStartup).serving (.ofSink fun _ _ => .ok ())

theorem doubleSan_reaches :
    ReachesProducerTrust (readAhuApp.behindTrustedProxy doubleSanX509 brittleConfig) doubleSanRequest
      operator id acceptingWorld where
  begun := by decide +kernel
  identified :=
    ⟨_, _, ⟨⟨[], rfl, rfl⟩, "token", by decide +kernel, rfl⟩⟩
  writer := by decide +kernel
  constructs _ := rfl

/-- The theorem at that request. -/
theorem certificate_failures_governed_iff_doubleSan :
    let proxied := readAhuApp.behindTrustedProxy doubleSanX509 brittleConfig
    ReachesProducerTrust proxied doubleSanRequest operator id acceptingWorld ∧
    (CertificateGoverned proxied doubleSanRequest operator
      (Endpoint.operationAware.serve proxied doubleSanRequest id acceptingWorld) ↔
        ∀ exc, ¬ ExtensionFault doubleSanX509.toX509 doubleSanRequest.headers exc) :=
  ⟨doubleSan_reaches, (certificate_failures_governed_iff _ _ _ _ _ _ _ doubleSan_reaches).1⟩

/-- `DuplicateExtension` leaves the handler: no trust, no rejection and no audit write. -/
theorem duplicate_extension_escapes :
    let proxied := readAhuApp.behindTrustedProxy doubleSanX509 brittleConfig
    let served := Endpoint.operationAware.serve proxied doubleSanRequest id acceptingWorld
    ReachesProducerTrust proxied doubleSanRequest operator id acceptingWorld ∧
    served.answer = .error duplicateExtension ∧
    producerMtlsReasons served.observed = [] ∧
    ¬ CertificateGoverned proxied doubleSanRequest operator served :=
  have hfault : ExtensionFault doubleSanX509.toX509 doubleSanRequest.headers duplicateExtension :=
    ⟨_, doubleSan_presents, rfl, by decide⟩
  ⟨doubleSan_reaches, serve_of_fault doubleSan_reaches hfault⟩

end BasisGateway
