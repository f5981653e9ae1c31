/-
Where the subject of a kernel request comes from: the verified token, and
nothing else of the request. The subject fields are a function of what the
verifier of the configured mode returned, and every string in them is one of
its claims.

A body that names a subject, or carries any other key its schema does not
define, does not get that far.
-/
import BasisGateway.Api.BodySchemas
import BasisGateway.AuthenticationContract
import BasisGateway.ProducerCertificates
import BasisGateway.ProducerGate
import BasisGateway.Unauthenticated
import Mathlib.Data.Finset.Insert

namespace BasisGateway

open Script

variable {JWK DateTime : Type}

/-! ## What a verifier returns -/

/-- What verification in one of the two modes returns. -/
inductive Verification
  | oidc (claims : Claims)
  | basisLocal (result : VerifiedBasisLocalToken)

namespace Verification

/-- The verified claims. -/
def claims : Verification → Claims
  | .oidc claims => claims
  | .basisLocal result => result.claims

/-- The normalization of the mode. -/
def identity : Verification → Except PyExc (NormalizedSubject × IdentityContext)
  | .oidc claims => mapClaims claims
  | .basisLocal result => .ok (basisLocalIdentity result.toBasisLocalTokenVerificationResult)

end Verification

/-- The verification `authenticate` asks for. -/
def TokenVerifiers.verification (lib : TokenLibrary JWK DateTime) (config : TokenVerifiers JWK lib.tables)
    (mode : AuthMode) (token : String) : Except PyExc Verification :=
  match mode with
  | .oidc => match config.oidc with
    | none => .error { cls := .authNotConfiguredError, msg := "OIDC verifier not initialized" }
    | some verifier => (verifier.verify lib.jwt lib.tables.printable token).map .oidc
  | .basisLocalToken => match config.basisLocal with
    | none => .error { cls := .authNotConfiguredError, msg := "BASIS-local token trust config not initialized" }
    | some trust => (BasisLocalToken.verifyBasisLocalIdentityToken lib trust token).map .basisLocal

theorem authenticate_eq (lib : TokenLibrary JWK DateTime) (config : TokenVerifiers JWK lib.tables)
    (mode : AuthMode) (token : String) : authenticate (config.verifiers lib) mode token =
      (config.verification lib mode token >>= Verification.identity) := by
  cases mode with
  | oidc =>
    rcases h : config.oidc with - | verifier
    · simp only [authenticate, TokenVerifiers.verifiers, TokenVerifiers.verification, h, Option.map_none]
      rfl
    · simp only [authenticate, TokenVerifiers.verifiers, TokenVerifiers.verification, h, Option.map_some]
      cases verifier.verify lib.jwt lib.tables.printable token <;> rfl
  | basisLocalToken =>
    rcases h : config.basisLocal with - | trust
    · simp only [authenticate, TokenVerifiers.verifiers, TokenVerifiers.verification, h, Option.map_none]
      rfl
    · simp only [authenticate, TokenVerifiers.verifiers, TokenVerifiers.verification, h, Option.map_some]
      cases BasisLocalToken.verifyBasisLocalIdentityToken lib trust token <;> rfl

/-! ## The subject of the claims -/

/-- `text` is said in one of the subject fields. -/
def SubjectFields.Says (fields : SubjectFields) (text : String) : Prop :=
  text = fields.subjectId ∨ text ∈ fields.subjectRoles ∨
  ∃ attr ∈ fields.subjectAttrs, text = attr.1 ∨ text = attr.2

/-- The subject is the `sub` of the claims, and everything said of it is said by them, the names of the
attributes apart. -/
structure SubjectOf (claims : Claims) (subject : NormalizedSubject) : Prop where
  subjectId : Json.get? "sub" claims = some (.str subject.subjectId)
  said : ∀ text, subject.subjectFields.Says text →
    text ∈ attributeClaims ∨ Json.HasString text (.obj claims)

theorem hasString_of_mem_normalizeRoles {raw : List Json} {role : String} (h : role ∈ normalizeRoles raw) :
    Json.HasString role (.arr raw) := by
  rw [normalizeRoles, sortedSet, List.mem_insertionSort, List.mem_dedup, List.mem_filterMap] at h
  obtain ⟨value, hmem, hvalue⟩ := h
  split at hvalue
  next s =>
    cases hvalue
    exact .item hmem .here
  next => cases hvalue

theorem hasString_of_mem_extractRoles {claims : Claims} {role : String} (h : role ∈ extractRoles claims) :
    Json.HasString role (.obj claims) := by
  unfold extractRoles at h
  simp only at h
  split at h
  next raw hnested =>
    split at hnested
    next realmAccess hrealm =>
      exact .of_get? hrealm (.of_get? hnested (hasString_of_mem_normalizeRoles h))
    next => cases hnested
  next =>
    split at h
    next raw hroles => exact .of_get? hroles (hasString_of_mem_normalizeRoles h)
    next => cases h

theorem get?_of_mem_collectAttributes {claims : Claims} {key : String} {value : Json}
    (h : (key, value) ∈ collectAttributes claims) :
    key ∈ attributeClaims ∧ Json.get? key claims = some value := by
  rw [collectAttributes, List.mem_filterMap] at h
  obtain ⟨claim, hmem, hclaim⟩ := h
  split at hclaim
  next => cases hclaim
  next => cases hclaim
  next value' _ hget =>
    cases hclaim
    exact ⟨hmem, hget⟩

theorem subjectOf_mapClaims {claims : Claims} {subject : NormalizedSubject} {context : IdentityContext}
    (h : mapClaims claims = .ok (subject, context)) : SubjectOf claims subject := by
  unfold mapClaims at h
  split at h
  next subjectId hsub =>
    split at h
    next => cases h
    next =>
      cases h
      refine ⟨hsub, ?_⟩
      rintro text (rfl | hrole | ⟨⟨key, value⟩, hattr, htext⟩)
      · exact .inr (.of_get? hsub .here)
      · exact .inr (hasString_of_mem_extractRoles hrole)
      · obtain ⟨hkey, hget⟩ := get?_of_mem_collectAttributes (mem_stringAttributes.1 hattr)
        rcases htext with rfl | rfl
        · exact .inl hkey
        · exact .inr (.of_get? hget .here)
  next => cases h

/-- The subject of a BASIS-local result is read from the claims the result carries. -/
theorem subjectOf_basisLocalIdentity {payload : Claims} {result : VerifiedBasisLocalToken}
    (h : BasisLocalToken.Carries payload result) :
    SubjectOf payload (basisLocalIdentity result.toBasisLocalTokenVerificationResult).1 := by
  have below {key text : String} {fields : Claims} {value : Json}
      (hsubject : Json.get? "subject" result.canonicalIdentity = some (.obj fields))
      (hget : Json.get? key fields = some value) (hvalue : Json.HasString text value) :
      Json.HasString text (.obj payload) :=
    .of_at h.canonicalIdentity (.of_get? hsubject (.of_get? hget hvalue))
  refine ⟨Json.at_one_iff.1 h.subjectId, ?_⟩
  rintro text (rfl | hrole | ⟨⟨key, value⟩, hattr, htext⟩)
  · exact .inr (.of_at h.subjectId .here)
  · simp only [NormalizedSubject.subjectFields, basisLocalIdentity] at hrole
    split at hrole
    next raw hroles =>
      split at hroles
      next fields hsubject => exact .inr (below hsubject hroles (hasString_of_mem_normalizeRoles hrole))
      next => cases hroles
    next => cases hrole
  · simp only [NormalizedSubject.subjectFields, basisLocalIdentity, mem_stringAttributes] at hattr
    split at hattr
    next email hemail =>
      split at hattr
      next => cases hattr
      next =>
        cases List.mem_singleton.1 hattr
        split at hemail
        next fields hsubject =>
          rcases htext with rfl | rfl
          · exact .inl (show "email" ∈ attributeClaims by decide)
          · exact .inr (below hsubject hemail .here)
        next => cases hemail
    next => cases hattr

theorem TokenVerifiers.oidc_of_verification {lib : TokenLibrary JWK DateTime}
    {config : TokenVerifiers JWK lib.tables} {token : String} {verified : Verification}
    (h : config.verification lib .oidc token = .ok verified) : ∃ claims, verified = .oidc claims := by
  simp only [verification] at h
  split at h
  next => cases h
  next =>
    obtain ⟨claims, -, rfl⟩ := Except.map_eq_ok.1 h
    exact ⟨claims, rfl⟩

theorem TokenVerifiers.carries_of_verification {lib : TokenLibrary JWK DateTime}
    {config : TokenVerifiers JWK lib.tables} {token : String} {verified : Verification}
    (h : config.verification lib .basisLocalToken token = .ok verified) :
    ∃ result, verified = .basisLocal result ∧ BasisLocalToken.Carries verified.claims result := by
  simp only [verification] at h
  split at h
  next => cases h
  next =>
    obtain ⟨result, hresult, rfl⟩ := Except.map_eq_ok.1 h
    obtain ⟨payload, -, hcarries⟩ := BasisLocalToken.verifyBasisLocalIdentityToken_eq_ok.1 hresult
    refine ⟨result, rfl, ?_⟩
    rwa [show (Verification.basisLocal result).claims = payload from hcarries.claims]

/-- The subject that authentication returns is that of the verified claims. -/
theorem subjectOf_verification {lib : TokenLibrary JWK DateTime} {config : TokenVerifiers JWK lib.tables}
    {mode : AuthMode} {token : String} {verified : Verification} {subject : NormalizedSubject}
    {context : IdentityContext} (hverified : config.verification lib mode token = .ok verified)
    (hidentity : verified.identity = .ok (subject, context)) : SubjectOf verified.claims subject := by
  cases mode with
  | oidc =>
    obtain ⟨claims, rfl⟩ := TokenVerifiers.oidc_of_verification hverified
    exact subjectOf_mapClaims hidentity
  | basisLocalToken =>
    obtain ⟨result, rfl, hcarries⟩ := TokenVerifiers.carries_of_verification hverified
    cases hidentity
    exact subjectOf_basisLocalIdentity hcarries

/-! ## The subject of a kernel request -/

/-- The subject fields of the request of a kernel call. -/
def Call.subjectFields? : Call → Option SubjectFields
  | .kernel call => some call.request.subjectFields
  | .operationAwareKernel call => some call.request.subjectFields
  | _ => none

/-- The subject fields of the kernel requests among these observations. -/
def kernelSubjects (os : List Observation) : List SubjectFields := (calls os).filterMap Call.subjectFields?

/-- The kernel requests of a request that goes past the strict-mode check are its script's. -/
theorem Endpoint.kernelSubjects_of_begin {endpoint : Endpoint} {app : App} {req : Request} {w w₁ : World}
    (h : endpoint.begin app req w = (none, w₁)) (between : World → World) :
    kernelSubjects (endpoint.serve app req between w).observed =
      (callsOf (endpoint.script app req (between w₁).writer.isSome).effects).filterMap Call.subjectFields? := by
  have hcalls := endpoint.calls_begin app req w
  rw [h] at hcalls
  simp only [serve_of_begin h, kernelSubjects, calls_append, hcalls, List.nil_append, calls_observed]
  rfl

/-- A handler calls its own kernel only. -/
theorem Endpoint.isOf_of_mem {endpoint : Endpoint} {app : App} {req : Request} {present : Bool} {call : Call}
    (h : call ∈ callsOf (endpoint.script app req present).effects) (hkernel : call.isKernel = true) :
    call.isOf endpoint := by
  have hother {calls : List Call} (hnone : ∀ c ∈ calls, c.isKernel = false) : call ∉ calls := by
    intro hmem
    rw [hnone call hmem] at hkernel
    cases hkernel
  cases endpoint.course app req present with
  | refused stop hcalls =>
    rcases hcalls with hcalls | hcalls <;> rw [hcalls] at h <;> exact absurd h (hother (by simp [Call.isKernel]))
  | unbuilt stop _ hcalls =>
    rw [hcalls] at h
    exact absurd h (hother (by simp [Call.isKernel]))
  | called invoked _ hof hcalls =>
    rw [hcalls, show [Call.bodyRead, .authenticate, .evaluator, invoked] =
      [.bodyRead, .authenticate, .evaluator] ++ [invoked] from rfl, List.mem_append, List.mem_singleton] at h
    rcases h with h | rfl
    · exact absurd h (hother (by simp [Call.isKernel]))
    · exact hof

/-- A kernel request speaks of the subject authentication returned for the request's token. -/
theorem caller_of_mem_kernelSubjects {endpoint : Endpoint} {app : App} {req : Request} {between : World → World}
    {w : World} {fields : SubjectFields} (h : fields ∈ kernelSubjects (endpoint.serve app req between w).observed) :
    ∃ token subject context, extractBearerToken req.authorization = .ok token ∧
      app.authenticate app.authMode token = .ok (subject, context) ∧ fields = subject.subjectFields := by
  obtain ⟨call, hcall, hfields⟩ := List.mem_filterMap.1 h
  obtain ⟨present, hscript⟩ := Endpoint.mem_calls_serve hcall
  have hkernel : call.isKernel = true := by
    cases call with
    | kernel _ | operationAwareKernel _ => rfl
    | _ => cases hfields
  have hof : call.isOf endpoint := Endpoint.isOf_of_mem hscript hkernel
  cases endpoint with
  | evaluate =>
    cases call with
    | kernel call =>
      cases hfields
      obtain ⟨a, ha, hk⟩ := Evaluate.through_of_kernel hscript
      exact ⟨a.token, a.subject, a.identityContext, bearerGate_ok ha.bearer,
        authenticationGate_ok ha.authentication, (EvaluationInput.calls_of_kernelCall hk).subject⟩
    | _ => exact hof.elim
  | operationAware =>
    cases call with
    | operationAwareKernel call =>
      cases hfields
      obtain ⟨a, ha, -, hk⟩ := OperationAware.through_of_kernel hscript
      refine ⟨a.token, a.subject, a.identityContext, bearerGate_ok ha.bearer,
        authenticationGate_ok ha.authentication, ?_⟩
      rw [kernelCall_subjectFields hk, ha.passed.composes.subject]
    | _ => exact hof.elim

/-! ## Bodies with other keys -/

/-- A body that the endpoint's class does not take is refused at the first gate. -/
theorem SchemaApp.body_refused {app : SchemaApp} (verifiers : Verifiers) {endpoint : Endpoint} {req : Request}
    {bytes : Bytes} {fields : List (String × Json)} {key : String} (hbody : req.body = .ok bytes)
    (hloads : app.loads bytes = some (.obj fields)) (hkey : key ∈ fields.map Prod.fst)
    (hextra : key ∉ (endpoint.modelClass app.printable).fields) :
    ∃ (stop : Stop) (message : String), stop.exit = Exit.answered (validationFailed message req.correlationId) ∧
      ∀ present, endpoint.script (app.withVerifiers verifiers) req present =
        ⟨[.record .bodyRead] ++ stop.effects, .error stop.exit⟩ := by
  cases endpoint with
  | evaluate =>
    obtain ⟨invalid, hparse, -⟩ := app.parseEvaluateRequest_extra hloads hkey hextra
    rcases hb : Evaluate.body (app.withVerifiers verifiers) req with stop | request
    · obtain ⟨reason, message, -, hexit⟩ := bodyGate_error hb
      refine ⟨stop, message, hexit, fun present => ?_⟩
      show Evaluate.script _ _ = _
      simp only [Evaluate.script, Evaluate.admissionScript, perform_bind, Gate.script, hb, bind_error,
        List.singleton_append]
    · obtain ⟨bytes', hbytes', hparse'⟩ := bodyGate_ok hb
      cases hbody.symm.trans hbytes'
      cases hparse.symm.trans hparse'
  | operationAware =>
    obtain ⟨invalid, hparse, -⟩ := app.operationAwareSchema.extra rfl hloads hkey hextra
    have hinvalid : ¬ SchemaValid (app.withVerifiers verifiers) req := by
      rintro ⟨bytes', request, hbytes', hparse'⟩
      cases hbody.symm.trans hbytes'
      cases hparse.symm.trans hparse'
    obtain ⟨stop, -, hb, -, -, hscript⟩ := OperationAware.script_of_invalid hinvalid
    obtain ⟨reason, message, -, hexit⟩ := bodyGate_error hb
    exact ⟨stop, message, hexit, hscript⟩

/-- It is answered 400, or 503 before it is read, and the kernel is not invoked. -/
theorem SchemaApp.extra_refused {app : SchemaApp} {verifiers : Verifiers} {endpoint : Endpoint} {req : Request}
    {between : World → World} {w : World} {bytes : Bytes} {fields : List (String × Json)} {key : String}
    (hbody : req.body = .ok bytes) (hloads : app.loads bytes = some (.obj fields))
    (hkey : key ∈ fields.map Prod.fst) (hextra : key ∉ (endpoint.modelClass app.printable).fields) :
    let served := endpoint.serve (app.withVerifiers verifiers) req between w
    (served.answer = .ok (auditFailClosed req.correlationId) ∨
      ∃ message, served.answer = .ok (validationFailed message req.correlationId)) ∧
    kernelCalls served.observed = [] := by
  intro served
  rcases hb : endpoint.begin (app.withVerifiers verifiers) req w with ⟨- | answer, w₁⟩
  · obtain ⟨stop, message, hexit, hscript⟩ := SchemaApp.body_refused verifiers hbody hloads hkey hextra
    constructor
    · right
      refine ⟨message, ?_⟩
      simp only [served, Endpoint.serve_of_begin hb, hscript, hexit]
      rfl
    · simp only [served, Endpoint.kernelCalls_of_begin hb, hscript, callsOf_append, callsOf_stop]
      rfl
  · have hcalls := endpoint.calls_begin (app.withVerifiers verifiers) req w
    rw [hb] at hcalls
    constructor
    · left
      simp only [served, Endpoint.serve, hb, Endpoint.begin_answers hb]
    · simp only [served, Endpoint.serve, hb, kernelCalls, hcalls, List.filter_nil]

/-! ## Two requests -/

/-- **The subject is the token's.** For any app, verifiers and trust configurations, and any two requests, to
either endpoint, in any shared state and whatever runs while a body is awaited. If verification in the
configured mode is the same for both tokens, the kernel requests of both have the same subject fields. Each
has the `sub` of the verified claims for its subject id, and every string in its subject fields, the names
of the attributes apart, is a string of those claims. A body with a key that its schema does not define, as
neither defines `subject_id` or `subject_roles`, is answered 400, or 503 before it is read, without the kernel
being invoked. -/
theorem subject_from_token (lib : TokenLibrary JWK DateTime) (app : SchemaApp)
    (config₁ config₂ : TokenVerifiers JWK lib.tables) (endpoint₁ endpoint₂ : Endpoint) (req₁ req₂ : Request)
    (between₁ between₂ : World → World) (w₁ w₂ : World) :
    let gateway₁ := app.withVerifiers (config₁.verifiers lib)
    let gateway₂ := app.withVerifiers (config₂.verifiers lib)
    let served₁ := endpoint₁.serve gateway₁ req₁ between₁ w₁
    let served₂ := endpoint₂.serve gateway₂ req₂ between₂ w₂
    (∀ token₁ token₂, extractBearerToken req₁.authorization = .ok token₁ →
      extractBearerToken req₂.authorization = .ok token₂ →
      config₁.verification lib gateway₁.authMode token₁ = config₂.verification lib gateway₂.authMode token₂ →
      ∀ fields₁ ∈ kernelSubjects served₁.observed, ∀ fields₂ ∈ kernelSubjects served₂.observed,
        fields₁ = fields₂) ∧
    (∀ fields ∈ kernelSubjects served₁.observed, ∃ token verified,
      extractBearerToken req₁.authorization = .ok token ∧
      config₁.verification lib gateway₁.authMode token = .ok verified ∧
      Json.get? "sub" verified.claims = some (.str fields.subjectId) ∧
      ∀ text, fields.Says text → text ∈ attributeClaims ∨ Json.HasString text (.obj verified.claims)) ∧
    (∀ bytes fields key, req₁.body = .ok bytes → app.loads bytes = some (.obj fields) →
      key ∈ fields.map Prod.fst → key ∉ (endpoint₁.modelClass app.printable).fields →
        (served₁.answer = .ok (auditFailClosed req₁.correlationId) ∨
          ∃ message, served₁.answer = .ok (validationFailed message req₁.correlationId)) ∧
        kernelCalls served₁.observed = []) ∧
    ∀ key ∈ ["subject_id", "subject_roles"], key ∉ (endpoint₁.modelClass app.printable).fields := by
  intro gateway₁ gateway₂ served₁ served₂
  have verified {config : TokenVerifiers JWK lib.tables} {mode : AuthMode} {token : String}
      {subject : NormalizedSubject} {context : IdentityContext}
      (h : authenticate (config.verifiers lib) mode token = .ok (subject, context)) :
      ∃ verified, config.verification lib mode token = .ok verified ∧
        verified.identity = .ok (subject, context) := by
    rw [authenticate_eq] at h
    exact Except.bind_eq_ok.1 h
  refine ⟨?_, ?_, fun bytes fields key hbody hloads hkey hextra => ?_, subject_notMem_fields app.printable endpoint₁⟩
  · intro token₁ token₂ htoken₁ htoken₂ hsame fields₁ hfields₁ fields₂ hfields₂
    obtain ⟨token, subject, context, htoken, hauth, rfl⟩ := caller_of_mem_kernelSubjects hfields₁
    obtain ⟨token', subject', context', htoken', hauth', rfl⟩ := caller_of_mem_kernelSubjects hfields₂
    cases htoken₁.symm.trans htoken
    cases htoken₂.symm.trans htoken'
    obtain ⟨v, hv, hidentity⟩ := verified hauth
    obtain ⟨v', hv', hidentity'⟩ := verified hauth'
    cases (hv.symm.trans hsame).trans hv'
    cases hidentity.symm.trans hidentity'
    rfl
  · intro fields hfields
    obtain ⟨token, subject, context, htoken, hauth, rfl⟩ := caller_of_mem_kernelSubjects hfields
    obtain ⟨v, hv, hidentity⟩ := verified hauth
    have hsubject := subjectOf_verification hv hidentity
    exact ⟨token, v, htoken, hv, hsubject.subjectId, hsubject.said⟩
  · exact SchemaApp.extra_refused hbody hloads hkey hextra

/-! ## A workload that presents one URI twice -/

theorem OperationAware.producerTrust_of_resolved {app : App} {req : Request} {subject : NormalizedSubject}
    {config : GatewayConfig} {trust : OperationProducerTrust} (hconfig : app.config = some config)
    (h : resolveOperationProducerTrust app.x509 req.headers subject config = .ok trust) :
    OperationAware.producerTrust app req subject = .ok trust := by
  simp only [OperationAware.producerTrust, hconfig, h]

/-- A certificate with the one URI `urn:a`, as a PEM block with this space and this line end. -/
def workloadBlock (space newline : Bytes) : Bytes :=
  asciiBytes "-----BEGIN" ++ space ++ asciiBytes "CERTIFICATE-----" ++ newline ++
  asciiBytes "MIHBMHWgAwIBAgIBATAFBgMrZXAwADAeFw0yNTAxMDEwMDAwMDBaFw0zNTAxMDEw" ++ newline ++
  asciiBytes "MDAwMDBaMAAwKjAFBgMrZXADIQAAAQIDBAUGBwgJCgsMDQ4PEBESExQVFhcYGRob" ++ newline ++
  asciiBytes "HB0eH6MUMBIwEAYDVR0RBAkwB4YFdXJuOmEwBQYDK2VwA0EAAAAAAAAAAAAAAAAA" ++ newline ++
  asciiBytes "AAAAAAAAAAAAAAAAAAAAAAAAAAAAAAAAAAAAAAAAAAAAAAAAAAAAAAAAAAAAAAAA" ++ newline ++
  asciiBytes "AAAAAA==" ++ newline ++
  asciiBytes "-----END" ++ space ++ asciiBytes "CERTIFICATE-----" ++ newline

def workloadPem : Bytes := workloadBlock (asciiBytes " ") (asciiBytes "\n")

/-- The block as an ingress escapes it. -/
def workloadAssertion : Bytes := workloadBlock (asciiBytes "%20") (asciiBytes "%0A")

/-- A library that loads this one certificate. -/
def workloadX509 : X509 where
  loadPem pem := if pem = workloadPem then .ok ⟨.ok ["urn:a"]⟩ else .error { cls := .valueError, msg := "" }

/-- A verified token whose `sub` is the workload's URI. -/
def workloadLibrary : TokenLibrary Unit Int :=
  { sampleLibrary.toTokenLibrary with
    jwt := { sampleJwt with
      getUnverifiedHeader := fun _ => .ok [("alg", .str "RS256")]
      decode := fun _ => .ok [("sub", .str "urn:a")] } }

def workloadVerifiers : TokenVerifiers Unit workloadLibrary.tables where
  oidc := some { issuer := "issuer", audience := none, cache := some { getSigningKeyFromJwt := fun _ => .ok () } }
  basisLocal := none

/-- The body `action: read:ahu`, as a JSON object. -/
def workloadBody : Bytes := asciiBytes "\x7b\"action\":\"read:ahu\"\x7d"

def loadsWorkload (bytes : Bytes) : Option Json :=
  if bytes = workloadBody then some (.obj [("action", .str "read:ahu")]) else none

/-- This body is `request`, and any other is invalid. -/
def parsesWorkload {α : Type} (request : α) (bytes : Bytes) : Except PyExc α :=
  if bytes = workloadBody then .ok request else .error { cls := .validationError, msg := "" }

theorem modelValidateJson_workload {α : Type} {model : ModelClass} (request : α)
    (hbefore : model.before (.obj [("action", .str "read:ahu")]) = .ok ()) (haction : "action" ∈ model.fields) :
    ModelValidateJson loadsWorkload model (parsesWorkload request) where
  before {bytes data exc} hloads hraised _ := by
    unfold loadsWorkload at hloads
    split at hloads
    next =>
      cases hloads
      cases hbefore.symm.trans hraised
    next => cases hloads
  extra {bytes fields key} _ hloads hkey hextra := by
    unfold loadsWorkload at hloads
    split at hloads
    next =>
      cases hloads
      cases List.mem_singleton.1 hkey
      exact absurd haction hextra
    next => cases hloads

/-- Trusted-proxy mTLS with the workload's URI admitted. -/
def workloadConfig : GatewayConfig :=
  { brittleConfig with
    operationProducerMtlsTrustedProxyEnabled := true
    operationProducerMtlsAdmittedUris := {"urn:a"} }

def workloadBodyRequest : OperationAwareEvaluateRequest where
  requestId := none
  action := "read:ahu"
  action_not_blank := readAhu_not_blank
  resourceType := none
  resourceId := none
  context := .empty
  context_empty := OrderedDict.entries_empty
  producerContext _ := none

/-- These settings, and an operation-aware kernel. -/
def workloadApp : SchemaApp where
  toApp :=
    { readAhuApp with
      x509 := workloadX509
      config := some workloadConfig
      operationAwareEvaluator := some
        { enforcementPoint := fun _ => .error { cls := .runtimeError, msg := "" } }
      parseEvaluateRequest := parsesWorkload
        { requestId := none, action := "read:ahu", action_not_blank := readAhu_not_blank, resourceType := none
          resourceId := none, context := .empty }
      parseOperationAwareEvaluateRequest := parsesWorkload workloadBodyRequest }
  loads := loadsWorkload
  evaluateSchema := modelValidateJson_workload _ rfl (by decide)
  operationAwareSchema := modelValidateJson_workload _ rfl (by decide)

def workloadRequest : Request :=
  { bearerRequest with
    path := "/v1/evaluate/operation-aware"
    headers := [(producerClientCertHeaderName, workloadAssertion)]
    body := .ok workloadBody }

def workload : NormalizedSubject :=
  { subjectId := "urn:a", name := "urn:a", roles := [], attributes := [] }

theorem workload_presents : Presents workloadX509 workloadRequest.headers ⟨.ok ["urn:a"]⟩ := by
  refine ⟨workloadAssertion, workloadPem, ?_, ?_, ?_, ?_, by simp only [workloadX509, if_true]⟩
  · rw [workloadRequest, certificateValues, List.filter_cons_of_pos (by simp [SameHeaderName])]
    rfl
  · decide +kernel
  · rw [decodeProducerCertificateAssertion, decodeLatin1, String.toList_ofList]
    decide +kernel
  · decide +kernel

/-- The certificate makes the workload a trusted producer, under its URI. -/
theorem workload_trust (subject : NormalizedSubject) :
    resolveMtlsOperationProducerTrust workloadX509 workloadRequest.headers subject {"urn:a"} =
      .ok (admittedTrust subject {"urn:a"} "urn:a") := by
  rw [resolveMtls_of_presents workload_presents]
  rfl

/-- The gateway, behind its verifier. -/
def workloadGateway : App := workloadApp.withVerifiers (workloadVerifiers.verifiers workloadLibrary)

def workloadContext : IdentityContext :=
  { issuer := "", subjectId := "urn:a", claims := [("sub", .str "urn:a")] }

/-- Its request goes through every gate, and its kernel is called. -/
theorem workload_through : ∃ a, OperationAware.Through workloadGateway workloadRequest a ∧ a.subject = workload ∧
    ∃ call, a.composed.kernelCall workloadGateway.models workloadGateway.printable workloadRequest.readings =
      .ok call := by
  have htoken : extractBearerToken workloadRequest.authorization = .ok "token" := by decide +kernel
  have hresolved : resolveOperationProducerTrust workloadGateway.x509 workloadRequest.headers workload
      workloadConfig = .ok (admittedTrust workload {"urn:a"} "urn:a") := by
    rw [resolve_of_mtls rfl]
    exact workload_trust workload
  obtain ⟨composed, hcomposed, call, hcall⟩ : ∃ composed, OperationAware.composition workloadGateway workloadRequest
      workloadBodyRequest workload workloadContext (admittedTrust workload {"urn:a"} "urn:a") = .ok composed ∧
      ∃ call, composed.kernelCall workloadGateway.models workloadGateway.printable workloadRequest.readings =
        .ok call := ⟨_, rfl, _, rfl⟩
  refine ⟨{ request := workloadBodyRequest, token := "token", subject := workload, composed
            identityContext := workloadContext, trust := admittedTrust workload {"urn:a"} "urn:a"
            evaluator := { enforcementPoint := fun _ => .error { cls := .runtimeError, msg := "" } } },
    ?_, rfl, call, hcall⟩
  exact {
    body := rfl
    bearer := bearerGate_of_extract htoken
    authentication := rfl
    producerTrust := OperationAware.producerTrust_of_resolved rfl hresolved
    composition := hcomposed
    evaluator := rfl }

/-- The trusted producer's certificate URI is the subject id of its kernel request: it is its `sub`. -/
theorem certificate_uri_is_subject :
    (resolveMtlsOperationProducerTrust workloadGateway.x509 workloadRequest.headers workload {"urn:a"}).map
        (fun trust => (trust.status, trust.producerWorkloadIdentity)) = .ok (.trusted, some "urn:a") ∧
    kernelSubjects (Endpoint.operationAware.serve workloadGateway workloadRequest id acceptingWorld).observed =
      [⟨"urn:a", [], []⟩] := by
  constructor
  · rw [show workloadGateway.x509 = workloadX509 from rfl, workload_trust]
    decide +kernel
  · obtain ⟨a, ha, hsubject, call, hcall⟩ := workload_through
    obtain ⟨w₁, hw₁⟩ : ∃ w₁, Endpoint.operationAware.begin workloadGateway workloadRequest acceptingWorld =
        (none, w₁) := ⟨_, Prod.ext (by decide +kernel) rfl⟩
    rw [Endpoint.kernelSubjects_of_begin hw₁]
    show (callsOf (OperationAware.script workloadGateway workloadRequest _).effects).filterMap _ = _
    rw [OperationAware.callsOf_of_through _ ha hcall]
    show [call.request.subjectFields] = [workload.subjectFields]
    rw [kernelCall_subjectFields hcall, ha.passed.composes.subject, hsubject]

end BasisGateway
