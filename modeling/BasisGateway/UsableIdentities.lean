/-
Whether a caller who authenticates can use both endpoints. The path of
`/v1/evaluate` converts the timestamps of the verified claims to datetimes,
and the operation-aware path does not. In `oidc` mode nothing before it asks
that they can be converted, so there the kernel of `/v1/evaluate` is reached
exactly when they can.
-/
import BasisGateway.CompositionGuards
import BasisGateway.DurableRecord
import BasisGateway.SubjectIdentity

namespace BasisGateway

open Script

/-! ## The timestamps -/

/-- Those of the two timestamps that are numbers are in the range of `fromtimestamp`. -/
def TimestampsConvert (models : CoreModels) (claims : Claims) : Prop :=
  ∀ key ∈ ["iat", "exp"], ∀ value, Json.get? key claims = some value → value.isNumber = true →
    ∃ time, models.fromTimestamp value = .ok time

/-- The models take every value of the fields they are given. -/
structure AcceptingModels (models : CoreModels) : Prop where
  subject : ∀ subject, models.subject subject = .ok ()
  identityContext : ∀ context, models.identityContext context = .ok ()
  decisionRequest : ∀ request, models.decisionRequest request = .ok ()
  operationAwareDecisionRequest : ∀ request, models.operationAwareDecisionRequest request = .ok ()

/-- `evaluate` builds its `Subject` and its `IdentityContext`. -/
def BuildsIdentity (models : CoreModels) (readings : Readings) (subject : NormalizedSubject) (token : String)
    (claims : Claims) : Prop :=
  ∃ built context, buildSubject models subject = .ok built ∧
    buildIdentityContext models (.utc readings.issuedNow) built token claims = .ok context

section

variable {models : CoreModels} {claims : Claims}

theorem timestampClaim_ok_iff {key : String} : (∃ time, timestampClaim models key claims = .ok time) ↔
    ∀ value, Json.get? key claims = some value → value.isNumber = true →
      ∃ time, models.fromTimestamp value = .ok time := by
  unfold timestampClaim
  cases hget : Json.get? key claims with
  | none => simp
  | some value =>
    by_cases hnumber : value.isNumber = true
    · cases hconverted : models.fromTimestamp value with
      | error exc => simp [hnumber, hconverted]
      | ok time => simp [hnumber, hconverted]
    · simp [hnumber]

theorem timestampsConvert_iff : TimestampsConvert models claims ↔
    (∃ issuedAt, timestampClaim models "iat" claims = .ok issuedAt) ∧
      ∃ expiresAt, timestampClaim models "exp" claims = .ok expiresAt := by
  simp only [TimestampsConvert, List.forall_mem_cons, List.not_mem_nil, false_imp_iff, implies_true, and_true,
    timestampClaim_ok_iff]

theorem constructing_accepted {α : Type} {validate : α → Except PyExc Unit} {a : α} (h : validate a = .ok ()) :
    constructing validate a = .ok a := by
  simp only [constructing, h]
  rfl

theorem buildIdentityContext_ok_iff (hmodels : AcceptingModels models) {now : DateTime} {subject : Subject}
    {token : String} : (∃ context, buildIdentityContext models now subject token claims = .ok context) ↔
      TimestampsConvert models claims := by
  have haccepts (context : CoreIdentityContext) :
      constructing models.identityContext context = .ok context :=
    constructing_accepted (hmodels.identityContext context)
  rw [timestampsConvert_iff]
  unfold buildIdentityContext
  cases timestampClaim models "iat" claims with
  | error exc => simp [bind, Except.bind]
  | ok issuedAt =>
    cases timestampClaim models "exp" claims with
    | error exc => simp [bind, Except.bind]
    | ok expiresAt => simp [bind, Except.bind, haccepts]

theorem buildsIdentity_iff (hmodels : AcceptingModels models) {readings : Readings} {subject : NormalizedSubject}
    {token : String} : BuildsIdentity models readings subject token claims ↔ TimestampsConvert models claims := by
  constructor
  · intro h
    obtain ⟨built, context, -, hcontext⟩ := h
    exact (buildIdentityContext_ok_iff hmodels).1 ⟨context, hcontext⟩
  · intro h
    have hbuilt := constructing_accepted (hmodels.subject
      { id := subject.subjectId, name := subject.name, roles := subject.roles
        attrs := stringAttributes subject.attributes })
    obtain ⟨context, hcontext⟩ := (buildIdentityContext_ok_iff hmodels).2 h
    exact ⟨_, context, hbuilt, hcontext⟩

/-- With its models accepting, the call of the kernel is built when the timestamps convert. -/
theorem kernelCall_ok_iff (hmodels : AcceptingModels models) {readings : Readings} {input : EvaluationInput} :
    (∃ call, input.kernelCall models readings = .ok call) ↔ TimestampsConvert models input.claims := by
  have hbuilds : BuildsIdentity models readings input.normalizedSubject input.rawToken input.claims ↔ _ :=
    buildsIdentity_iff hmodels
  rw [← hbuilds]
  have haccepts (request : DecisionRequest) : constructing models.decisionRequest request = .ok request :=
    constructing_accepted (hmodels.decisionRequest request)
  unfold EvaluationInput.kernelCall BuildsIdentity
  cases buildSubject models input.normalizedSubject with
  | error exc => simp [bind, Except.bind]
  | ok built =>
    cases hcontext : buildIdentityContext models (.utc readings.issuedNow) built input.rawToken input.claims with
    | error exc => simp [bind, Except.bind, hcontext]
    | ok context => simp [bind, Except.bind, pure, Except.pure, hcontext, haccepts]

end

/-! ## What invokes a kernel -/

/-- The kernel was invoked. -/
def Served.Invoked (served : Served) : Prop := kernelCalls served.observed ≠ []

/-- The caller of a request, with the token that authenticated. -/
def CallerWith (app : App) (req : Request) (token : String) (subject : NormalizedSubject)
    (identityContext : IdentityContext) : Prop :=
  extractBearerToken req.authorization = .ok token ∧
    app.authenticate app.authMode token = .ok (subject, identityContext)

/-- The action and the resource id of the operation can be composed. -/
def Operation.Composable (printable : Char → Bool) (op : Operation) : Prop :=
  ∃ action resource, composeAction printable op.action op.resourceType = .ok action ∧
    composeResourceId printable op.resourceType op.resourceId = .ok resource

/-- The kernel is invoked by a request that goes past the strict-mode check, and whose script calls it. -/
theorem Endpoint.invoked_iff {endpoint : Endpoint} {app : App} {req : Request} {between : World → World}
    {w : World} : (endpoint.serve app req between w).Invoked ↔
      (endpoint.begin app req w).1 = none ∧
      ∃ call, call.isOf endpoint ∧ call ∈ callsOf
        (endpoint.script app req (between (endpoint.begin app req w).2).writer.isSome).effects := by
  rcases hb : endpoint.begin app req w with ⟨- | answer, w₁⟩
  · rw [Served.Invoked, kernelCalls_of_begin hb]
    constructor
    · intro h
      obtain ⟨call, hmem⟩ := List.exists_mem_of_ne_nil _ h
      obtain ⟨hcall, hkernel⟩ := List.mem_filter.1 hmem
      exact ⟨rfl, call, isOf_of_mem hcall hkernel, hcall⟩
    · intro h
      obtain ⟨-, call, hof, hcall⟩ := h
      exact List.ne_nil_of_mem (List.mem_filter.2 ⟨hcall, Call.isKernel_of_isOf hof⟩)
  · have hcalls := endpoint.calls_begin app req w
    rw [hb] at hcalls
    simp [Served.Invoked, Endpoint.serve, hb, kernelCalls, hcalls]

/-- An app with both evaluators, whose models accept, and where producers need no certificate. -/
structure ServesBoth (app : App) : Prop where
  evaluator : app.evaluator.isSome = true
  operationAwareEvaluator : app.operationAwareEvaluator.isSome = true
  mtlsOff : ∀ config, app.config = some config → config.operationProducerMtlsTrustedProxyEnabled = false
  models : AcceptingModels app.models

namespace Evaluate

variable {app : App} {req : Request} {op : Operation} {requestId : Option String} {between : World → World}
  {w : World}

theorem compose_plain_iff :
    (∃ composed, compose app req (op.plain requestId) = .ok composed) ↔ op.Composable app.printable := by
  constructor
  · intro h
    obtain ⟨composed, hcomposed⟩ := h
    obtain ⟨-, resource, ha, hr, -, -⟩ := compose_result hcomposed
    exact ⟨composed.action, resource, ha, hr⟩
  · intro h
    obtain ⟨action, resource, ha, hr⟩ := h
    exact ⟨_, compose_of_ok reservedKeyCollisions_empty ha hr⟩

/-- The body asks for the operation. -/
def AsksFor (app : App) (req : Request) (op : Operation) : Prop :=
  ∃ bytes requestId, req.body = .ok bytes ∧ app.parseEvaluateRequest bytes = .ok (op.plain requestId)

/-- The kernel of `/v1/evaluate` is invoked for a composable operation of a caller whose timestamps
convert. -/
theorem invoked_iff (happ : ServesBoth app) (hbody : AsksFor app req op) :
    (Endpoint.evaluate.serve app req between w).Invoked ↔
      (Endpoint.evaluate.begin app req w).1 = none ∧ op.Composable app.printable ∧
      ∃ token subject identityContext, CallerWith app req token subject identityContext ∧
        TimestampsConvert app.models identityContext.claims := by
  obtain ⟨bytes, requestId, hbytes, hparse⟩ := hbody
  rw [Endpoint.invoked_iff]
  constructor
  · intro h
    obtain ⟨hbegun, call, hof, hcall⟩ := h
    cases call with
    | kernel call =>
      obtain ⟨a, ha, hk⟩ := through_of_kernel hcall
      have hrequest : a.request = op.plain requestId :=
        Except.ok.inj (ha.body.symm.trans (bodyGate_of_parse hbytes hparse))
      have hcompose := ha.compose
      rw [hrequest] at hcompose
      exact ⟨hbegun, compose_plain_iff.1 ⟨a.composed, hcompose⟩, a.token, a.subject, a.identityContext,
        ⟨bearerGate_ok ha.bearer, authenticationGate_ok ha.authentication⟩,
        (kernelCall_ok_iff happ.models).1 ⟨call, hk⟩⟩
    | _ => exact hof.elim
  · intro h
    obtain ⟨hbegun, hcomposable, token, subject, identityContext, ⟨htoken, hcaller⟩, htimes⟩ := h
    obtain ⟨composed, hcompose⟩ : ∃ composed, compose app req (op.plain requestId) = .ok composed :=
      compose_plain_iff.2 hcomposable
    obtain ⟨evaluator, hevaluator⟩ := Option.isSome_iff_exists.1 happ.evaluator
    let a : Admitted :=
      { request := op.plain requestId, composed, token, subject, identityContext, evaluator }
    have ha : Through app req a :=
      { body := bodyGate_of_parse hbytes hparse
        compose := hcompose
        bearer := bearerGate_of_extract htoken
        authentication := authenticationGate_of_caller hcaller
        evaluator := by simp only [presentEvaluator, hevaluator, a] }
    obtain ⟨call, hk⟩ : ∃ call, (a.input req).kernelCall app.models req.readings = .ok call :=
      (kernelCall_ok_iff happ.models).2 htimes
    refine ⟨hbegun, .kernel call, trivial, ?_⟩
    show Call.kernel call ∈ callsOf (script app req).effects
    rw [callsOf_of_through ha hk]
    simp

end Evaluate

namespace OperationAware

variable {app : App} {req : Request} {op : Operation} {requestId : Option String} {between : World → World}
  {w : World} {subject : NormalizedSubject} {identityContext : IdentityContext} {trust : OperationProducerTrust}

/-- The body asks for the operation, with no context and nothing only a producer may assert. -/
def AsksFor (app : App) (req : Request) (op : Operation) : Prop :=
  ∃ bytes requestId, req.body = .ok bytes ∧
    app.parseOperationAwareEvaluateRequest bytes = .ok (op.aware requestId)

/-- Without producer certificates every caller is classified, consistently. -/
theorem producerTrust_of_mtlsOff (happ : ServesBoth app) (hid : identityContext.subjectId = subject.subjectId) :
    ∃ trust, producerTrust app req subject = .ok trust ∧
      checkIdentityConsistency app.printable subject identityContext trust = .ok () := by
  cases hconfig : app.config with
  | none =>
    refine ⟨classifyOperationProducer subject ∅, ?_, checkIdentityConsistency_classify app.printable hid ∅⟩
    simp only [producerTrust, hconfig]
  | some config =>
    refine ⟨classifyOperationProducer subject config.operationProducerSubjectIds, ?_,
      checkIdentityConsistency_classify app.printable hid _⟩
    simp only [producerTrust, hconfig, resolve_of_allowlist (happ.mtlsOff config hconfig)]

theorem composition_aware_iff
    (hid : checkIdentityConsistency app.printable subject identityContext trust = .ok ()) :
    (∃ composed, composition app req (op.aware requestId) subject identityContext trust = .ok composed) ↔
      op.Composable app.printable := by
  constructor
  · intro h
    obtain ⟨composed, hcomposed⟩ := h
    obtain ⟨-, -, -, action, resource, ha, hr, -⟩ :=
      composeOperationAwareInput_ok (composed_of_composition hcomposed)
    exact ⟨action, resource, ha, hr⟩
  · intro h
    obtain ⟨action, resource, ha, hr⟩ := h
    have hcompose := op.compose_aware requestId req hid
    rw [ha, hr] at hcompose
    rw [composition, hcompose]
    exact ⟨_, rfl⟩

theorem kernelCall_of_composed (hmodels : AcceptingModels app.models) {request : OperationAwareEvaluateRequest}
    {composed : ComposedOperationAwareInput}
    (h : composition app req request subject identityContext trust = .ok composed) :
    ∃ call, composed.kernelCall app.models app.printable req.readings = .ok call := by
  have hbuilt : buildOperationAwareDecisionRequest app.models app.printable composed =
      .ok (decisionRequestOf composed) :=
    (buildDecisionRequest_iff app.models (composed_of_composition h)).2
      ⟨hmodels.operationAwareDecisionRequest _, rfl⟩
  unfold ComposedOperationAwareInput.kernelCall
  rw [hbuilt]
  exact ⟨_, rfl⟩

/-- The operation-aware kernel is invoked for a composable operation of any caller. -/
theorem invoked_iff (happ : ServesBoth app) {verifiers : Verifiers}
    (hauthenticate : app.authenticate = BasisGateway.authenticate verifiers) (hbody : AsksFor app req op) :
    (Endpoint.operationAware.serve app req between w).Invoked ↔
      (Endpoint.operationAware.begin app req w).1 = none ∧ op.Composable app.printable ∧
      ∃ token subject identityContext, CallerWith app req token subject identityContext := by
  obtain ⟨bytes, requestId, hbytes, hparse⟩ := hbody
  have hconsistent {token : String} {subject : NormalizedSubject} {identityContext : IdentityContext}
      (hcaller : app.authenticate app.authMode token = .ok (subject, identityContext)) :
      ∃ trust, producerTrust app req subject = .ok trust ∧
        checkIdentityConsistency app.printable subject identityContext trust = .ok () :=
    producerTrust_of_mtlsOff happ (authenticate_subjectId (hauthenticate ▸ hcaller))
  rw [Endpoint.invoked_iff]
  constructor
  · intro h
    obtain ⟨hbegun, call, hof, hcall⟩ := h
    cases call with
    | operationAwareKernel call =>
      obtain ⟨a, ha, -, -⟩ := through_of_kernel hcall
      have hcaller := authenticationGate_ok ha.authentication
      have hrequest : a.request = op.aware requestId :=
        Except.ok.inj (ha.body.symm.trans (bodyGate_of_parse hbytes hparse))
      obtain ⟨trust, htrust, hid⟩ := hconsistent hcaller
      have hcomposition := ha.composition
      have hsameTrust : a.trust = trust := Except.ok.inj (ha.producerTrust.symm.trans htrust)
      rw [hrequest, hsameTrust] at hcomposition
      exact ⟨hbegun, (composition_aware_iff hid).1 ⟨a.composed, hcomposition⟩, a.token, a.subject,
        a.identityContext, bearerGate_ok ha.bearer, hcaller⟩
    | _ => exact hof.elim
  · intro h
    obtain ⟨hbegun, hcomposable, token, subject, identityContext, htoken, hcaller⟩ := h
    obtain ⟨trust, htrust, hid⟩ := hconsistent hcaller
    obtain ⟨composed, hcomposition⟩ :
        ∃ composed, composition app req (op.aware requestId) subject identityContext trust = .ok composed :=
      (composition_aware_iff hid).2 hcomposable
    obtain ⟨evaluator, hevaluator⟩ := Option.isSome_iff_exists.1 happ.operationAwareEvaluator
    let a : Admitted :=
      { request := op.aware requestId, token, subject, identityContext, trust, composed, evaluator }
    have ha : Through app req a :=
      { body := bodyGate_of_parse hbytes hparse
        bearer := bearerGate_of_extract htoken
        authentication := authenticationGate_of_caller hcaller
        producerTrust := htrust
        composition := hcomposition
        evaluator := by simp only [presentEvaluator, hevaluator, a] }
    obtain ⟨call, hk⟩ : ∃ call, composed.kernelCall app.models app.printable req.readings = .ok call :=
      kernelCall_of_composed happ.models hcomposition
    refine ⟨hbegun, .operationAwareKernel call, trivial, ?_⟩
    show Call.operationAwareKernel call ∈ callsOf (script app req _).effects
    rw [callsOf_of_through _ ha hk]
    simp

end OperationAware

/-! ## The verified claims -/

section

variable {JWK : Type} {lib : TokenLibrary JWK DateTime} {config : TokenVerifiers JWK lib.tables} {token : String}
  {claims : Claims} {subject : NormalizedSubject} {identityContext : IdentityContext}

/-- The token is verified in `oidc` mode, and its claims name a subject. -/
def OidcClaims (lib : TokenLibrary JWK DateTime) (config : TokenVerifiers JWK lib.tables) (token : String)
    (claims : Claims) : Prop :=
  ∃ verifier, config.oidc = some verifier ∧
    verifier.verify lib.jwt lib.tables.printable token = .ok claims ∧
    ∃ identity, mapClaims claims = .ok identity

theorem mapClaims_claims (h : mapClaims claims = .ok (subject, identityContext)) :
    identityContext.claims = claims := by
  unfold mapClaims at h
  split at h
  next =>
    split at h
    next => cases h
    next => cases h; rfl
  next => cases h

theorem authenticate_oidc_iff :
    (∃ subject identityContext, authenticate (config.verifiers lib) .oidc token = .ok (subject, identityContext) ∧
      identityContext.claims = claims) ↔ OidcClaims lib config token claims := by
  unfold OidcClaims
  cases hoidc : config.oidc with
  | none => simp [authenticate, TokenVerifiers.verifiers, hoidc]
  | some verifier =>
    simp only [authenticate, TokenVerifiers.verifiers, hoidc, Option.map_some, Option.some.injEq,
      Except.bind_eq_ok, exists_eq_left']
    constructor
    · intro h
      obtain ⟨subject, identityContext, ⟨claims', hverified, hmapped⟩, hclaims⟩ := h
      have hsame : claims' = claims := (mapClaims_claims hmapped).symm.trans hclaims
      rw [hsame] at hverified hmapped
      exact ⟨hverified, (subject, identityContext), hmapped⟩
    · intro h
      obtain ⟨hverified, ⟨subject, identityContext⟩, hmapped⟩ := h
      exact ⟨subject, identityContext, ⟨claims, hverified, hmapped⟩, mapClaims_claims hmapped⟩

/-- A BASIS-local token is verified only if its timestamps convert. -/
theorem timestampsConvert_of_basisLocal {models : CoreModels} (hlib : lib.fromTimestamp = models.fromTimestamp)
    (h : authenticate (config.verifiers lib) .basisLocalToken token = .ok (subject, identityContext)) :
    TimestampsConvert models identityContext.claims := by
  cases hlocal : config.basisLocal with
  | none => simp [authenticate, TokenVerifiers.verifiers, hlocal] at h
  | some trust =>
    simp only [authenticate, TokenVerifiers.verifiers, hlocal, Option.map_some, Except.bind_eq_ok,
      Except.map_eq_ok, Except.pure_eq_ok] at h
    obtain ⟨result, ⟨verified, hverified, hresult⟩, hidentity⟩ := h
    obtain ⟨payload, htrusted, hcarries⟩ :=
      BasisLocalToken.verifyBasisLocalIdentityToken_eq_ok.1 hverified
    have hclaims : identityContext.claims = payload := by
      rw [← hcarries.claims, ← congrArg (fun identity => identity.2.claims) hidentity, ← hresult]
      rfl
    rw [hclaims]
    intro key hkey value hget _
    have hconverts : ∃ time, BasisLocalToken.TimeAt lib payload key time := by
      simp only [List.mem_cons, List.not_mem_nil, or_false] at hkey
      rcases hkey with rfl | rfl
      · exact htrusted.issuedAt
      · exact htrusted.expiresAt
    obtain ⟨time, value', hget', -, htime⟩ := hconverts
    have hsame : value' = value := Option.some.inj (hget'.symm.trans hget)
    rw [hlib, hsame] at htime
    exact ⟨time, htime⟩

end

/-! ## Both endpoints -/

/-- The caller of the request is as usable on the one endpoint as on the other, and the identity that
`evaluate` is to build of the caller's verified claims is built. -/
structure UsableOnBoth (app : App) (req : Request) (served served' : Served) : Prop where
  agree : served.Invoked ↔ served'.Invoked
  builds : ∀ token subject identityContext, CallerWith app req token subject identityContext →
    BuildsIdentity app.models req.readings subject token identityContext.claims

/-- Two requests of one caller, one for each endpoint, that ask for one operation; the strict-mode check
suspends both or neither. -/
structure AskedOfBoth (app : App) (op : Operation) (req req' : Request) (w w' : World) : Prop where
  plain : Evaluate.AsksFor app req op
  aware : OperationAware.AsksFor app req' op
  authorization : req'.authorization = req.authorization
  begun : (Endpoint.evaluate.begin app req w).1 = none ↔ (Endpoint.operationAware.begin app req' w').1 = none

theorem usableOnBoth_iff_convert {app : App} {verifiers : Verifiers} {op : Operation} {req req' : Request}
    {between between' : World → World} {w w' : World} (happ : ServesBoth app)
    (hauthenticate : app.authenticate = authenticate verifiers) (hasked : AskedOfBoth app op req req' w w') :
    UsableOnBoth app req (Endpoint.evaluate.serve app req between w)
        (Endpoint.operationAware.serve app req' between' w') ↔
      ∀ token subject identityContext, CallerWith app req token subject identityContext →
        TimestampsConvert app.models identityContext.claims := by
  have hcaller {token : String} {subject : NormalizedSubject} {identityContext : IdentityContext} :
      CallerWith app req' token subject identityContext ↔ CallerWith app req token subject identityContext := by
    rw [CallerWith, CallerWith, hasked.authorization]
  constructor
  · intro h token subject identityContext hcall
    exact (buildsIdentity_iff happ.models).1 (h.builds token subject identityContext hcall)
  · intro h
    refine ⟨?_, fun token subject identityContext hcall =>
      (buildsIdentity_iff happ.models).2 (h token subject identityContext hcall)⟩
    rw [Evaluate.invoked_iff happ hasked.plain, OperationAware.invoked_iff happ hauthenticate hasked.aware,
      hasked.begun]
    simp only [hcaller]
    constructor
    · intro hinvoked
      obtain ⟨hbegun, hcomposable, token, subject, identityContext, hcall, -⟩ := hinvoked
      exact ⟨hbegun, hcomposable, token, subject, identityContext, hcall⟩
    · intro hinvoked
      obtain ⟨hbegun, hcomposable, token, subject, identityContext, hcall⟩ := hinvoked
      exact ⟨hbegun, hcomposable, token, subject, identityContext, hcall, h token subject identityContext hcall⟩

/-- **Which identities are usable on both endpoints.** For either mode, any verified claims and any
operation, with both evaluators present, no producer certificates and accepting models: all of them, but
in `oidc` mode those whose `iat` or `exp` is a number out of the range of `fromtimestamp`. -/
theorem usable_on_both_iff {JWK : Type} (lib : TokenLibrary JWK DateTime)
    (config : TokenVerifiers JWK lib.tables) (app : App) (op : Operation) (req req' : Request)
    (between between' : World → World) (w w' : World) (happ : ServesBoth app)
    (hlib : lib.fromTimestamp = app.models.fromTimestamp)
    (hasked : AskedOfBoth (app.withVerifiers (config.verifiers lib)) op req req' w w') :
    let gateway := app.withVerifiers (config.verifiers lib)
    UsableOnBoth gateway req (Endpoint.evaluate.serve gateway req between w)
        (Endpoint.operationAware.serve gateway req' between' w') ↔
      (app.authMode = .oidc → ∀ token claims, extractBearerToken req.authorization = .ok token →
        OidcClaims lib config token claims → TimestampsConvert app.models claims) := by
  intro gateway
  have hserves : ServesBoth gateway := ⟨happ.evaluator, happ.operationAwareEvaluator, happ.mtlsOff, happ.models⟩
  rw [usableOnBoth_iff_convert hserves rfl hasked]
  have hcaller {token : String} {subject : NormalizedSubject} {identityContext : IdentityContext} :
      CallerWith gateway req token subject identityContext ↔
        extractBearerToken req.authorization = .ok token ∧
          authenticate (config.verifiers lib) app.authMode token = .ok (subject, identityContext) := Iff.rfl
  simp only [hcaller]
  cases hmode : app.authMode with
  | oidc =>
    constructor
    · intro h _ token claims htoken hclaims
      obtain ⟨subject, identityContext, hauthenticated, hsame⟩ := authenticate_oidc_iff.2 hclaims
      have hconvert := h token subject identityContext ⟨htoken, hauthenticated⟩
      rwa [hsame] at hconvert
    · intro h token subject identityContext hcall
      exact h rfl token identityContext.claims hcall.1
        (authenticate_oidc_iff.1 ⟨subject, identityContext, hcall.2, rfl⟩)
  | basisLocalToken =>
    constructor
    · intro _ hoidc
      cases hoidc
    · intro _ token subject identityContext hcall
      exact timestampsConvert_of_basisLocal hlib hcall.2

/-! ### An expiry out of range -/

/-- A compact token with this payload segment, and a header that names an RS256 key. -/
def rs256Token (payload : String) : String := "eyJhbGciOiJSUzI1NiIsImtpZCI6ImtleS0xIn0." ++ payload ++ ".c2ln"

/-- Its `exp` is `10 ^ 20`. -/
def unboundedExpiryToken : String :=
  rs256Token "eyJpc3MiOiJpc3N1ZXIiLCJzdWIiOiJvcGVyYXRvciIsImV4cCI6MTAwMDAwMDAwMDAwMDAwMDAwMDAwfQ"

/-- Its `exp` is in the year 2100. -/
def boundedExpiryToken : String :=
  rs256Token "eyJpc3MiOiJpc3N1ZXIiLCJzdWIiOiJvcGVyYXRvciIsImV4cCI6NDEwMjQ0NDgwMH0"

/-- The claims of either. -/
def expiringClaims (token : String) : Claims :=
  [("iss", .str "issuer"), ("sub", .str "operator"),
    ("exp", .int (if token = unboundedExpiryToken then 100000000000000000000 else 4102444800))]

/-- PyJWT on these two tokens, both signed; any other has not enough segments. -/
def expiringJwt : PyJWT Unit where
  getUnverifiedHeader token :=
    if token = unboundedExpiryToken ∨ token = boundedExpiryToken then
      .ok [("alg", .str "RS256"), ("kid", .str "key-1")]
    else .error { cls := .decodeError, msg := "Not enough segments" }
  decode call :=
    if call.token = unboundedExpiryToken ∨ call.token = boundedExpiryToken then .ok (expiringClaims call.token)
    else .error { cls := .decodeError, msg := "Not enough segments" }
  claim _ := ""

/-- `datetime.fromtimestamp` of an integer. -/
def datetimeOfInt (value : Json) : Except PyExc DateTime :=
  (timestampOfInt value).map fun seconds => .utc (seconds * 1000000)

def expiringLibrary : TokenLibrary Unit DateTime where
  jwt := expiringJwt
  tables := sampleLibrary.tables
  fromTimestamp := datetimeOfInt

/-- Only `oidc` is configured. -/
def expiringVerifiers : TokenVerifiers Unit expiringLibrary.tables where
  oidc := some { issuer := "issuer", audience := none, cache := some { getSigningKeyFromJwt := fun _ => .ok () } }
  basisLocal := none

/-- Both evaluators, over models that take everything. -/
def bothApp : App :=
  { completingApp none with models := { permissiveApp.models with fromTimestamp := datetimeOfInt } }

def readAhu : Operation where
  action := "read:ahu"
  action_not_blank := readAhu_not_blank
  resourceType := none
  resourceId := none

/-- A request with this token. -/
def tokenRequest (token : String) : Request := { bearerRequest with authorization := some ("Bearer " ++ token) }

theorem servesBoth_bothApp : ServesBoth bothApp where
  evaluator := rfl
  operationAwareEvaluator := rfl
  mtlsOff config h := by
    cases h
    rfl
  models := ⟨fun _ => rfl, fun _ => rfl, fun _ => rfl, fun _ => rfl⟩

theorem askedOfBoth_readAhu (token : String) :
    AskedOfBoth (bothApp.withVerifiers (expiringVerifiers.verifiers expiringLibrary)) readAhu (tokenRequest token)
      (tokenRequest token) acceptingWorld acceptingWorld where
  plain := ⟨[], none, rfl, rfl⟩
  aware := ⟨[], none, rfl, rfl⟩
  authorization := rfl
  begun := by
    rw [Endpoint.begin_eq, Endpoint.begin_eq]
    exact Iff.rfl

/-- The claims of a token that is verified are its own. -/
theorem expiringClaims_of_oidcClaims {token : String} {claims : Claims}
    (h : OidcClaims expiringLibrary expiringVerifiers token claims) : claims = expiringClaims token := by
  obtain ⟨verifier, hverifier, hverified, -⟩ := h
  have hcache : verifier.cache = some { getSigningKeyFromJwt := fun _ => .ok () } := by
    rw [← Option.some.inj hverifier]
  simp only [OIDCVerifier.verify, hcache, Except.bind_eq_ok, Except.mapError_eq_ok] at hverified
  obtain ⟨_, _, _, _, _, _, hdecoded⟩ := hverified
  simp only [expiringLibrary, expiringJwt, OIDCVerifier.decodeCall] at hdecoded
  split at hdecoded
  next => exact (Except.ok.inj hdecoded).symm
  next => cases hdecoded

theorem oidcClaims_expiring {token : String} (h : token = unboundedExpiryToken ∨ token = boundedExpiryToken) :
    OidcClaims expiringLibrary expiringVerifiers token (expiringClaims token) := by
  refine ⟨_, rfl, ?_, ?_⟩
  · have hheader : expiringJwt.getUnverifiedHeader token = .ok [("alg", .str "RS256"), ("kid", .str "key-1")] := by
      simp only [expiringJwt, h, if_true]
    have hdecode (call : DecodeCall Unit) (hcall : call.token = token) :
        expiringJwt.decode call = .ok (expiringClaims token) := by
      simp only [expiringJwt, hcall, h, if_true]
    simp only [OIDCVerifier.verify, Except.bind_eq_ok, Except.mapError_eq_ok]
    exact ⟨_, hheader, (), by decide +kernel, (), rfl, hdecode _ rfl⟩
  · exact ⟨_, rfl⟩

theorem bearer_bounded :
    extractBearerToken (tokenRequest boundedExpiryToken).authorization = .ok boundedExpiryToken := by
  decide +kernel

/-- An expiry in the year 2100 converts. -/
theorem timestampsConvert_bounded : TimestampsConvert bothApp.models (expiringClaims boundedExpiryToken) := by
  have hdiffer : boundedExpiryToken ≠ unboundedExpiryToken := by decide +kernel
  rw [timestampsConvert_iff]
  simp only [expiringClaims, hdiffer, if_false]
  exact ⟨⟨none, rfl⟩, ⟨some _, rfl⟩⟩

/-- One of `10 ^ 20` does not. -/
theorem not_timestampsConvert_unbounded :
    ¬ TimestampsConvert bothApp.models (expiringClaims unboundedExpiryToken) := by
  intro h
  obtain ⟨time, htime⟩ := h "exp" (by decide) (.int 100000000000000000000) (by
    simp only [expiringClaims, if_true]
    rfl) rfl
  cases htime

/-- The theorem at a token that expires in the year 2100. -/
theorem usable_on_both_iff_bounded :
    let gateway := bothApp.withVerifiers (expiringVerifiers.verifiers expiringLibrary)
    UsableOnBoth gateway (tokenRequest boundedExpiryToken)
      (Endpoint.evaluate.serve gateway (tokenRequest boundedExpiryToken) id acceptingWorld)
      (Endpoint.operationAware.serve gateway (tokenRequest boundedExpiryToken) id acceptingWorld) := by
  refine (usable_on_both_iff expiringLibrary expiringVerifiers bothApp readAhu _ _ id id _ _ servesBoth_bothApp rfl
    (askedOfBoth_readAhu boundedExpiryToken)).2 ?_
  intro _ token claims htoken hclaims
  have hsame : boundedExpiryToken = token := Except.ok.inj (bearer_bounded.symm.trans htoken)
  rw [expiringClaims_of_oidcClaims hclaims, ← hsame]
  exact timestampsConvert_bounded

theorem not_usableOnBoth {app : App} {req : Request} {served served' : Served}
    (hnone : (kernelCalls served.observed).length = 0) (hone : (kernelCalls served'.observed).length = 1) :
    ¬ UsableOnBoth app req served served' := by
  intro h
  have hinvoked' : served'.Invoked := by
    intro hempty
    rw [hempty] at hone
    cases hone
  exact h.agree.2 hinvoked' (List.eq_nil_of_length_eq_zero hnone)

/-- What the two endpoints do with the token whose `exp` is `10 ^ 20`. -/
theorem served_unbounded :
    let gateway := bothApp.withVerifiers (expiringVerifiers.verifiers expiringLibrary)
    let req := tokenRequest unboundedExpiryToken
    let served := Endpoint.evaluate.serve gateway req id acceptingWorld
    let served' := Endpoint.operationAware.serve gateway req id acceptingWorld
    extractBearerToken req.authorization = .ok unboundedExpiryToken ∧
    served.answer.map (·.statusCode) = .ok 500 ∧ (kernelCalls served.observed).length = 0 ∧
    served'.answer.map (·.statusCode) = .ok 200 ∧ (kernelCalls served'.observed).length = 1 := by
  decide +kernel

/-- A verified token whose `exp` is `10 ^ 20`: `/v1/evaluate` answers 500 without its kernel, and the
operation-aware endpoint calls its own. -/
theorem unbounded_expiry_unusable :
    let gateway := bothApp.withVerifiers (expiringVerifiers.verifiers expiringLibrary)
    let req := tokenRequest unboundedExpiryToken
    let served := Endpoint.evaluate.serve gateway req id acceptingWorld
    let served' := Endpoint.operationAware.serve gateway req id acceptingWorld
    extractBearerToken req.authorization = .ok unboundedExpiryToken ∧
    OidcClaims expiringLibrary expiringVerifiers unboundedExpiryToken (expiringClaims unboundedExpiryToken) ∧
    ¬ TimestampsConvert bothApp.models (expiringClaims unboundedExpiryToken) ∧
    served.answer.map (·.statusCode) = .ok 500 ∧ (kernelCalls served.observed).length = 0 ∧
    served'.answer.map (·.statusCode) = .ok 200 ∧ (kernelCalls served'.observed).length = 1 ∧
    ¬ UsableOnBoth gateway req served served' := by
  obtain ⟨htoken, hfailed, hnone, hanswered, hone⟩ := served_unbounded
  exact ⟨htoken, oidcClaims_expiring (.inl rfl), not_timestampsConvert_unbounded, hfailed, hnone, hanswered, hone,
    not_usableOnBoth hnone hone⟩

end BasisGateway
