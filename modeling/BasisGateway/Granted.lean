/-
What a granted request rests on. An answer of status 200 goes back, step by
step, to the deployment: to a token that the trust anchors of its settings
vouch for, to the one kernel call that the request and the token's claims
make, and to the policy file or the bundle of the settings, which allows
that call.
-/
import BasisGateway.Deployment
import BasisGateway.Lib.Serial
import BasisGateway.SubjectIdentity

namespace BasisGateway

open Script Tasks

variable {JWK DateTime Bundle : Type}

/-! ## OIDC verification -/

/-- The call has `token` verified under `key` by an RSA or ECDSA signature, with its expiry and issuer, and with
the audience where one is configured. -/
structure OIDCVerifier.AsksVerification (verifier : OIDCVerifier JWK) (token : String) (key : JWK)
    (call : DecodeCall JWK) : Prop where
  token : call.token = token
  key : call.key = .jwk key
  algorithms : call.algorithms = ["RS256", "RS384", "RS512", "ES256", "ES384", "ES512"]
  audience : (∃ audience, audience ≠ "" ∧ verifier.audience = some audience ∧ call.audience = .one audience) ∨
    (verifier.audience.getD "" = "" ∧ call.audience = .none)
  issuer : call.issuer = verifier.issuer
  leeway : call.leeway = 0
  options : call.options = [("verify_exp", .bool true), ("verify_iss", .bool true)]

/-- A token that the verifier accepts: its header names an allowed algorithm, the keys have one for it, and
PyJWT takes it under that key. -/
structure OIDCVerifier.Accepts (jwt : PyJWT JWK) (verifier : OIDCVerifier JWK) (token : String) (claims : Claims) :
    Prop where
  header : ∃ header alg, jwt.getUnverifiedHeader token = .ok header ∧ Json.get? "alg" header = some (.str alg) ∧
    alg ∈ ["RS256", "RS384", "RS512", "ES256", "ES384", "ES512"]
  signed : ∃ client key call, verifier.cache = some client ∧ client.getSigningKeyFromJwt token = .ok key ∧
    verifier.AsksVerification token key call ∧ jwt.decode call = .ok claims

/-- The call that is made is the one that asks for the verification. -/
theorem OIDCVerifier.asksVerification_iff {verifier : OIDCVerifier JWK} {token : String} {key : JWK}
    {call : DecodeCall JWK} : verifier.AsksVerification token key call ↔ verifier.decodeCall token key = call := by
  obtain ⟨issuer, audience, cache⟩ := verifier
  constructor
  · intro h
    obtain ⟨callToken, callKey, algorithms, callAudience, callIssuer, leeway, options⟩ := call
    obtain ⟨rfl, rfl, rfl, haudience, rfl, rfl, rfl⟩ := h
    rcases haudience with ⟨name, hne, rfl, rfl⟩ | ⟨hnone, rfl⟩
    · simp [decodeCall, allowedAlgorithms, hne]
    · cases audience with
      | none => rfl
      | some name =>
        obtain rfl : name = "" := hnone
        rfl
  · rintro rfl
    refine ⟨rfl, rfl, rfl, ?_, rfl, rfl, rfl⟩
    cases audience with
    | none => exact .inr ⟨rfl, rfl⟩
    | some name =>
      by_cases hname : name = ""
      · subst hname
        exact .inr ⟨rfl, rfl⟩
      · exact .inl ⟨name, hname, rfl, by simp [decodeCall, hname]⟩

theorem OIDCVerifier.requireAllowedAlgorithm_eq_ok {printable : Char → Bool} {header : Claims} {u : Unit} :
    OIDCVerifier.requireAllowedAlgorithm printable header = .ok u ↔ ∃ alg,
      Json.get? "alg" header = some (.str alg) ∧ alg ∈ ["RS256", "RS384", "RS512", "ES256", "ES384", "ES512"] := by
  rw [requireAllowedAlgorithm, ← allowedAlgorithms]
  split
  next alg halg =>
    rw [halg]
    by_cases hallowed : alg ∈ allowedAlgorithms
    · simp [hallowed]
    · simp [hallowed, requireAllowedAlgorithm.unsupported]
  next value hother halg =>
    rw [halg]
    simp only [requireAllowedAlgorithm.unsupported, reduceCtorEq, Option.some.injEq, false_iff, not_exists, not_and]
    rintro alg rfl
    exact absurd rfl (hother alg)
  next halg => simp [halg, requireAllowedAlgorithm.unsupported]

theorem OIDCVerifier.verify_eq_ok {jwt : PyJWT JWK} {printable : Char → Bool} {verifier : OIDCVerifier JWK}
    {token : String} {claims : Claims} :
    verifier.verify jwt printable token = .ok claims ↔ verifier.Accepts jwt token claims := by
  rw [verify]
  cases hcache : verifier.cache with
  | none =>
    refine iff_of_false (fun h => by cases h) fun h => ?_
    obtain ⟨client, key, call, hclient, -⟩ := h.signed
    rw [hcache] at hclient
    cases hclient
  | some client =>
    simp only [Except.bind_eq_ok, Except.mapError_eq_ok, requireAllowedAlgorithm_eq_ok, PyJWKClient.getSigningKey]
    constructor
    · rintro ⟨header, hheader, -, ⟨alg, halg, hallowed⟩, key, hkey, hclaims⟩
      exact ⟨⟨header, alg, hheader, halg, hallowed⟩, client, key, _, hcache, hkey, asksVerification_iff.2 rfl, hclaims⟩
    · intro h
      obtain ⟨header, alg, hheader, halg, hallowed⟩ := h.header
      obtain ⟨client', key, call, hclient, hkey, hcall, hclaims⟩ := h.signed
      cases hcache.symm.trans hclient
      cases asksVerification_iff.1 hcall
      exact ⟨header, hheader, (), ⟨alg, halg, hallowed⟩, key, hkey, hclaims⟩

namespace Deployment

variable (lib : TokenLibrary JWK DateTime) (d : Deployment JWK Bundle lib.tables) (settings : Settings)

/-! ## The caller -/

/-- The trust anchors of the settings vouch for the claims of a token: the keys of the discovered URI, or the
configured public keys. -/
inductive Vouches (token : String) (claims : Claims) : Prop
  | oidc (uri : String) (lifespan : Int) (client : PyJWKClient JWK) (hmode : settings.authMode = .oidc)
      (hissuer : truthy settings.oidcIssuer = true)
      (hdiscovers : Discovers d.network lib.tables.printable (settings.oidcIssuer.getD "") settings.oidcJwksUri uri)
      (hlifespan : settings.jwksCacheTtlSeconds.toInt = .ok lifespan)
      (hclient : d.network.pyJWKClient uri lifespan = .ok client)
      (haccepts : OIDCVerifier.Accepts lib.jwt
        ⟨settings.oidcIssuer.getD "", settings.oidcAudience, some client⟩ token claims)
  | basisLocalToken (trust : BasisLocalTokenTrustConfig lib.tables) (audienceText keysText : String)
      (keys : List (String × Json)) (hmode : settings.authMode = .basisLocalToken)
      (htrust : TrustSettings d.jsonLoads settings audienceText keysText keys trust.toBasisLocalTokenTrustFields)
      (htrusted : BasisLocalToken.Trusted lib trust token claims)

variable {lib d}

/-- Who is authenticated by a started gateway has claims that the settings vouch for. -/
theorem vouches_of_authenticate (outside : App) {token : String} {subject : NormalizedSubject}
    {context : IdentityContext}
    (h : (outside.servedBy lib (freshStartup d.steps).app).authenticate
      (outside.servedBy lib (freshStartup d.steps).app).authMode token = .ok (subject, context)) :
    ∃ settings claims, d.loadConfig = .ok settings ∧ d.Vouches lib settings token claims ∧
      SubjectOf claims subject := by
  have hauth := authenticate_eq lib ⟨(freshStartup d.steps).app.verifier,
    (freshStartup d.steps).app.basisLocalTokenTrustConfig⟩
    (outside.servedBy lib (freshStartup d.steps).app).authMode token
  obtain ⟨verified, hverified, hidentity⟩ := Except.bind_eq_ok.1 (hauth.symm.trans h)
  have hsubject := subjectOf_verification hverified hidentity
  cases hmode : (outside.servedBy lib (freshStartup d.steps).app).authMode with
  | oidc =>
    rw [hmode] at hverified
    cases hserved : (freshStartup d.steps).app.verifier with
    | none =>
      rw [hserved] at hverified
      cases hverified
    | some verifier =>
      obtain ⟨settings, hsettings, hoidc, hissuer, hinit⟩ := verifier_of_started hserved
      obtain ⟨uri, lifespan, client, hdiscovers, hlifespan, hclient, -, rfl⟩ :=
        initializedVerifier_eq_ok.1 hinit
      rw [hserved] at hverified
      obtain ⟨claims, hclaims, rfl⟩ := Except.map_eq_ok.1 hverified
      exact ⟨settings, claims, hsettings, .oidc uri lifespan client hoidc hissuer hdiscovers hlifespan hclient
        (OIDCVerifier.verify_eq_ok.1 hclaims), hsubject⟩
  | basisLocalToken =>
    rw [hmode] at hverified
    cases hserved : (freshStartup d.steps).app.basisLocalTokenTrustConfig with
    | none =>
      rw [hserved] at hverified
      cases hverified
    | some trust =>
      obtain ⟨settings, hsettings, hlocal, hbuilt⟩ := trust_of_started hserved
      rw [hserved] at hverified
      obtain ⟨result, hresult, rfl⟩ := Except.map_eq_ok.1 hverified
      obtain ⟨payload, htrusted, hcarries⟩ := BasisLocalToken.verifyBasisLocalIdentityToken_eq_ok.1 hresult
      obtain ⟨audienceText, keysText, keys, hgiven⟩ := buildBasisLocalTokenTrustConfig_eq_ok.1 hbuilt
      refine ⟨settings, payload, hsettings,
        .basisLocalToken trust audienceText keysText keys hlocal hgiven htrusted, ?_⟩
      rwa [show (Verification.basisLocal result).claims = payload from hcarries.claims] at hsubject

/-! ## The decision -/

variable (d)

/-- The policy of the settings allows the call: the policy file's, which keeps to the grammar and means what the
file says, or the bundle's. -/
inductive Allows : Call → Prop
  | evaluate {data : Json} {engine : PolicyEngine} {evaluate : KernelCall → KernelRun} {call : KernelCall}
      {decision : DecisionResponse} (hpath : truthy settings.policyPath = true)
      (hholds : FileHolds d.jsonLoads (d.policyFile settings) data)
      (hgrammar : PolicyGrammar data) (hmeans : data.DistinctKeys → EngineMeans data engine)
      (hengine : policyEngineOf lib.tables.printable (d.policyFile settings).path data = .ok engine)
      (hpoint : d.enforcementPoint engine settings.policyVersion = .ok evaluate)
      (hdecision : (evaluate call).result = .ok decision) (hallow : decision.outcome = .allow) : Allows (.kernel call)
  | operationAware {fields : List (String × Json)} {bundle : Bundle} {point : OperationAwareEnforcementPoint}
      {call : OperationAwareKernelCall} {result : OperationAwareEnforcementResult}
      (henabled : settings.operationAwareEnabled = true)
      (hholds : FileHolds d.jsonLoads (d.bundleFile settings) (.obj fields))
      (hvalidate : d.modelValidate fields = .ok bundle) (hpoint : d.forBundle bundle = .ok point)
      (hresult : point.evaluate call = .ok result) (hcompleted : result.response.evaluationStatus = .completed)
      (hallow : result.response.outcome = some .allow) : Allows (.operationAwareKernel call)

variable {d}

/-- What the served evaluators allow, the policy of the settings allows. -/
theorem allows_of_permits {outside : App} {call : Call}
    (h : Permits (outside.servedBy lib (freshStartup d.steps).app) call) :
    ∃ settings, d.loadConfig = .ok settings ∧ d.Allows settings call := by
  cases call with
  | kernel call =>
    obtain ⟨evaluator, decision, hserved, hdecision, hallow⟩ := h
    obtain ⟨settings, engine, hsettings, hpath, hengine, hbuild⟩ := evaluator_of_started hserved
    obtain ⟨evaluate, hpoint, hevaluator⟩ := Except.bind_eq_ok.1 hbuild
    cases hevaluator
    obtain ⟨data, hholds, hdata⟩ := loadPolicyEngine_eq_ok.1 hengine
    have hgrammar : PolicyGrammar data := exists_policyEngineOf_iff.1 ⟨engine, hdata⟩
    exact ⟨settings, hsettings, .evaluate hpath hholds hgrammar
      (fun hkeys => engineMeans_of_policyEngineOf hkeys hdata)
      hdata hpoint hdecision hallow⟩
  | operationAwareKernel call =>
    obtain ⟨evaluator, result, hserved, hresult, hcompleted, hallow⟩ := h
    obtain ⟨settings, point, -, hsettings, henabled, hpoint, rfl, -⟩ := operationAwareEvaluator_of_started hserved
    obtain ⟨bundle, hbundle, hfor⟩ : ∃ bundle, d.bundle settings = .ok bundle ∧ d.forBundle bundle = .ok point :=
      Except.bind_eq_ok.1 hpoint
    obtain ⟨fields, hholds, hvalidate⟩ := loadOperationAwarePolicyBundle_eq_ok.1 (Except.mapError_eq_ok.1 hbundle)
    exact ⟨settings, hsettings, .operationAware henabled hholds hvalidate hfor hresult hcompleted hallow⟩
  | _ => exact h.elim

end Deployment

/-! ## The call -/

/-- A request that goes through every gate makes this kernel call, for this caller. -/
inductive Endpoint.Asks (app : App) (req : Request) : Endpoint → String → NormalizedSubject → Call → Prop
  | evaluate {a : Evaluate.Admitted} {call : KernelCall} (hpassed : Evaluate.Passed app req a)
      (hcall : (a.input req).kernelCall app.models req.readings = .ok call) :
      Asks app req .evaluate a.token a.subject (.kernel call)
  | operationAware {a : OperationAware.Admitted} {call : OperationAwareKernelCall}
      (hpassed : OperationAware.Passed app req a)
      (hcall : a.composed.kernelCall app.models app.printable req.readings = .ok call) :
      Asks app req .operationAware a.token a.subject (.operationAwareKernel call)

namespace Endpoint.Asks

variable {app : App} {req : Request} {endpoint : Endpoint} {token : String} {subject : NormalizedSubject}
  {call : Call}

theorem caller (h : Asks app req endpoint token subject call) : extractBearerToken req.authorization = .ok token ∧
    ∃ context, app.authenticate app.authMode token = .ok (subject, context) := by
  cases h with
  | evaluate hpassed _ => exact ⟨hpassed.token, _, hpassed.authenticated⟩
  | operationAware hpassed _ => exact ⟨hpassed.token, _, hpassed.authenticated⟩

/-- The call is about the caller. -/
theorem subjectFields (h : Asks app req endpoint token subject call) :
    call.subjectFields? = some subject.subjectFields := by
  cases h with
  | evaluate _ hcall => exact congrArg some (EvaluationInput.calls_of_kernelCall hcall).subject
  | operationAware hpassed hcall =>
    show some _ = _
    rw [kernelCall_subjectFields hcall, hpassed.composes.subject]

end Endpoint.Asks

/-- A script that is answered 200 asked its kernel once, which allowed the call. -/
theorem Endpoint.asks_of_granted {endpoint : Endpoint} {app : App} {req : Request} {present : Bool}
    {response : JSONResponse} (h : answerOf (endpoint.script app req present).result = .ok response)
    (hstatus : response.statusCode = 200) : ∃ token subject call, endpoint.Asks app req token subject call ∧
      callsOf (endpoint.script app req present).effects = [.bodyRead, .authenticate, .evaluator, call] ∧
      Permits app call := by
  cases endpoint.course app req present with
  | refused stop _ hresult =>
    rw [hresult] at h
    exact absurd hstatus (Stop.statusCode_ne h)
  | unbuilt stop _ _ hresult =>
    rw [hresult] at h
    exact absurd hstatus (Stop.statusCode_ne h)
  | called call _ hof hcalls hanswers =>
    have hpermits := (hanswers response h).permits hstatus
    have hmem : call ∈ callsOf (endpoint.script app req present).effects := by simp [hcalls]
    cases endpoint with
    | evaluate =>
      cases call with
      | kernel call =>
        obtain ⟨a, hthrough, hcall⟩ := Evaluate.through_of_kernel hmem
        obtain ⟨hres, hact, hresource⟩ := Evaluate.compose_ok hthrough.compose
        have hpassed : Evaluate.Passed app req a :=
          ⟨bodyGate_ok hthrough.body, hres, hact, hresource, bearerGate_ok hthrough.bearer,
            authenticationGate_ok hthrough.authentication, Evaluate.presentEvaluator_ok hthrough.evaluator⟩
        exact ⟨a.token, a.subject, _, .evaluate hpassed hcall, hcalls, hpermits⟩
      | _ => exact hof.elim
    | operationAware =>
      cases call with
      | operationAwareKernel call =>
        obtain ⟨a, hthrough, -, hcall⟩ := OperationAware.through_of_kernel hmem
        exact ⟨a.token, a.subject, _, .operationAware hthrough.passed hcall, hcalls, hpermits⟩
      | _ => exact hof.elim

/-! ## Every run -/

/-- What a granted request rests on, and in what order its handler asked for it. -/
structure Granted (lib : TokenLibrary JWK DateTime) (d : Deployment JWK Bundle lib.tables) (app : App)
    (task : Endpoint × Request) (asked : List Call) (settings : Settings) (token : String) (claims : Claims)
    (subject : NormalizedSubject) (call : Call) : Prop where
  loaded : d.loadConfig = .ok settings
  presented : extractBearerToken task.2.authorization = .ok token
  vouched : d.Vouches lib settings token claims
  named : SubjectOf claims subject
  asks : task.1.Asks app task.2 token subject call
  speaksOf : call.subjectFields? = some subject.subjectFields
  asked : asked = [.bodyRead, .authenticate, .evaluator, call]
  allowed : d.Allows settings call

/-- The status codes of the requests that were answered; none, for one that raised. -/
def statusCodes (c : Config (Endpoint × Request) World Outcome) : List (Option Nat) :=
  c.answered.map fun answered => answered.2.1.toOption.map (·.statusCode)

theorem mem_statusCodes {c : Config (Endpoint × Request) World Outcome} {code : Nat} : some code ∈ statusCodes c ↔
    ∃ task response asked, (task, .done (.ok response, asked)) ∈ c.tasks ∧ response.statusCode = code := by
  rw [statusCodes, List.mem_map]
  constructor
  · rintro ⟨⟨task, answer, asked⟩, hanswered, hcode⟩
    cases answer with
    | error exc => cases hcode
    | ok response => exact ⟨task, response, asked, mem_answered.1 hanswered, Option.some.inj hcode⟩
  · rintro ⟨task, response, asked, hm, rfl⟩
    exact ⟨(task, .ok response, asked), mem_answered.2 hm, rfl⟩

/-- In every run, whatever world it starts in, a request that is answered 200 asked its kernel once, which allowed
the call. -/
theorem asks_of_run (app : App) (w : World) (requests : List (Endpoint × Request)) (schedule : List Nat)
    {task : Endpoint × Request} {response : JSONResponse} {asked : List Call}
    (hm : (task, .done (.ok response, asked)) ∈ ((handlers app).run (boot w requests) schedule).tasks)
    (hstatus : response.statusCode = 200) : ∃ token subject call, task.1.Asks app task.2 token subject call ∧
      asked = [.bodyRead, .authenticate, .evaluator, call] ∧ Permits app call := by
  rcases outcome_of_run hm with ⟨-, hsuspended⟩ | hscripted
  · cases Except.ok.inj (Prod.mk.inj hsuspended).1
    exact absurd hstatus (show 503 ≠ 200 by decide)
  · obtain ⟨hanswer, hasked⟩ := Prod.mk.inj hscripted
    obtain ⟨token, subject, call, hasks, hcalls, hpermits⟩ := Endpoint.asks_of_granted hanswer.symm hstatus
    exact ⟨token, subject, call, hasks, hasked.trans hcalls, hpermits⟩

/-- What the application of a started deployment asked and was allowed goes back to the deployment. -/
theorem granted_of_asks {lib : TokenLibrary JWK DateTime} {outside : App} {d : Deployment JWK Bundle lib.tables}
    {task : Endpoint × Request} {asked : List Call} {token : String} {subject : NormalizedSubject} {call : Call}
    (hasks : task.1.Asks (outside.servedBy lib (freshStartup d.steps).app) task.2 token subject call)
    (hasked : asked = [.bodyRead, .authenticate, .evaluator, call])
    (hpermits : Permits (outside.servedBy lib (freshStartup d.steps).app) call) :
    ∃ settings claims, Granted lib d (outside.servedBy lib (freshStartup d.steps).app) task asked settings token
      claims subject call := by
  obtain ⟨htoken, context, hauth⟩ := hasks.caller
  obtain ⟨settings, claims, hsettings, hvouches, hsubject⟩ := Deployment.vouches_of_authenticate outside hauth
  obtain ⟨settings', hsettings', hallows⟩ := Deployment.allows_of_permits hpermits
  cases hsettings.symm.trans hsettings'
  exact ⟨settings, claims, hsettings, htoken, hvouches, hsubject, hasks, hasks.subjectFields, hasked, hallows⟩

/-- **A granted request traces back to the deployment.** A deployment is started on a fresh process, and serves any
requests in any interleaving, whatever its network, its files, its libraries and its kernel do. A request that is
answered 200 came to a handler and presents a token, the trust anchors of the settings vouch for claims of the
token, the request and the subject of these claims make one kernel call, and the policy of the same settings allows
that call. -/
theorem granted_traces_back (lib : TokenLibrary JWK DateTime) (framework : Framework) (outside : App)
    (d : Deployment JWK Bundle lib.tables) (pipeline : AuditPipeline) (requests : List (Endpoint × Request))
    (schedule : List Nat) :
    let started := freshStartup d.steps
    let registered := started.app.operationAwareRouterRegistered
    let app := outside.servedBy lib started.app
    let final := (routes framework registered app).run (boot (started.serving pipeline) requests) schedule
    ∀ task response asked, (task, .done (.ok response, asked)) ∈ final.tasks → response.statusCode = 200 →
      task.1.routed registered = true ∧
      ∃ settings token claims subject call, Granted lib d app task asked settings token claims subject call := by
  intro started registered app final task response asked hm hstatus
  obtain ⟨hrouted, turns, hserved⟩ := granted_of_routes hm hstatus
  obtain ⟨token, subject, call, hasks, hasked, hpermits⟩ := asks_of_run app _ _ turns hserved hstatus
  obtain ⟨settings, claims, hgranted⟩ := granted_of_asks hasks hasked hpermits
  exact ⟨hrouted, settings, token, claims, subject, call, hgranted⟩

/-- An issuer whose keys are at a configured URI, a policy, and a kernel that allows everything. -/
def viewerDeployment : Deployment Unit Bool asciiTables where
  loadConfig := .ok
    { oidcIssuer := some "https://issuer"
      oidcJwksUri := some "https://issuer/keys"
      policyPath := some "policy.json" }
  network :=
    { get := fun _ => .error { cls := .osError, msg := "" }
      httpError := fun _ => true
      pyJWKClient := fun _ _ => .ok { getSigningKeyFromJwt := fun _ => .ok () }
      fetchData := fun _ => .ok () }
  jsonLoads _ := .ok viewerPolicy
  file path := { path, present := true, isFile := true, readText := .ok "" }
  modelValidate _ := .ok true
  enforcementPoint _ policyVersion := .ok fun call =>
    { writes := []
      result := .ok { requestId := call.request.requestId, outcome := .allow, reason := "allowed", policyVersion } }
  forBundle _ := .error { cls := .valueError, msg := "" }
  preflightTime := 0

/-- The framework's own answer. -/
def plainFramework : Framework where
  notFound _ := { statusCode := 404, content := .obj [("detail", .str "Not Found")] }
  notFound_statusCode _ := rfl

/-- The theorem at a request that is granted there. -/
theorem granted_traces_back_viewer :
    let started := freshStartup viewerDeployment.steps
    let registered := started.app.operationAwareRouterRegistered
    let app := permissiveApp.servedBy sampleLibrary.toTokenLibrary started.app
    let final := (routes plainFramework registered app).run
      (boot (started.serving sinkDown) [(.evaluate, bearerRequest)]) [0, 0]
    ∃ task response asked, (task, .done (.ok response, asked)) ∈ final.tasks ∧ response.statusCode = 200 ∧
      task.1.routed registered = true ∧
      ∃ settings token claims subject call,
        Granted sampleLibrary.toTokenLibrary viewerDeployment app task asked settings token claims subject call := by
  intro started registered app final
  have hdone : statusCodes final = [some 200] := by decide +kernel
  obtain ⟨task, response, asked, hm, hstatus⟩ := mem_statusCodes.1 (by simp [hdone] : some 200 ∈ statusCodes final)
  exact ⟨task, response, asked, hm, hstatus, granted_traces_back sampleLibrary.toTokenLibrary plainFramework
    permissiveApp viewerDeployment sinkDown [(.evaluate, bearerRequest)] [0, 0] task response asked hm hstatus⟩

end BasisGateway
