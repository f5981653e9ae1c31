/-
What a started gateway can answer. A process serves with what its startup
left on `app.state`: the verifier of its mode and the two evaluators. So the
answers tell what the startup did, and the readiness tracker says the same:
"Evaluator not initialized" is answered exactly where the component of the
evaluator is not ready, and "Authentication not configured" exactly where
the component of the mode's verifier is not.
-/
import BasisGateway.AuthenticationContract
import BasisGateway.Serving

namespace BasisGateway

open Script Tasks
open Except (Raises raises_ok raises_error_iff raises_bind_iff raises_mapError_iff raises_guard raises_forM
  raises_pure)

/-! ## The application of a startup -/

/-- The objects of this process. A verifier is what `initialize()` leaves of it. -/
def gatewayParts (JWK : Type) (tables : UnicodeTables) (Engine Bundle : Type) : Parts where
  Verifier := OIDCVerifier JWK
  TrustConfig := BasisLocalTokenTrustConfig tables
  Engine := Engine
  Evaluator := GatewayEvaluator
  Bundle := Bundle
  OperationAwareEvaluator := OperationAwareGatewayEvaluator

section

variable {JWK DateTime Engine Bundle : Type}

/-- The application whose handlers serve on this `app.state`; `outside` gives the libraries. -/
def App.servedBy (outside : App) (lib : TokenLibrary JWK DateTime)
    (app : AppState (gatewayParts JWK lib.tables Engine Bundle)) : App :=
  { outside with
    config := app.config
    authenticate := BasisGateway.authenticate
      (TokenVerifiers.verifiers lib ⟨app.verifier, app.basisLocalTokenTrustConfig⟩)
    evaluator := app.evaluator
    operationAwareEvaluator := app.operationAwareEvaluator }

end

/-- The last component on the way to the endpoint's evaluator. -/
def Endpoint.evaluatorComponent : Endpoint → String
  | .evaluate => "evaluator_initialized"
  | .operationAware => "operation_aware_policy_semantically_valid"

/-- The component of the mode's verifier. -/
def AuthMode.component : AuthMode → String
  | .oidc => "oidc_configured"
  | .basisLocalToken => "basis_local_token_configured"

/-! ## Attributes and components -/

section

variable {P : Parts}

/-- What each stage that completes does to the configuration and the verifiers. -/
theorem StartupSteps.verifiers_of_outcomeOf {steps : StartupSteps P} {config : GatewayConfig} {n : Stage}
    {u : AppState P → AppState P} (h : steps.outcomeOf config n = .ok u) (app : AppState P) :
    (u app).config = (if n = .configuration then some config else app.config) ∧
    (u app).verifier = (if n = .configuration then none
      else if n = .oidc then steps.verifierFromConfig.toOption else app.verifier) ∧
    (u app).basisLocalTokenTrustConfig = (if n = .configuration then none
      else if n = .basisLocalToken then steps.buildBasisLocalTokenTrustConfig.toOption
      else app.basisLocalTokenTrustConfig) := by
  cases n with
  | configuration | router | auditWriter | operationAwareMode =>
    cases h
    exact ⟨rfl, rfl, rfl⟩
  | evaluationConfig | policy | operationAwareConfig | bundle | operationAwareEvaluator | evaluator =>
    obtain ⟨a, -, rfl⟩ := ok_of_stageOf h
    exact ⟨rfl, rfl, rfl⟩
  | basisLocalToken =>
    obtain ⟨a, ha, rfl⟩ := ok_of_stageOf h
    rw [ha]
    exact ⟨rfl, rfl, rfl⟩
  | oidc =>
    simp only [outcomeOf] at h
    split at h
    next => cases h
    next hv =>
      obtain ⟨a, -, rfl⟩ := ok_of_stageOf h
      rw [hv]
      exact ⟨rfl, rfl, rfl⟩
  | preflight =>
    simp only [outcomeOf] at h
    split at h
    next => cases h
    next =>
      obtain ⟨a, -, rfl⟩ := ok_of_stageOf h
      exact ⟨rfl, rfl, rfl⟩

theorem verifier_isSome (steps : StartupSteps P) :
    (freshStartup steps).app.verifier.isSome = true ↔ componentReady (freshStartup steps) "oidc_configured" := by
  rw [componentReady_iff steps (by simp [Stage.provides] : _ ∈ Stage.oidc.provides) (by simp)]
  refine attribute_isSome_iff steps (·.verifier) rfl (by simp) (fun hu app => ?_) (fun hu app => ?_)
    fun {_ m _} hm hmn hu app => ?_
  · simp only [StartupSteps.outcomeOf] at hu
    split at hu
    next => cases hu
    next =>
      obtain ⟨u, -, rfl⟩ := StartupSteps.ok_of_stageOf hu
      rfl
  · exact (StartupSteps.verifiers_of_outcomeOf hu app).2.1
  · rw [(StartupSteps.verifiers_of_outcomeOf hu app).2.1, if_neg hm, if_neg hmn]

theorem basisLocalTokenTrustConfig_isSome (steps : StartupSteps P) :
    (freshStartup steps).app.basisLocalTokenTrustConfig.isSome = true ↔
      componentReady (freshStartup steps) "basis_local_token_configured" := by
  rw [componentReady_iff steps (by simp [Stage.provides] : _ ∈ Stage.basisLocalToken.provides) (by simp)]
  refine attribute_isSome_iff steps (·.basisLocalTokenTrustConfig) rfl (by simp) (fun hu app => ?_)
    (fun hu app => ?_) fun {_ m _} hm hmn hu app => ?_
  · obtain ⟨a, ha, rfl⟩ := StartupSteps.ok_of_stageOf hu
    rfl
  · exact (StartupSteps.verifiers_of_outcomeOf hu app).2.2
  · rw [(StartupSteps.verifiers_of_outcomeOf hu app).2.2, if_neg hm, if_neg hmn]

end

/-! ## What verification never raises -/

/-- `exc` is no `AuthNotConfiguredError`. -/
def PyExc.IsOther (exc : PyExc) : Prop := exc.isInstance .authNotConfiguredError = false

section

variable {JWK DateTime : Type}

theorem isOther_of_isInstance {exc : PyExc} {cls : ExcClass} (h : exc.isInstance cls = true)
    (hcls : cls ≠ .authNotConfiguredError) (hbase : cls ∉ ExcClass.bases .authNotConfiguredError)
    (hsub : .authNotConfiguredError ∉ cls.bases) : exc.IsOther := by
  rw [PyExc.IsOther, Bool.eq_false_iff]
  intro hself
  rcases PyExc.isInstance_chain h hself with he | he | he
  · exact hcls he
  · exact hbase he
  · exact hsub he

theorem isOther_of_pyJWTError {exc : PyExc} (h : exc.isInstance .pyJWTError = true) : exc.IsOther :=
  isOther_of_isInstance h (by decide) (by decide) (by decide)

theorem isOther_of_invalidTokenError {exc : PyExc} (h : exc.isInstance .invalidTokenError = true) : exc.IsOther :=
  isOther_of_isInstance h (by decide) (by decide) (by decide)

/-- Clauses that raise nothing of the class, around a call that raises nothing of it. -/
theorem other_exceptClauses {α : Type} {clauses : List (ExcClass × (PyExc → PyExc))} {x : Except PyExc α}
    (hclauses : ∀ exc : PyExc, exc.IsOther → ∀ clause ∈ clauses, (clause.2 exc).IsOther)
    (hx : Raises PyExc.IsOther x) : Raises PyExc.IsOther (x.mapError (exceptClauses clauses)) := by
  rw [raises_mapError_iff]
  intro exc hexc
  rw [exceptClauses]
  split
  next clause hfind => exact hclauses exc (hx exc hexc) clause (List.mem_of_find?_eq_some hfind)
  next => exact hx exc hexc

theorem other_oidcVerify (lib : DocumentedTokenLibrary JWK DateTime) (verifier : OIDCVerifier JWK) (token : String) :
    Raises PyExc.IsOther (verifier.verify lib.jwt lib.tables.printable token) := by
  rw [OIDCVerifier.verify]
  split
  next => exact raises_error_iff.2 rfl
  next client _ =>
    have hheader : Raises PyExc.IsOther
        ((lib.jwt.getUnverifiedHeader token).mapError (exceptClauses OIDCVerifier.headerClauses)) :=
      other_exceptClauses (by simp [OIDCVerifier.headerClauses, PyExc.IsOther, jwtVerificationError,
          PyExc.isInstance, ExcClass.bases])
        fun exc h => isOther_of_invalidTokenError (lib.header_raises token exc h)
    have halgorithm (header : Claims) :
        Raises PyExc.IsOther (OIDCVerifier.requireAllowedAlgorithm lib.tables.printable header) := by
      rw [OIDCVerifier.requireAllowedAlgorithm]
      repeat' split
      all_goals first
        | exact raises_ok ()
        | exact raises_error_iff.2 rfl
    have hkey : Raises PyExc.IsOther (client.getSigningKey token) := by
      rw [PyJWKClient.getSigningKey, raises_mapError_iff]
      intro exc _
      split
      · exact rfl
      · exact rfl
    have hdecode (call : DecodeCall JWK) : Raises PyExc.IsOther
        ((lib.jwt.decode call).mapError (exceptClauses OIDCVerifier.decodeClauses)) :=
      other_exceptClauses (by simp [OIDCVerifier.decodeClauses, PyExc.IsOther, jwtVerificationError,
          PyExc.isInstance, ExcClass.bases])
        fun exc h => isOther_of_pyJWTError (lib.decode_raises call exc h)
    simp only [raises_bind_iff, hheader, halgorithm, hkey, hdecode, implies_true, and_self]

namespace BasisLocalToken

variable {lib : DocumentedTokenLibrary JWK DateTime} {trust : BasisLocalTokenTrustConfig lib.tables}

theorem other_acceptHeader (header : Claims) : Raises PyExc.IsOther (acceptHeader lib.tables trust header) := by
  have htext (name missing : String) : Raises PyExc.IsOther (headerText header name missing) := by
    rw [headerText]
    split
    next => exact raises_guard rfl (raises_ok _)
    next => exact raises_error_iff.2 rfl
  have halg (alg : String) : Raises PyExc.IsOther (requireAcceptedAlgorithm lib.tables trust alg) :=
    raises_guard rfl (raises_guard rfl (raises_guard rfl (raises_ok ())))
  have hkey (kid : String) : Raises PyExc.IsOther (selectPublicKey lib.tables trust kid) := by
    rw [selectPublicKey]
    split
    next => exact raises_ok _
    next => exact raises_error_iff.2 rfl
  simp only [acceptHeader, raises_bind_iff, htext, halg, hkey, raises_pure, implies_true, and_self]

theorem other_requireTokenType (payload : Claims) : Raises PyExc.IsOther (requireTokenType lib.tables payload) := by
  rw [requireTokenType]
  repeat' split
  all_goals first
    | exact raises_ok ()
    | exact raises_error_iff.2 rfl

theorem other_readClaims (payload : Claims) : Raises PyExc.IsOther (readClaims lib.toTokenLibrary payload) := by
  have hkey (fields : Claims) (key : String) : Raises PyExc.IsOther (subscript fields key) := by
    rw [subscript]
    split
    next => exact raises_ok _
    next => exact raises_error_iff.2 rfl
  have hobject (name : String) (value : Json) : Raises PyExc.IsOther (requireObject name value) := by
    cases value with
    | obj fields => exact raises_ok fields
    | _ => exact raises_error_iff.2 rfl
  have haudience (value : Json) : Raises PyExc.IsOther (audienceEntries value) := by
    cases value with
    | str _ | arr _ => exact raises_ok _
    | _ => exact raises_error_iff.2 rfl
  have htext (label : String) (value : Json) : Raises PyExc.IsOther (requireText label value) := by
    cases value with
    | str text => exact raises_guard rfl (raises_ok text)
    | _ => exact raises_error_iff.2 rfl
  have htime (fieldName : String) (value : Json) :
      Raises PyExc.IsOther (timestampToDatetime lib.toTokenLibrary fieldName value) := by
    have hconvert : Raises PyExc.IsOther (lib.fromTimestamp value) := by
      intro exc hexc
      obtain ⟨cls, msg, errors⟩ := exc
      rcases lib.timestamp_raises value _ hexc with rfl | rfl | hvalue
      · rfl
      · rfl
      · exact isOther_of_isInstance hvalue (by decide) (by decide) (by decide)
    cases value with
    | int _ | float _ => exact hconvert
    | _ => exact raises_error_iff.2 rfl
  simp only [readClaims, raises_bind_iff, hkey, hobject, haudience, htext, htime, raises_pure, implies_true, and_self]

theorem other_resultFromClaims (claims : BasisLocalTokenClaims DateTime) :
    Raises PyExc.IsOther (resultFromClaims lib.tables claims) := by
  have hscan (data : Json) : Raises PyExc.IsOther (assertNoAuthorizationShapedKeys lib.tables data) := by
    intro exc hexc
    obtain ⟨key, hkey⟩ := Json.forKeys_eq_error hexc
    have hkeys : Raises PyExc.IsOther (rejectAuthorizationShapedKey lib.tables key) :=
      raises_guard rfl (raises_ok ())
    exact hkeys exc hkey
  have htexts (fields : List (String × String)) : Raises PyExc.IsOther (forM fields requireNonEmpty) :=
    raises_forM fun field => raises_guard rfl (raises_ok ())
  have haudience : Raises PyExc.IsOther (postInit.requireAudience (resultOf claims)) :=
    raises_guard rfl (raises_ok ())
  simp only [resultFromClaims, postInit, raises_bind_iff, htexts, haudience, hscan, raises_pure, implies_true,
    and_self]

theorem other_verifyBasisLocalIdentityToken (token : String) :
    Raises PyExc.IsOther (verifyBasisLocalIdentityToken lib.toTokenLibrary trust token) := by
  have htoken : Raises PyExc.IsOther (requireToken token) := raises_guard rfl (raises_ok ())
  have hheader : Raises PyExc.IsOther
      ((lib.jwt.getUnverifiedHeader token).mapError (exceptClauses headerClauses)) :=
    other_exceptClauses (by simp [headerClauses, PyExc.IsOther, headerError, PyExc.isInstance, ExcClass.bases])
      fun exc h => isOther_of_invalidTokenError (lib.header_raises token exc h)
  have hdecode (call : DecodeCall JWK) : Raises PyExc.IsOther
      ((lib.jwt.decode call).mapError (exceptClauses (decodeClauses lib.toTokenLibrary))) :=
    other_exceptClauses (by simp [decodeClauses, PyExc.IsOther, verificationError, claimsError, signatureError,
        PyExc.isInstance, ExcClass.bases])
      fun exc h => isOther_of_pyJWTError (lib.decode_raises call exc h)
  have hpaths (payload : Claims) :
      Raises PyExc.IsOther (requireClaimPaths lib.tables trust.requiredClaims payload) :=
    raises_guard rfl (raises_ok ())
  have hclaims (payload : Claims) :
      Raises PyExc.IsOther (basisLocalClaimsFromVerifiedPayload lib.toTokenLibrary payload) := by
    refine other_exceptClauses (fun exc hexc clause hmem => ?_) (other_readClaims payload)
    simp only [claimsClauses, List.mem_cons, List.not_mem_nil, or_false] at hmem
    rcases hmem with rfl | rfl | rfl | rfl
    · exact hexc
    · rfl
    · rfl
    · rfl
  simp only [verifyBasisLocalIdentityToken, raises_bind_iff, htoken, hheader, hdecode, hpaths, hclaims,
    other_acceptHeader, other_requireTokenType, other_resultFromClaims, implies_true, and_self]

end BasisLocalToken

end

/-! ## Answers and gates -/

/-- The status that the helpers of `api/routes.py` answer with an error code. -/
def errorStatus (code : String) : Nat :=
  if code ∈ ["authentication_required", "authentication_failed"] then 401
  else if code ∈ ["validation_failed", "producer_certificate_rejected"] then 400
  else if code ∈ ["evaluator_unavailable", "audit_fail_closed"] then 503
  else 500

/-- An answer that ends the handler here has one of these error codes, and its status. -/
def Exit.Says (codes : List String) (exit : Exit) : Prop :=
  ∀ response, exit = .answered response →
    ∃ code ∈ codes, response.errorCode? = some code ∧ response.statusCode = errorStatus code

def Stop.Says (codes : List String) (stop : Stop) : Prop := stop.exit.Says codes

theorem says_of_refuses {stop : Stop} {event : AuditEvent} {response : JSONResponse} {code : String}
    (h : stop.Refuses event response) (hcode : response.errorCode? = some code)
    (hstatus : response.statusCode = errorStatus code) : stop.Says [code] := by
  intro response' hexit
  cases h.2.symm.trans hexit
  exact ⟨code, List.mem_singleton_self _, hcode, hstatus⟩

theorem says_refuse {event : AuditEvent} {response : JSONResponse} {governed : response.isRefusal = true}
    {codes : List String}
    (h : ∃ code ∈ codes, response.errorCode? = some code ∧ response.statusCode = errorStatus code) {α : Type} :
    Raises (Stop.Says codes) (refuse event response governed : Gate α) := by
  intro stop hstop response' hexit
  cases hstop
  cases hexit
  exact h

theorem says_escape (codes : List String) (exc : PyExc) {α : Type} :
    Raises (Stop.Says codes) (.error (.escape exc) : Gate α) := by
  intro stop hstop response hexit
  cases hstop
  cases hexit

/-- The gate lets the request through, when it cannot be what gave this answer. -/
theorem passes_iff {α β : Type} {gate : Gate α} {codes : List String} (h : Raises (Stop.Says codes) gate)
    {response : JSONResponse} (hcodes : ∀ code ∈ codes, response.errorCode? ≠ some code)
    (f : α → Script Effect Exit β) : (gate.script >>= f).result = .error (.answered response) ↔
      ∃ a, gate = .ok a ∧ (f a).result = .error (.answered response) := by
  rcases gate with stop | a
  · refine iff_of_false (fun hresult => ?_) (by simp)
    obtain ⟨code, hcode, hsays, -⟩ := h stop rfl response (Except.error.inj hresult)
    exact hcodes code hcode hsays
  · rw [result_bind]
    refine ⟨fun hresult => ⟨a, rfl, hresult⟩, ?_⟩
    rintro ⟨b, hb, hresult⟩
    cases hb
    exact hresult

/-- The gate is what gave this answer, when nothing after it can be. -/
theorem stops_iff {α β : Type} {gate : Gate α} {response : JSONResponse} {f : α → Script Effect Exit β}
    (codes : List String) (hcodes : ∀ code ∈ codes, response.errorCode? ≠ some code)
    (hf : ∀ a, StopsOnly (Exit.Says codes) (f a)) : (gate.script >>= f).result = .error (.answered response) ↔
      gate.mapError Stop.exit = .error (.answered response) := by
  rw [result_bind]
  rcases gate with stop | a
  · refine ⟨fun h => ?_, fun h => ?_⟩
    · exact congrArg Except.error (Except.error.inj h)
    · exact congrArg Except.error (Except.error.inj h)
  · refine iff_of_false (fun h => ?_) (fun h => by cases h)
    obtain ⟨code, hcode, hsays, -⟩ := hf a _ h response rfl
    exact hcodes code hcode hsays

/-- So it is for a script that admits, and then one that decides. -/
theorem admission_stops_iff {α β : Type} {S : Script Effect Exit α} {f : α → Script Effect Exit β}
    {response : JSONResponse} {codes : List String} (hcodes : ∀ code ∈ codes, response.errorCode? ≠ some code)
    (hf : ∀ a, StopsOnly (Exit.Says codes) (f a)) :
    (S >>= f).result = .error (.answered response) ↔ S.result = .error (.answered response) := by
  rw [result_bind, Except.bind_eq_error]
  refine ⟨fun h => h.resolve_right ?_, .inl⟩
  rintro ⟨a, -, ha⟩
  obtain ⟨code, hcode, hsays, -⟩ := hf a _ ha response rfl
  exact hcodes code hcode hsays

theorem says_script {α : Type} {gate : Gate α} {codes : List String} (h : Raises (Stop.Says codes) gate) :
    StopsOnly (Exit.Says codes) gate.script := by
  intro exit hexit
  rcases gate with stop | a
  · cases hexit
    exact h stop rfl
  · cases hexit

theorem says_mono {codes codes' : List String} (hcodes : ∀ code ∈ codes, code ∈ codes') {α : Type}
    {S : Script Effect Exit α} (h : StopsOnly (Exit.Says codes) S) : StopsOnly (Exit.Says codes') S := by
  intro exit hexit response hresponse
  obtain ⟨code, hcode, hsays⟩ := h exit hexit response hresponse
  exact ⟨code, hcodes code hcode, hsays⟩

/-- An answer with an error code is a stop. -/
theorem answerOf_eq_iff {result : Except Exit JSONResponse} {response : JSONResponse} {code : String}
    (hcode : response.errorCode? = some code)
    (hok : ∀ response', result = .ok response' → response'.errorCode? = none) :
    answerOf result = .ok response ↔ result = .error (.answered response) := by
  rcases result with (response' | exc) | response'
  · exact ⟨fun h => by cases h; rfl, fun h => by cases h; rfl⟩
  · exact iff_of_false (fun h => by cases h) (fun h => by cases h)
  · refine iff_of_false (fun h => ?_) (fun h => by cases h)
    cases h
    rw [hok _ rfl] at hcode
    cases hcode

section SharedSteps

variable {α : Type} {req : Request} {failed : String → AuditEvent}

theorem says_bodyGate (parse : Bytes → Except PyExc α) :
    Raises (Stop.Says ["validation_failed"]) (bodyGate req parse failed) := by
  intro stop hstop
  obtain ⟨reason, message, href⟩ := bodyGate_error hstop
  exact says_of_refuses href rfl rfl

theorem says_bearerGate : Raises (Stop.Says ["authentication_required"]) (bearerGate req failed) := by
  intro stop hstop
  obtain ⟨exc, -, href⟩ := bearerGate_error hstop
  exact says_of_refuses href rfl rfl

theorem says_authenticationGate (app : App) (token : String) :
    Raises (Stop.Says ["authentication_failed"]) (authenticationGate app req token failed) := by
  intro stop hstop
  obtain ⟨exc, -, href⟩ := authenticationGate_error hstop
  exact says_of_refuses href rfl rfl

theorem authenticationFailed_inj {message message' correlationId : String}
    (h : authenticationFailed message correlationId = authenticationFailed message' correlationId) :
    message = message' := by
  simpa [authenticationFailed, errorResponse, ErrorResponse.dump, modelDump] using h

/-- Authentication is reported as not configured when it raised that. -/
theorem authenticationGate_notConfigured_iff {app : App} {token : String} :
    (authenticationGate app req token failed).mapError Stop.exit =
        .error (.answered (authenticationFailed "Authentication not configured" req.correlationId)) ↔
      ∃ exc, app.authenticate app.authMode token = .error exc ∧ ¬ exc.IsOther := by
  rw [authenticationGate]
  rcases happ : app.authenticate app.authMode token with exc | identity
  · simp only [Except.error.injEq, exists_eq_left', PyExc.IsOther, Bool.not_eq_false]
    by_cases hexc : exc.isInstance .authNotConfiguredError = true
    · rw [if_pos hexc]
      exact iff_of_true rfl hexc
    · rw [if_neg hexc]
      refine iff_of_false (fun h => ?_) hexc
      split at h
      · have hmessage := authenticationFailed_inj (Exit.answered.inj (Except.error.inj h))
        revert hmessage
        decide
      · have hmessage := authenticationFailed_inj (Exit.answered.inj (Except.error.inj h))
        revert hmessage
        decide
  · refine iff_of_false (fun h => by cases h) ?_
    rintro ⟨exc, hexc, -⟩
    cases hexc

end SharedSteps

namespace Evaluate

variable {app : App} {req : Request}

/-- The request comes to authentication with this token. -/
def Presents (app : App) (req : Request) (token : String) : Prop :=
  ∃ request, body app req = .ok request ∧ ∃ composed, compose app req request = .ok composed ∧
    bearer req = .ok token

/-- The request comes to its evaluator. -/
def Reaches (app : App) (req : Request) : Prop :=
  ∃ token, Presents app req token ∧ ∃ identity, authentication app req token = .ok identity

theorem says_body : Raises (Stop.Says ["validation_failed"]) (body app req) := says_bodyGate _

theorem says_bearer : Raises (Stop.Says ["authentication_required"]) (bearer req) := says_bearerGate

theorem says_authentication (token : String) :
    Raises (Stop.Says ["authentication_failed"]) (authentication app req token) := says_authenticationGate app token

theorem says_compose (request : EvaluateRequest) :
    Raises (Stop.Says ["validation_failed"]) (compose app req request) := by
  intro stop hstop
  obtain ⟨message, href⟩ := compose_error hstop
  exact says_of_refuses href rfl rfl

theorem says_presentEvaluator (subject : NormalizedSubject) :
    Raises (Stop.Says ["evaluator_unavailable"]) (presentEvaluator app req subject) := by
  intro stop hstop
  exact says_of_refuses (presentEvaluator_error hstop) rfl rfl

theorem says_decideScript (a : Admitted) :
    StopsOnly (Exit.Says ["validation_failed", "evaluation_failed_closed"]) (decideScript app req a) := by
  have hdecided (outcome : Except PyExc DecisionResponse) :
      StopsOnly (Exit.Says ["validation_failed", "evaluation_failed_closed"])
        (decided req a.evaluator a.subject outcome).script := by
    refine says_script ?_
    rcases outcome with exc | decision
    · simp only [decided]
      split
      · exact says_refuse ⟨_, by simp, rfl, rfl⟩
      · exact says_refuse ⟨_, by simp, rfl, rfl⟩
    · exact raises_ok decision
  refine (StopsOnly.perform _).bind fun _ _ => (StopsOnly.perform _).bind fun _ _ =>
    StopsOnly.bind ?_ fun outcome _ => (hdecided outcome).bind fun _ _ => .pure _
  intro exit hexit
  unfold GatewayEvaluator.script at hexit
  split at hexit
  · cases hexit
  · cases hexit

theorem presentEvaluator_mapError_iff (subject : NormalizedSubject) :
    (presentEvaluator app req subject).mapError Stop.exit =
      .error (.answered (evaluatorUnavailable req.correlationId)) ↔ app.evaluator = none := by
  unfold presentEvaluator
  rcases app.evaluator with - | evaluator
  · exact iff_of_true rfl rfl
  · exact iff_of_false (fun h => by cases h) (fun h => by cases h)

/-- "Evaluator not initialized": the request came to its evaluator, and there is none. -/
theorem unavailable_iff :
    (script app req).result = .error (.answered (evaluatorUnavailable req.correlationId)) ↔
      Reaches app req ∧ app.evaluator = none := by
  have hcode : (evaluatorUnavailable req.correlationId).errorCode? = some "evaluator_unavailable" := rfl
  have hchain : (script app req).result = .error (.answered (evaluatorUnavailable req.correlationId)) ↔
      ∃ request, body app req = .ok request ∧ ∃ composed, compose app req request = .ok composed ∧
        ∃ token, bearer req = .ok token ∧ ∃ identity, authentication app req token = .ok identity ∧
          app.evaluator = none :=
    (admission_stops_iff (by simp [hcode]) says_decideScript).trans <|
    (passes_iff says_body (by simp [hcode]) _).trans <| exists_congr fun request => and_congr_right fun _ =>
    (passes_iff (says_compose request) (by simp [hcode]) _).trans <| exists_congr fun _ => and_congr_right fun _ =>
    (passes_iff says_bearer (by simp [hcode]) _).trans <| exists_congr fun token => and_congr_right fun _ =>
    (passes_iff (says_authentication token) (by simp [hcode]) _).trans <|
    exists_congr fun identity => and_congr_right fun _ =>
    (stops_iff [] (by simp) fun _ => .pure _).trans (presentEvaluator_mapError_iff identity.1)
  rw [hchain]
  constructor
  · rintro ⟨request, hbody, composed, hcompose, token, hbearer, identity, hidentity, hnone⟩
    exact ⟨⟨token, ⟨request, hbody, composed, hcompose, hbearer⟩, identity, hidentity⟩, hnone⟩
  · rintro ⟨⟨token, ⟨request, hbody, composed, hcompose, hbearer⟩, identity, hidentity⟩, hnone⟩
    exact ⟨request, hbody, composed, hcompose, token, hbearer, identity, hidentity, hnone⟩

/-- "Authentication not configured": the request came to authentication, which raised that. -/
theorem notConfigured_iff :
    (script app req).result =
        .error (.answered (authenticationFailed "Authentication not configured" req.correlationId)) ↔
      ∃ token, Presents app req token ∧ ∃ exc, app.authenticate app.authMode token = .error exc ∧ ¬ exc.IsOther := by
  have hcode : (authenticationFailed "Authentication not configured" req.correlationId).errorCode? =
      some "authentication_failed" := rfl
  have hchain : (script app req).result =
        .error (.answered (authenticationFailed "Authentication not configured" req.correlationId)) ↔
      ∃ request, body app req = .ok request ∧ ∃ composed, compose app req request = .ok composed ∧
        ∃ token, bearer req = .ok token ∧
          ∃ exc, app.authenticate app.authMode token = .error exc ∧ ¬ exc.IsOther := by
    refine (admission_stops_iff (by simp [hcode]) says_decideScript).trans <|
    (passes_iff says_body (by simp [hcode]) _).trans <| exists_congr fun request => and_congr_right fun _ =>
    (passes_iff (says_compose request) (by simp [hcode]) _).trans <| exists_congr fun _ => and_congr_right fun _ =>
    (passes_iff says_bearer (by simp [hcode]) _).trans <| exists_congr fun token => and_congr_right fun _ =>
      (stops_iff ["evaluator_unavailable"] (by simp [hcode]) fun identity => ?_).trans
        authenticationGate_notConfigured_iff
    exact (says_script (says_presentEvaluator identity.1)).bind fun _ _ => .pure _
  rw [hchain]
  constructor
  · rintro ⟨request, hbody, composed, hcompose, token, hbearer, hraised⟩
    exact ⟨token, ⟨request, hbody, composed, hcompose, hbearer⟩, hraised⟩
  · rintro ⟨token, ⟨request, hbody, composed, hcompose, hbearer⟩, hraised⟩
    exact ⟨request, hbody, composed, hcompose, token, hbearer, hraised⟩

end Evaluate

namespace OperationAware

variable {app : App} {req : Request}

/-- The request comes to authentication with this token. -/
def Presents (app : App) (req : Request) (token : String) : Prop :=
  ∃ request, body app req = .ok request ∧ bearer req = .ok token

/-- The request comes to its evaluator. -/
def Reaches (app : App) (req : Request) : Prop :=
  ∃ request, body app req = .ok request ∧ ∃ token, bearer req = .ok token ∧
    ∃ identity, authentication app req token = .ok identity ∧
    ∃ trust, producerTrust app req identity.1 = .ok trust ∧
    ∃ composed, composition app req request identity.1 identity.2 trust = .ok composed

theorem says_body : Raises (Stop.Says ["validation_failed"]) (body app req) := says_bodyGate _

theorem says_bearer : Raises (Stop.Says ["authentication_required"]) (bearer req) := says_bearerGate

theorem says_authentication (token : String) :
    Raises (Stop.Says ["authentication_failed"]) (authentication app req token) := says_authenticationGate app token

theorem says_producerTrust (subject : NormalizedSubject) :
    Raises (Stop.Says ["producer_certificate_rejected"]) (producerTrust app req subject) := by
  unfold producerTrust
  repeat' split
  all_goals first
    | exact raises_ok _
    | exact says_refuse ⟨_, List.mem_singleton_self _, rfl, rfl⟩
    | exact says_escape _ _

theorem says_composition (request : OperationAwareEvaluateRequest) (subject : NormalizedSubject)
    (identityContext : IdentityContext) (trust : OperationProducerTrust) :
    Raises (Stop.Says ["validation_failed", "internal_error"])
      (composition app req request subject identityContext trust) := by
  unfold composition
  repeat' split
  all_goals first
    | exact raises_ok _
    | exact says_refuse ⟨"validation_failed", by simp, rfl, rfl⟩
    | exact says_refuse ⟨"internal_error", by simp, rfl, rfl⟩
    | exact says_escape _ _

theorem says_presentEvaluator (subject : NormalizedSubject) :
    Raises (Stop.Says ["evaluator_unavailable"]) (presentEvaluator app req subject) := by
  unfold presentEvaluator
  split
  · exact raises_ok _
  · exact says_refuse ⟨_, List.mem_singleton_self _, rfl, rfl⟩

theorem says_decideScript (present : Bool) (a : Admitted) :
    StopsOnly (Exit.Says ["validation_failed", "evaluation_failed_closed"]) (decideScript app req present a) := by
  have hevaluated (outcome : Except PyExc OperationAwareEnforcementResult) :
      StopsOnly (Exit.Says ["validation_failed", "evaluation_failed_closed"])
        (evaluated req a.subject outcome).script := by
    refine says_script ?_
    rcases outcome with exc | result
    · simp only [evaluated]
      split
      · exact says_refuse ⟨_, by simp, rfl, rfl⟩
      · exact says_refuse ⟨_, by simp, rfl, rfl⟩
    · exact raises_ok result
  have hrecord (result : OperationAwareEnforcementResult) :
      StopsOnly (Exit.Says ["validation_failed", "evaluation_failed_closed"])
        (durableRecordScript req present result a.composed) := by
    intro exit hexit
    rcases (durableRecord_cases req present result a.composed).2 with hok | ⟨exc, hraised⟩
    · rw [hok] at hexit
      cases hexit
    · rw [hraised] at hexit
      cases hexit
      exact fun response h => by cases h
  refine (StopsOnly.perform _).bind fun _ _ => StopsOnly.bind ?_ fun outcome _ =>
    (hevaluated outcome).bind fun result _ => (hrecord result).bind fun _ _ => .pure _
  intro exit hexit
  unfold OperationAwareGatewayEvaluator.script at hexit
  split at hexit
  · cases hexit
  · cases hexit

theorem presentEvaluator_mapError_iff (subject : NormalizedSubject) :
    (presentEvaluator app req subject).mapError Stop.exit =
      .error (.answered (evaluatorUnavailable req.correlationId)) ↔ app.operationAwareEvaluator = none := by
  unfold presentEvaluator
  rcases app.operationAwareEvaluator with - | evaluator
  · exact iff_of_true rfl rfl
  · exact iff_of_false (fun h => by cases h) (fun h => by cases h)

theorem unavailable_iff (present : Bool) :
    (script app req present).result = .error (.answered (evaluatorUnavailable req.correlationId)) ↔
      Reaches app req ∧ app.operationAwareEvaluator = none := by
  have hcode : (evaluatorUnavailable req.correlationId).errorCode? = some "evaluator_unavailable" := rfl
  have hchain : (script app req present).result = .error (.answered (evaluatorUnavailable req.correlationId)) ↔
      ∃ request, body app req = .ok request ∧ ∃ token, bearer req = .ok token ∧
        ∃ identity, authentication app req token = .ok identity ∧
        ∃ trust, producerTrust app req identity.1 = .ok trust ∧
        ∃ composed, composition app req request identity.1 identity.2 trust = .ok composed ∧
          app.operationAwareEvaluator = none :=
    (admission_stops_iff (by simp [hcode]) (says_decideScript present)).trans <|
    (passes_iff says_body (by simp [hcode]) _).trans <| exists_congr fun request => and_congr_right fun _ =>
    (passes_iff says_bearer (by simp [hcode]) _).trans <| exists_congr fun token => and_congr_right fun _ =>
    (passes_iff (says_authentication token) (by simp [hcode]) _).trans <|
    exists_congr fun identity => and_congr_right fun _ =>
    (passes_iff (says_producerTrust identity.1) (by simp [hcode]) _).trans <|
    exists_congr fun trust => and_congr_right fun _ =>
    (passes_iff (says_composition request identity.1 identity.2 trust) (by simp [hcode]) _).trans <|
    exists_congr fun _ => and_congr_right fun _ =>
    (stops_iff [] (by simp) fun _ => .pure _).trans (presentEvaluator_mapError_iff identity.1)
  rw [hchain]
  constructor
  · rintro ⟨request, hbody, token, hbearer, identity, hidentity, trust, htrust, composed, hcomposed, hnone⟩
    exact ⟨⟨request, hbody, token, hbearer, identity, hidentity, trust, htrust, composed, hcomposed⟩, hnone⟩
  · rintro ⟨⟨request, hbody, token, hbearer, identity, hidentity, trust, htrust, composed, hcomposed⟩, hnone⟩
    exact ⟨request, hbody, token, hbearer, identity, hidentity, trust, htrust, composed, hcomposed, hnone⟩

theorem notConfigured_iff (present : Bool) :
    (script app req present).result =
        .error (.answered (authenticationFailed "Authentication not configured" req.correlationId)) ↔
      ∃ token, Presents app req token ∧ ∃ exc, app.authenticate app.authMode token = .error exc ∧ ¬ exc.IsOther := by
  have hcode : (authenticationFailed "Authentication not configured" req.correlationId).errorCode? =
      some "authentication_failed" := rfl
  have hchain : (script app req present).result =
        .error (.answered (authenticationFailed "Authentication not configured" req.correlationId)) ↔
      ∃ request, body app req = .ok request ∧ ∃ token, bearer req = .ok token ∧
        ∃ exc, app.authenticate app.authMode token = .error exc ∧ ¬ exc.IsOther := by
    refine (admission_stops_iff (by simp [hcode]) (says_decideScript present)).trans <|
    (passes_iff says_body (by simp [hcode]) _).trans <| exists_congr fun request => and_congr_right fun _ =>
    (passes_iff says_bearer (by simp [hcode]) _).trans <| exists_congr fun token => and_congr_right fun _ =>
      (stops_iff ["producer_certificate_rejected", "validation_failed", "internal_error", "evaluator_unavailable"]
        (by simp [hcode]) fun identity => ?_).trans authenticationGate_notConfigured_iff
    exact (says_mono (by simp) (says_script (says_producerTrust identity.1))).bind fun trust _ =>
      (says_mono (by simp) (says_script (says_composition request identity.1 identity.2 trust))).bind fun _ _ =>
      (says_mono (by simp) (says_script (says_presentEvaluator identity.1))).bind fun _ _ => .pure _
  rw [hchain]
  constructor
  · rintro ⟨request, hbody, token, hbearer, hraised⟩
    exact ⟨token, ⟨request, hbody, hbearer⟩, hraised⟩
  · rintro ⟨token, ⟨request, hbody, hbearer⟩, hraised⟩
    exact ⟨request, hbody, token, hbearer, hraised⟩

end OperationAware

/-! ## Both endpoints -/

/-- The request comes to authentication with this token. -/
def Endpoint.Presents : Endpoint → App → Request → String → Prop
  | .evaluate => Evaluate.Presents
  | .operationAware => OperationAware.Presents

/-- Every gate before the evaluator lets the request through. -/
def Endpoint.Reaches : Endpoint → App → Request → Prop
  | .evaluate => Evaluate.Reaches
  | .operationAware => OperationAware.Reaches

def Endpoint.hasEvaluator (app : App) : Endpoint → Bool
  | .evaluate => app.evaluator.isSome
  | .operationAware => app.operationAwareEvaluator.isSome

/-- What the last line of a handler returns is no error response. -/
theorem Endpoint.errorCode?_of_ok {endpoint : Endpoint} {app : App} {req : Request} {present : Bool}
    {response : JSONResponse} (h : (endpoint.script app req present).result = .ok response) :
    response.errorCode? = none := by
  cases endpoint with
  | evaluate =>
    simp only [Endpoint.script, Evaluate.script, Evaluate.decideScript, result_bind, Except.bind_eq_ok] at h
    obtain ⟨a, -, -, -, -, -, outcome, -, decision, -, hresponse⟩ := h
    cases hresponse
    exact decisionResponse_errorCode? decision req.correlationId
  | operationAware =>
    simp only [Endpoint.script, OperationAware.script, OperationAware.decideScript, result_bind,
      Except.bind_eq_ok] at h
    obtain ⟨a, -, -, -, outcome, -, result, -, -, -, hresponse⟩ := h
    cases hresponse
    exact operationAwareEvaluateResponse_errorCode? _ result

theorem Endpoint.unavailable_iff (endpoint : Endpoint) (app : App) (req : Request) (present : Bool) :
    answerOf (endpoint.script app req present).result = .ok (evaluatorUnavailable req.correlationId) ↔
      endpoint.Reaches app req ∧ endpoint.hasEvaluator app = false := by
  rw [answerOf_eq_iff (show (evaluatorUnavailable req.correlationId).errorCode? =
    some "evaluator_unavailable" from rfl) fun response h => errorCode?_of_ok h]
  cases endpoint with
  | evaluate =>
    refine Evaluate.unavailable_iff.trans (and_congr_right fun _ => ?_)
    exact (Option.isNone_iff_eq_none.symm.trans (by simp [hasEvaluator]))
  | operationAware =>
    refine (OperationAware.unavailable_iff present).trans (and_congr_right fun _ => ?_)
    exact (Option.isNone_iff_eq_none.symm.trans (by simp [hasEvaluator]))

theorem Endpoint.notConfigured_iff (endpoint : Endpoint) (app : App) (req : Request) (present : Bool) :
    answerOf (endpoint.script app req present).result =
        .ok (authenticationFailed "Authentication not configured" req.correlationId) ↔
      ∃ token, endpoint.Presents app req token ∧
        ∃ exc, app.authenticate app.authMode token = .error exc ∧ ¬ exc.IsOther := by
  rw [answerOf_eq_iff (show (authenticationFailed "Authentication not configured" req.correlationId).errorCode? =
    some "authentication_failed" from rfl) fun response h => errorCode?_of_ok h]
  cases endpoint with
  | evaluate => exact Evaluate.notConfigured_iff
  | operationAware => exact OperationAware.notConfigured_iff present

/-! ## The started gateway -/

/-- Whether the verifier of the mode is there. -/
def AppState.hasVerifier {P : Parts} (app : AppState P) : AuthMode → Bool
  | .oidc => app.verifier.isSome
  | .basisLocalToken => app.basisLocalTokenTrustConfig.isSome

/-- The same, of the verifiers. -/
def TokenVerifiers.has {JWK : Type} {tables : UnicodeTables} (config : TokenVerifiers JWK tables) : AuthMode → Bool
  | .oidc => config.oidc.isSome
  | .basisLocalToken => config.basisLocal.isSome

section

variable {P : Parts}

theorem hasVerifier_iff (steps : StartupSteps P) (mode : AuthMode) :
    (freshStartup steps).app.hasVerifier mode = true ↔ componentReady (freshStartup steps) mode.component := by
  cases mode with
  | oidc => exact verifier_isSome steps
  | basisLocalToken => exact basisLocalTokenTrustConfig_isSome steps

/-- The configuration that serves is the one that loaded. -/
theorem config_freshStartup {steps : StartupSteps P} {config : GatewayConfig} (h : steps.loadConfig = .ok config) :
    (freshStartup steps).app.config = some config := by
  have hsome : (freshStartup steps).app.config.isSome = true := by
    rw [freshStartup_eq, StartupPlan.attribute_isSome (n := .configuration) (·.config) ?_ ?_ ?_ rfl]
    · rw [StartupSteps.plan_of_ok h]
      simp [StartupPlan.reachedStages, Stage.all, StartupPlan.completed, Stage.neededBy, StartupSteps.outcomeOf]
    · intro u hu app
      rw [outcome_plan h] at hu
      rw [(StartupSteps.verifiers_of_outcomeOf hu app).1, if_pos rfl, Option.isSome_some]
    · intro m u hm hu app
      rw [outcome_plan h] at hu
      rw [(StartupSteps.verifiers_of_outcomeOf hu app).1, if_neg]
      rintro rfl
      exact Nat.lt_irrefl _ hm
    · intro m u hm hu app hnone
      rw [outcome_plan h] at hu
      rw [(StartupSteps.verifiers_of_outcomeOf hu app).1, if_neg hm, hnone]
  obtain ⟨served, hserved⟩ := Option.isSome_iff_exists.1 hsome
  have hinv : ∀ served, (freshStartup steps).app.config = some served → served = config := by
    rw [freshStartup_eq]
    refine app_run_invariant (I := fun app => ∀ served, app.config = some served → served = config)
      (fun served h => by cases h) fun {n u} hout app happ served hserved => ?_
    rw [outcome_plan h] at hout
    rw [(StartupSteps.verifiers_of_outcomeOf hout app).1] at hserved
    split at hserved
    · exact (Option.some.inj hserved).symm
    · exact happ served hserved
  rw [hserved, hinv served hserved]

/-- After a startup that succeeded, a component is ready when the configuration needs its stage. -/
theorem componentReady_of_succeed {steps : StartupSteps P} {config : GatewayConfig} (hs : steps.Succeed config)
    {n : Stage} {c : String} (hn : c ∈ n.provides) (hc : c ≠ "configuration_loaded") :
    componentReady (freshStartup steps) c ↔ n.neededBy config = true := by
  rw [componentReady_iff steps hn hc, ← enabled_plan hs.loaded]
  have hfailure := StartupPlan.allComplete_iff.1 ((allComplete_plan_iff steps).2 ⟨config, hs⟩)
  exact ⟨fun h => (StartupPlan.enabled_of_completed h).1,
    fun h => StartupPlan.completed_of_failure_none hfailure n.mem_all h⟩

end

/-- Whether the configuration enables the endpoint's evaluator. -/
def Endpoint.enabledBy (config : GatewayConfig) : Endpoint → Bool
  | .evaluate => truthy config.policyPath
  | .operationAware => config.operationAwareEnabled

/-- Whether the configuration has what the verifier of its mode is built from. -/
def GatewayConfig.authenticates (config : GatewayConfig) : Bool :=
  config.authMode = .basisLocalToken || truthy config.oidcIssuer

section

variable {JWK DateTime Engine Bundle : Type} (lib : DocumentedTokenLibrary JWK DateTime) (outside : App)

/-- Authentication raises `AuthNotConfiguredError` when the verifier of the mode is missing, and only then. -/
theorem raises_notConfigured_iff (config : TokenVerifiers JWK lib.tables) (mode : AuthMode) (token : String) :
    (∃ exc, authenticate (config.verifiers lib.toTokenLibrary) mode token = .error exc ∧ ¬ exc.IsOther) ↔
      config.has mode = false := by
  have hraised {exc : PyExc} (h : exc.cls = .authNotConfiguredError) : ¬ exc.IsOther := by
    simp [PyExc.IsOther, PyExc.isInstance, h]
  obtain ⟨verifier, trust⟩ := config
  cases mode with
  | oidc =>
    cases verifier with
    | none => exact iff_of_true ⟨_, rfl, hraised rfl⟩ rfl
    | some verifier =>
      have hother : Raises PyExc.IsOther (do mapClaims (← verifier.verify lib.jwt lib.tables.printable token)) := by
        refine raises_bind_iff.2 ⟨other_oidcVerify lib verifier token, fun claims _ => ?_⟩
        rw [mapClaims]
        repeat' split
        all_goals first
          | exact raises_ok _
          | exact raises_error_iff.2 rfl
      refine iff_of_false ?_ (by simp [TokenVerifiers.has])
      rintro ⟨exc, hexc, hnot⟩
      exact hnot (hother exc hexc)
  | basisLocalToken =>
    cases trust with
    | none => exact iff_of_true ⟨_, rfl, hraised rfl⟩ rfl
    | some trust =>
      refine iff_of_false ?_ (by simp [TokenVerifiers.has])
      rintro ⟨exc, hexc, hnot⟩
      simp only [authenticate, TokenVerifiers.verifiers, Option.map_some] at hexc
      cases hverify : BasisLocalToken.verifyBasisLocalIdentityToken lib.toTokenLibrary trust token with
      | error exc' =>
        rw [hverify] at hexc
        cases hexc
        exact hnot (BasisLocalToken.other_verifyBasisLocalIdentityToken token exc hverify)
      | ok result =>
        rw [hverify] at hexc
        cases hexc

theorem hasEvaluator_servedBy (steps : StartupSteps (gatewayParts JWK lib.tables Engine Bundle))
    (endpoint : Endpoint) :
    endpoint.hasEvaluator (outside.servedBy lib.toTokenLibrary (freshStartup steps).app) = true ↔
      componentReady (freshStartup steps) endpoint.evaluatorComponent := by
  cases endpoint with
  | evaluate => exact evaluator_isSome steps
  | operationAware => exact operationAwareEvaluator_isSome steps

/-- **Answers tell what startup did.** A gateway is started on a fresh process, whatever each step of its
startup returns or raises, and serves any requests that are routed to a handler, in any interleaving. Apart from
the answer of the strict-mode check, a request is answered "Evaluator not initialized" exactly when it came to its
evaluator and the component of that evaluator is not ready, and "Authentication not configured" exactly when it
came to authentication with a token and the component of the mode's verifier is not ready. Where every step
succeeded, these components are ready exactly as the configuration asks for them. -/
theorem answers_tell_startup (steps : StartupSteps (gatewayParts JWK lib.tables Engine Bundle))
    (pipeline : AuditPipeline) (requests : List (Endpoint × Request)) (schedule : List Nat) :
    let started := freshStartup steps
    let app := outside.servedBy lib.toTokenLibrary started.app
    let final := (handlers app).run (boot (started.serving pipeline) requests) schedule
    (∀ task answer asked, (task, .done (answer, asked)) ∈ final.tasks →
      answer = .ok (auditFailClosed task.2.correlationId) ∨
      (answer = .ok (evaluatorUnavailable task.2.correlationId) ↔
        task.1.Reaches app task.2 ∧ ¬ componentReady started task.1.evaluatorComponent) ∧
      (answer = .ok (authenticationFailed "Authentication not configured" task.2.correlationId) ↔
        (∃ token, task.1.Presents app task.2 token) ∧ ¬ componentReady started app.authMode.component)) ∧
    ∀ config, steps.Succeed config →
      (∀ endpoint : Endpoint, componentReady started endpoint.evaluatorComponent ↔ endpoint.enabledBy config = true) ∧
      (componentReady started app.authMode.component ↔ config.authenticates = true) := by
  intro started app final
  refine ⟨fun task answer asked hm => ?_, fun config hs => ⟨fun endpoint => ?_, ?_⟩⟩
  · refine (outcome_of_run hm).imp (fun hsuspended => congrArg Prod.fst hsuspended.2) fun hscripted => ?_
    obtain ⟨hanswer, -⟩ := Prod.mk.inj hscripted
    rw [hanswer, Endpoint.unavailable_iff, Endpoint.notConfigured_iff]
    refine ⟨and_congr_right fun _ => ?_, ?_⟩
    · rw [← hasEvaluator_servedBy lib outside steps, Bool.not_eq_true]
    · have hraised (token : String) : (∃ exc, app.authenticate app.authMode token = .error exc ∧ ¬ exc.IsOther) ↔
          started.app.hasVerifier app.authMode = false := by
        refine (raises_notConfigured_iff lib ⟨started.app.verifier, started.app.basisLocalTokenTrustConfig⟩
          app.authMode token).trans ?_
        cases app.authMode with
        | oidc => exact Iff.rfl
        | basisLocalToken => exact Iff.rfl
      simp only [hraised, exists_and_right]
      rw [← hasVerifier_iff steps, Bool.not_eq_true]
  · cases endpoint with
    | evaluate =>
      exact componentReady_of_succeed hs (by simp [Stage.provides, Endpoint.evaluatorComponent] :
        _ ∈ Stage.evaluator.provides) (by decide)
    | operationAware =>
      exact componentReady_of_succeed hs (by simp [Stage.provides, Endpoint.evaluatorComponent] :
        _ ∈ Stage.preflight.provides) (by decide)
  · have hmode : app.authMode = config.authMode := by
      show ((freshStartup steps).app.config.map (·.authMode)).getD .oidc = _
      rw [config_freshStartup hs.loaded]
      rfl
    rw [hmode]
    cases hauth : config.authMode with
    | oidc =>
      rw [componentReady_of_succeed hs (by simp [Stage.provides, AuthMode.component] : _ ∈ Stage.oidc.provides)
        (by decide)]
      simp [Stage.neededBy, GatewayConfig.authenticates, hauth]
    | basisLocalToken =>
      rw [componentReady_of_succeed hs (by simp [Stage.provides, AuthMode.component] :
        _ ∈ Stage.basisLocalToken.provides) (by decide)]
      simp [Stage.neededBy, GatewayConfig.authenticates, hauth]

end

end BasisGateway
