/-
What an unauthenticated caller of the operation-aware endpoint learns. The
body is read and checked against its schema before the token is looked at,
so a body that fails its schema is answered 400, whoever sent it; any other
body is answered 401 with the same words.
-/
import BasisGateway.AuditTrail
import BasisGateway.KernelCalls

namespace BasisGateway

open Script

/-- No token can be extracted, or authentication raises on the one that is. -/
def Unauthenticated (app : App) (authorization : Option String) : Prop :=
  ∀ token, extractBearerToken authorization = .ok token →
    ∃ exc, app.authenticate app.authMode token = .error exc

/-- The body passes its schema. -/
def SchemaValid (app : App) (req : Request) : Prop :=
  ∃ bytes request, req.body = .ok bytes ∧ app.parseOperationAwareEvaluateRequest bytes = .ok request

/-- The same request with another `Authorization` header. -/
def Request.withAuthorization (req : Request) (authorization : Option String) : Request :=
  { req with authorization := authorization }

namespace OperationAware

variable {app : App} {req : Request}

theorem schemaValid_of_body {request : OperationAwareEvaluateRequest} (h : body app req = .ok request) :
    SchemaValid app req := by
  obtain ⟨bytes, hbytes, hparse⟩ := bodyGate_ok h
  exact ⟨bytes, request, hbytes, hparse⟩

theorem body_of_schemaValid (h : SchemaValid app req) : ∃ request, body app req = .ok request := by
  obtain ⟨bytes, request, hbytes, hparse⟩ := h
  exact ⟨request, bodyGate_of_parse hbytes hparse⟩

theorem not_callerIs (h : Unauthenticated app req.authorization) (subject : NormalizedSubject) :
    ¬ CallerIs app req subject := by
  rintro ⟨token, identityContext, htoken, hcaller⟩
  obtain ⟨exc, hexc⟩ := h token htoken
  rw [hexc] at hcaller
  cases hcaller

/-- The code and the message an unauthenticated caller is told. -/
def unauthenticatedAnswer (app : App) (authorization : Option String) : String × String :=
  match extractBearerToken authorization with
  | .error exc => ("authentication_required", exc.msg)
  | .ok token => match app.authenticate app.authMode token with
    | .error exc => ("authentication_failed", (authenticationFailure exc).2)
    | .ok _ => ("authentication_failed", "")

/-- An unauthenticated request with a schema-valid body stops at its token, or at authentication. -/
theorem answer_of_unauthenticated (h : Unauthenticated app req.authorization) (hvalid : SchemaValid app req)
    (present : Bool) : answerOf (script app req present).result =
      .ok (errorResponse 401 (unauthenticatedAnswer app req.authorization).1
        (some (unauthenticatedAnswer app req.authorization).2) req.correlationId) := by
  have hanswer {stop : Stop} {event : AuditEvent} {response : JSONResponse} (href : stop.Refuses event response) :
      answerOf (.error stop.exit) = .ok response := by
    rw [href.2]
    rfl
  unfold script unauthenticatedAnswer
  rcases admissionScript_cases app req with ⟨a, ha, -⟩ | ⟨before, stop, hstop, hS⟩
  · exact absurd ⟨a.token, a.identityContext, bearerGate_ok ha.bearer, authenticationGate_ok ha.authentication⟩
      (not_callerIs h a.subject)
  rw [hS, bind_error]
  cases hstop with
  | body hb =>
    obtain ⟨request, hb'⟩ := body_of_schemaValid hvalid
    rw [hb'] at hb
    cases hb
  | bearer request hbody ht =>
    obtain ⟨exc, he, href⟩ := bearerGate_error ht
    rw [he]
    exact hanswer href
  | authentication request token hbody ht ha =>
    obtain ⟨exc, he, href⟩ := authenticationGate_error ha
    simp only [bearerGate_ok ht, he]
    exact hanswer href
  | producerTrust request subject identityContext hid _ | evaluator request subject identityContext hid _ =>
    obtain ⟨token, hcaller⟩ := hid.caller
    exact absurd ⟨token, identityContext, hcaller⟩ (not_callerIs h subject)
  | composition request subject identityContext trust hid _ =>
    obtain ⟨token, hcaller⟩ := hid.caller
    exact absurd ⟨token, identityContext, hcaller⟩ (not_callerIs h subject)

/-- A body that fails its schema is the end of the request. -/
theorem script_of_invalid (hinvalid : ¬ SchemaValid app req) :
    ∃ stop response, body app req = .error stop ∧ answerOf (.error stop.exit) = .ok response ∧
      response.statusCode = 400 ∧
      ∀ present, script app req present = ⟨[.record .bodyRead] ++ stop.effects, .error stop.exit⟩ := by
  rcases hb : body app req with stop | request
  · obtain ⟨reason, message, -, hexit⟩ := bodyGate_error hb
    refine ⟨stop, validationFailed message req.correlationId, rfl, by rw [hexit]; rfl, rfl, fun present => ?_⟩
    simp only [script, admissionScript, perform_bind, Gate.script, hb, bind_error, List.singleton_append]
  · exact absurd (schemaValid_of_body hb) hinvalid

end OperationAware

/-- A request that is not answered by the strict-mode check is answered as its script says. -/
theorem Endpoint.answer_of_begun {endpoint : Endpoint} {app : App} {req : Request} {w : World}
    (h : (endpoint.begin app req w).1 = none) (between : World → World) :
    (endpoint.serve app req between w).answer = answerOf (endpoint.script app req
      (between (endpoint.begin app req w).2).writer.isSome).result := by
  obtain ⟨w₁, hw₁⟩ : ∃ w₁, endpoint.begin app req w = (none, w₁) := ⟨_, Prod.ext h rfl⟩
  rw [serve_of_begin hw₁, hw₁]

/-- **Unauthenticated callers.** For any app, requests and shared states, whatever runs while a body is
awaited, when the strict-mode check did not answer. For each `Authorization` header that does not
authenticate there are a code and a message with which every schema-valid body is answered 401,
whatever else it says; and a body that fails its schema is answered 400, the same whatever the
`Authorization` header, without authentication being asked. -/
theorem unauthenticated_callers (app : App) :
    (∀ authorization, Unauthenticated app authorization → ∃ error message, ∀ req between w,
      req.authorization = authorization → (Endpoint.operationAware.begin app req w).1 = none →
      SchemaValid app req → (Endpoint.operationAware.serve app req between w).answer =
        .ok (errorResponse 401 error (some message) req.correlationId)) ∧
    ∀ req between w, (Endpoint.operationAware.begin app req w).1 = none → ¬ SchemaValid app req →
      ∃ response, response.statusCode = 400 ∧ ∀ authorization,
        let served := Endpoint.operationAware.serve app (req.withAuthorization authorization) between w
        served.answer = .ok response ∧ Call.authenticate ∉ calls served.observed := by
  refine ⟨fun authorization h => ?_, fun req between w hbegun hinvalid => ?_⟩
  · refine ⟨(OperationAware.unauthenticatedAnswer app authorization).1,
      (OperationAware.unauthenticatedAnswer app authorization).2, fun req between w hauth hbegun hvalid => ?_⟩
    subst hauth
    rw [Endpoint.answer_of_begun hbegun]
    exact OperationAware.answer_of_unauthenticated h hvalid _
  · obtain ⟨stop, response, hb, hanswer, h400, -⟩ := OperationAware.script_of_invalid hinvalid
    refine ⟨response, h400, fun authorization => ?_⟩
    have hbegun' : (Endpoint.operationAware.begin app (req.withAuthorization authorization) w).1 = none := hbegun
    have hinvalid' : ¬ SchemaValid app (req.withAuthorization authorization) := hinvalid
    obtain ⟨stop', -, hb', -, -, hscript⟩ := OperationAware.script_of_invalid hinvalid'
    obtain rfl : stop' = stop := Except.error.inj (hb'.symm.trans hb)
    intro served
    refine ⟨?_, ?_⟩
    · rw [show served.answer = _ from Endpoint.answer_of_begun hbegun' between]
      show answerOf (OperationAware.script app _ _).result = _
      rw [hscript]
      exact hanswer
    · intro hmem
      obtain ⟨present, hscripted⟩ := Endpoint.mem_calls_serve hmem
      have heffects : callsOf (OperationAware.script app (req.withAuthorization authorization) present).effects =
          [.bodyRead] := by
        rw [hscript]
        simp
      rw [show Endpoint.operationAware.script app (req.withAuthorization authorization) present =
        OperationAware.script app (req.withAuthorization authorization) present from rfl, heffects] at hscripted
      simp at hscripted

/-- A body that fails its schema is answered 400 though there is no token. -/
theorem schema_checked_first :
    let req := bearerRequest.withAuthorization none
    Unauthenticated permissiveApp req.authorization ∧
    (Endpoint.operationAware.begin permissiveApp req acceptingWorld).1 = none ∧
    (Endpoint.operationAware.serve permissiveApp req id acceptingWorld).answer.map (·.statusCode) =
      .ok 400 := by
  refine ⟨fun token h => ?_, by decide +kernel, by decide +kernel⟩
  cases h

end BasisGateway
