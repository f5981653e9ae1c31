/-
What the handlers can do. The part of a handler after the `await` follows a
script: its effects on the shared world and its answer are fixed by the
request, the application and whether there is an audit writer. The scripts
are the handlers' own steps in the same order, without the world.

From the scripts come the two case lemmas everything else is read off:
admission either stops at a gate or reaches the evaluator with every gate
passed, and an admitted request calls its kernel at most once.
-/
import BasisGateway.Api.Routes

namespace BasisGateway

open Prog Script

/-! ## Gates -/

/-- What a stop does to the world. -/
def Stop.effects : Stop → List Effect
  | .refuse refusal => [.emit refusal.event]
  | .escape _ => []

/-- How a stop ends the handler. -/
def Stop.exit : Stop → Exit
  | .refuse refusal => .answered refusal.response
  | .escape exc => .raised exc

def Gate.script {α : Type} : Gate α → Script Effect Exit α
  | .ok a => pure a
  | .error stop => ⟨stop.effects, .error stop.exit⟩

theorem Gate.pass_scripted (present : Bool) {α : Type} (gate : Gate α) :
    Scripted present (Gate.pass gate) (Gate.script gate) := by
  rcases gate with (refusal | exc) | a
  · exact (Follows.perform (emit_settles refusal.event)).bind HasWriter.act
      fun _ => Follows.stop (.answered refusal.response)
  · exact .stop _
  · exact .pure a

theorem Stop.call?_effects (stop : Stop) : stop.effects.filterMap Effect.call? = [] := by
  cases stop <;> rfl

/-- A stop that emits this event and gives this answer. -/
def Stop.Refuses (stop : Stop) (event : AuditEvent) (response : JSONResponse) : Prop :=
  stop.effects = [.emit event] ∧ stop.exit = .answered response

theorem refuses_of_refuse {α : Type} {event : AuditEvent} {response : JSONResponse}
    {governed : response.isRefusal = true} {stop : Stop}
    (h : (refuse event response governed : Gate α) = .error stop) : stop.Refuses event response := by
  cases h
  exact ⟨rfl, rfl⟩

/-- What a stop answers is a refusal. -/
theorem Stop.isRefusal_answer {stop : Stop} {response : JSONResponse}
    (h : answerOf (.error stop.exit) = .ok response) : response.isRefusal = true := by
  cases stop with
  | refuse refusal => cases h; exact refusal.governed
  | escape exc => cases h

/-- How the steps before the evaluator end: at it, or at a gate. -/
inductive Admission {α : Type} (Passed : α → Prop) (S : Script Effect Exit α) : Prop
  | through (a : α) (passed : Passed a) (h : S = ⟨[.record .bodyRead, .record .authenticate], .ok a⟩)
  | stopped (before : List Effect) (stop : Stop)
      (hbefore : before = [.record .bodyRead] ∨ before = [.record .bodyRead, .record .authenticate])
      (h : S = ⟨before ++ stop.effects, .error stop.exit⟩)

section SharedSteps

variable {α : Type} {req : Request}

theorem bodyGate_ok {parse : Bytes → Except PyExc α} {failed : String → AuditEvent} {parsed : α}
    (h : bodyGate req parse failed = .ok parsed) :
    ∃ bytes, req.body = .ok bytes ∧ parse bytes = .ok parsed := by
  unfold bodyGate at h
  split at h
  next parsed' hp =>
    cases h
    rcases hb : req.body with exc | bytes
    · rw [hb] at hp; cases hp
    · rw [hb] at hp; exact ⟨bytes, rfl, hp⟩
  next => split at h <;> cases h

theorem bodyGate_of_parse {parse : Bytes → Except PyExc α} {failed : String → AuditEvent} {bytes : Bytes} {parsed : α}
    (hbytes : req.body = .ok bytes) (hparse : parse bytes = .ok parsed) :
    bodyGate req parse failed = .ok parsed := by
  simp only [bodyGate, hbytes, Except.bind, hparse]

theorem bodyGate_error {parse : Bytes → Except PyExc α} {failed : String → AuditEvent} {stop : Stop}
    (h : bodyGate req parse failed = .error stop) : ∃ reason message,
      stop.Refuses (failed reason) (validationFailed message req.correlationId) := by
  unfold bodyGate at h
  split at h
  next => cases h
  next exc _ =>
    split at h
    next => exact ⟨bodyFailureReason exc, validationMessage exc, refuses_of_refuse h⟩
    next => exact ⟨Reason.malformedBody, "Malformed request body", refuses_of_refuse h⟩

theorem bearerGate_ok {failed : String → AuditEvent} {token : String}
    (h : bearerGate req failed = .ok token) : extractBearerToken req.authorization = .ok token := by
  unfold bearerGate at h
  split at h
  next => rename_i ht; cases h; exact ht
  next => split at h <;> cases h

theorem bearerGate_of_extract {failed : String → AuditEvent} {token : String}
    (h : extractBearerToken req.authorization = .ok token) : bearerGate req failed = .ok token := by
  simp only [bearerGate, h]

/-- Extraction raises nothing that is not caught. -/
theorem bearerGate_error {failed : String → AuditEvent} {stop : Stop} (h : bearerGate req failed = .error stop) :
    ∃ exc, extractBearerToken req.authorization = .error exc ∧
      stop.Refuses (failed Reason.missingToken) (authenticationRequired exc.msg req.correlationId) := by
  unfold bearerGate at h
  split at h
  next => cases h
  next exc he =>
    have hcaught : exc.isInstance .tokenExtractionError = true := by
      simp [PyExc.isInstance, extractBearerToken_error he]
    rw [if_pos (.inl hcaught)] at h
    exact ⟨exc, he, refuses_of_refuse h⟩

theorem authenticationGate_ok {app : App} {token : String} {failed : String → AuditEvent}
    {identity : NormalizedSubject × IdentityContext}
    (h : authenticationGate app req token failed = .ok identity) :
    app.authenticate app.authMode token = .ok identity := by
  unfold authenticationGate at h
  split at h
  next => rename_i ha; cases h; exact ha
  next =>
    split at h
    next => cases h
    next => split at h <;> cases h

theorem authenticationGate_of_caller {app : App} {token : String} {failed : String → AuditEvent}
    {identity : NormalizedSubject × IdentityContext} (h : app.authenticate app.authMode token = .ok identity) :
    authenticationGate app req token failed = .ok identity := by
  simp only [authenticationGate, h]

/-- The reason and the message of a caller who is not authenticated. -/
def authenticationFailure (exc : PyExc) : String × String :=
  if exc.isInstance .authNotConfiguredError then
    (Reason.verifierNotConfigured, "Authentication not configured")
  else if exc.isInstance .subjectMappingError then
    (Reason.identityNormalizationFailed, "Identity normalization failed")
  else (Reason.invalidToken, "Token verification failed")

/-- Nothing that authentication raises is let through, and only its class is told. -/
theorem authenticationGate_error {app : App} {token : String} {failed : String → AuditEvent} {stop : Stop}
    (h : authenticationGate app req token failed = .error stop) :
    ∃ exc, app.authenticate app.authMode token = .error exc ∧
      stop.Refuses (failed (authenticationFailure exc).1)
        (authenticationFailed (authenticationFailure exc).2 req.correlationId) := by
  unfold authenticationGate at h
  split at h
  next => cases h
  next exc he =>
    refine ⟨exc, he, ?_⟩
    unfold authenticationFailure
    split at h
    next hc =>
      rw [if_pos hc]
      exact refuses_of_refuse h
    next hc =>
      rw [if_neg hc]
      split at h
      next hc =>
        rw [if_pos hc]
        exact refuses_of_refuse h
      next hc =>
        rw [if_neg hc]
        exact refuses_of_refuse h

end SharedSteps

/-! ## `POST /v1/evaluate` -/

namespace Evaluate

variable (app : App) (req : Request)

/-- Steps 1 to 5, as a script. -/
def admissionScript : Script Effect Exit Admitted := do
  perform (.record .bodyRead)
  let request ← (body app req).script
  let composed ← (compose app req request).script
  let token ← (bearer req).script
  perform (.record .authenticate)
  let identity ← (authentication app req token).script
  let evaluator ← (presentEvaluator app req identity.1).script
  pure { request, composed, token, subject := identity.1, identityContext := identity.2, evaluator }

/-- Steps 7 to 9, as a script. -/
def decideScript (a : Admitted) : Script Effect Exit JSONResponse := do
  perform (.emit (a.receipt req))
  perform (.record .evaluator)
  let outcome ← a.evaluator.script app.models req.readings (a.input req)
  let decision ← (decided req a.evaluator a.subject outcome).script
  pure (decisionResponse decision req.correlationId)

def script : Script Effect Exit JSONResponse := admissionScript app req >>= decideScript app req

variable (present : Bool)

theorem admission_scripted : Scripted present (admission app req) (admissionScript app req) :=
  (Follows.perform (record_settles .bodyRead)).bind HasWriter.act fun _ =>
  (Gate.pass_scripted present (body app req)).bind HasWriter.act fun request =>
  (Gate.pass_scripted present (compose app req request)).bind HasWriter.act fun _ =>
  (Gate.pass_scripted present (bearer req)).bind HasWriter.act fun token =>
  (Follows.perform (record_settles .authenticate)).bind HasWriter.act fun _ =>
  (Gate.pass_scripted present (authentication app req token)).bind HasWriter.act fun identity =>
  (Gate.pass_scripted present (presentEvaluator app req identity.1)).bind HasWriter.act fun _ => .pure _

theorem decide_scripted (a : Admitted) : Scripted present (decide app req a) (decideScript app req a) :=
  (Follows.perform (emit_settles (a.receipt req))).bind HasWriter.act fun _ =>
  (Follows.perform (record_settles .evaluator)).bind HasWriter.act fun _ =>
  (a.evaluator.evaluate_scripted present app.models req.readings (a.input req)).bind HasWriter.act
    fun outcome =>
  (Gate.pass_scripted present (decided req a.evaluator a.subject outcome)).bind HasWriter.act
    fun _ => .pure _

theorem resume_scripted : Scripted present (resume app req) (script app req) :=
  (admission_scripted app req present).bind HasWriter.act fun a => decide_scripted app req present a

variable {app req}

/-- The gates a request has passed when its kernel evaluator is called. -/
structure Passed (app : App) (req : Request) (a : Admitted) : Prop where
  body : ∃ bytes, req.body = .ok bytes ∧ app.parseEvaluateRequest bytes = .ok a.request
  reserved : reservedKeyCollisions a.request.context = []
  action : composeAction app.printable a.request.action a.request.resourceType = .ok a.composed.action
  resource : ∃ result, composeResourceId app.printable a.request.resourceType a.request.resourceId =
    .ok result ∧ a.composed.resourceId = result.resourceId
  token : extractBearerToken req.authorization = .ok a.token
  authenticated : app.authenticate app.authMode a.token = .ok (a.subject, a.identityContext)
  evaluator : app.evaluator = some a.evaluator

theorem compose_ok {request : EvaluateRequest} {composed : Composed}
    (h : compose app req request = .ok composed) :
    reservedKeyCollisions request.context = [] ∧
    composeAction app.printable request.action request.resourceType = .ok composed.action ∧
    ∃ result, composeResourceId app.printable request.resourceType request.resourceId = .ok result ∧
      composed.resourceId = result.resourceId := by
  simp only [compose] at h
  split at h
  next => cases h
  next hc =>
    split at h
    next => split at h <;> cases h
    next ha =>
      split at h
      next => split at h <;> cases h
      next hr =>
        cases h
        exact ⟨not_not.1 hc, ha, _, hr, rfl⟩

theorem presentEvaluator_ok {subject : NormalizedSubject} {evaluator : GatewayEvaluator}
    (h : presentEvaluator app req subject = .ok evaluator) : app.evaluator = some evaluator := by
  unfold presentEvaluator at h
  split at h
  next he => cases h; exact he
  next => cases h

/-- Every gate before the evaluator lets the request through. -/
structure Through (app : App) (req : Request) (a : Admitted) : Prop where
  body : Evaluate.body app req = .ok a.request
  compose : Evaluate.compose app req a.request = .ok a.composed
  bearer : Evaluate.bearer req = .ok a.token
  authentication : Evaluate.authentication app req a.token = .ok (a.subject, a.identityContext)
  evaluator : Evaluate.presentEvaluator app req a.subject = .ok a.evaluator

/-- The gate a request stops at, and what it did before. -/
inductive StopsAt (app : App) (req : Request) : List Effect → Stop → Prop
  | body {stop : Stop} (h : body app req = .error stop) : StopsAt app req [.record .bodyRead] stop
  | compose {stop : Stop} (request : EvaluateRequest) (hbody : body app req = .ok request)
      (h : compose app req request = .error stop) : StopsAt app req [.record .bodyRead] stop
  | bearer {stop : Stop} (h : bearer req = .error stop) : StopsAt app req [.record .bodyRead] stop
  | authentication {stop : Stop} (token : String) (h : authentication app req token = .error stop) :
      StopsAt app req [.record .bodyRead, .record .authenticate] stop
  | evaluator {stop : Stop} (token : String) (subject : NormalizedSubject)
      (identityContext : IdentityContext) (hbearer : bearer req = .ok token)
      (hidentity : authentication app req token = .ok (subject, identityContext))
      (h : presentEvaluator app req subject = .error stop) :
      StopsAt app req [.record .bodyRead, .record .authenticate] stop

/-- Admission goes through every gate, or stops at one. -/
theorem admissionScript_cases (app : App) (req : Request) :
    (∃ a, Through app req a ∧
      admissionScript app req = ⟨[.record .bodyRead, .record .authenticate], .ok a⟩) ∨
    ∃ before stop, StopsAt app req before stop ∧
      admissionScript app req = ⟨before ++ stop.effects, .error stop.exit⟩ := by
  unfold admissionScript
  rw [perform_bind]
  rcases hb : body app req with stop | request
  · exact .inr ⟨_, stop, .body hb, rfl⟩
  rcases hc : compose app req request with stop | composed
  · refine .inr ⟨_, stop, .compose request hb hc, ?_⟩
    simp only [Gate.script, hc, pure_eq, bind_ok, bind_error, List.nil_append, List.cons_append]
  rcases ht : bearer req with stop | token
  · refine .inr ⟨_, stop, .bearer ht, ?_⟩
    simp only [Gate.script, hc, pure_eq, bind_ok, bind_error, List.nil_append, List.cons_append]
  rcases ha : authentication app req token with stop | ⟨subject, identityContext⟩
  · refine .inr ⟨_, stop, .authentication token ha, ?_⟩
    simp only [Gate.script, hc, ha, pure_eq, bind_ok, bind_error, perform_bind, List.nil_append,
      List.cons_append]
  rcases he : presentEvaluator app req subject with stop | evaluator
  · refine .inr ⟨_, stop, .evaluator token subject identityContext ht ha he, ?_⟩
    simp only [Gate.script, hc, ha, he, pure_eq, bind_ok, bind_error, perform_bind, List.nil_append,
      List.cons_append]
  refine .inl ⟨{ request, composed, token, subject, identityContext, evaluator }, ⟨hb, hc, ht, ha, he⟩, ?_⟩
  simp only [Gate.script, hc, ha, he, pure_eq, bind_ok, perform_bind, List.nil_append, List.append_nil]

theorem StopsAt.before_cases {before : List Effect} {stop : Stop} (h : StopsAt app req before stop) :
    before = [.record .bodyRead] ∨ before = [.record .bodyRead, .record .authenticate] := by
  cases h with
  | body | compose | bearer => exact .inl rfl
  | authentication | evaluator => exact .inr rfl

/-- Admission stops at a gate, or has passed them all. -/
theorem admission_cases (app : App) (req : Request) :
    Admission (Passed app req) (admissionScript app req) := by
  rcases admissionScript_cases app req with ⟨a, ha, hS⟩ | ⟨before, stop, hstop, hS⟩
  · obtain ⟨hres, hact, hresource⟩ := compose_ok ha.compose
    exact .through a ⟨bodyGate_ok ha.body, hres, hact, hresource, bearerGate_ok ha.bearer,
      authenticationGate_ok ha.authentication, presentEvaluator_ok ha.evaluator⟩ hS
  · exact .stopped before stop hstop.before_cases hS

end Evaluate

/-! ## `POST /v1/evaluate/operation-aware` -/

namespace OperationAware

variable (app : App) (req : Request)

/-- Steps 1 to 6, as a script. -/
def admissionScript : Script Effect Exit Admitted := do
  perform (.record .bodyRead)
  let request ← (body app req).script
  let token ← (bearer req).script
  perform (.record .authenticate)
  let identity ← (authentication app req token).script
  let trust ← (producerTrust app req identity.1).script
  let composed ← (composition app req request identity.1 identity.2 trust).script
  let evaluator ← (presentEvaluator app req identity.1).script
  pure { request, token, subject := identity.1, identityContext := identity.2, trust, composed, evaluator }

/-- The event assembled for a completed evaluation is checked only when there is a writer. -/
def durableRecordScript (present : Bool) (result : OperationAwareEnforcementResult)
    (composed : ComposedOperationAwareInput) : Script Effect Exit Unit :=
  match result.auditEvidence with
  | none => perform (.emit (missingEvidenceEvent req.method req.path result.httpStatus composed))
  | some evidence =>
    if present then
      match assembleGatewayAuditEvent result evidence with
      | .error exc => stop (.raised exc)
      | .ok event =>
        perform (.emit (completedEvent req.method req.path result.httpStatus result composed evidence event))
    else pure ()

/-- Steps 7 to 9, as a script. -/
def decideScript (present : Bool) (a : Admitted) : Script Effect Exit JSONResponse := do
  perform (.record .evaluator)
  let outcome ← a.evaluator.script app.models app.printable req.readings a.composed
  let result ← (evaluated req a.subject outcome).script
  durableRecordScript req present result a.composed
  pure { statusCode := result.httpStatus, content := operationAwareEvaluateResponse result }

def script (present : Bool) : Script Effect Exit JSONResponse :=
  admissionScript app req >>= decideScript app req present

variable (present : Bool)

theorem admission_scripted : Scripted present (admission app req) (admissionScript app req) :=
  (Follows.perform (record_settles .bodyRead)).bind HasWriter.act fun _ =>
  (Gate.pass_scripted present (body app req)).bind HasWriter.act fun request =>
  (Gate.pass_scripted present (bearer req)).bind HasWriter.act fun token =>
  (Follows.perform (record_settles .authenticate)).bind HasWriter.act fun _ =>
  (Gate.pass_scripted present (authentication app req token)).bind HasWriter.act fun identity =>
  (Gate.pass_scripted present (producerTrust app req identity.1)).bind HasWriter.act fun trust =>
  (Gate.pass_scripted present (composition app req request identity.1 identity.2 trust)).bind
    HasWriter.act fun _ =>
  (Gate.pass_scripted present (presentEvaluator app req identity.1)).bind HasWriter.act fun _ => .pure _

theorem durableRecord_scripted (result : OperationAwareEnforcementResult)
    (composed : ComposedOperationAwareInput) :
    Scripted present (emitDurableRecord req result composed)
      (durableRecordScript req present result composed) := by
  unfold emitDurableRecord durableRecordScript
  rcases result.auditEvidence with - | evidence
  · exact .perform (emit_settles _)
  intro w hw
  simp only [emitCompletedEvent, exec_bind, exec_get]
  rcases hwr : w.writer with - | writer
  · obtain rfl : present = false := by rw [← hw, hwr]; rfl
    rfl
  · obtain rfl : present = true := by rw [← hw, hwr]; rfl
    simp only [if_true]
    rcases assembleGatewayAuditEvent result evidence with exc | event
    · rfl
    · exact emit_settles _ w

theorem decide_scripted (a : Admitted) :
    Scripted present (decide app req a) (decideScript app req present a) :=
  (Follows.perform (record_settles .evaluator)).bind HasWriter.act fun _ =>
  (a.evaluator.evaluate_scripted present app.models app.printable req.readings a.composed).bind
    HasWriter.act fun outcome =>
  (Gate.pass_scripted present (evaluated req a.subject outcome)).bind HasWriter.act fun result =>
  (durableRecord_scripted req present result a.composed).bind HasWriter.act fun _ => .pure _

theorem resume_scripted : Scripted present (resume app req) (script app req present) :=
  (admission_scripted app req present).bind HasWriter.act fun a => decide_scripted app req present a

variable {app req}

/-- The gates a request has passed when its kernel evaluator is called. -/
structure Passed (app : App) (req : Request) (a : Admitted) : Prop where
  body : ∃ bytes, req.body = .ok bytes ∧ app.parseOperationAwareEvaluateRequest bytes = .ok a.request
  token : extractBearerToken req.authorization = .ok a.token
  authenticated : app.authenticate app.authMode a.token = .ok (a.subject, a.identityContext)
  trust : producerTrust app req a.subject = .ok a.trust
  composes : Composes app.printable a.request a.subject a.trust a.composed
  evaluator : app.operationAwareEvaluator = some a.evaluator

/-- What composition lets through is what was composed. -/
theorem composed_of_composition {request : OperationAwareEvaluateRequest} {subject : NormalizedSubject}
    {identityContext : IdentityContext} {trust : OperationProducerTrust}
    {composed : ComposedOperationAwareInput}
    (h : composition app req request subject identityContext trust = .ok composed) :
    composeOperationAwareInput app.printable request subject identityContext trust req.correlationId
      (.utc req.readings.evaluationTime) = .ok composed := by
  unfold composition at h
  split at h
  next hc => cases h; exact hc
  next =>
    repeat' split at h
    all_goals cases h

theorem composition_ok {request : OperationAwareEvaluateRequest} {subject : NormalizedSubject}
    {identityContext : IdentityContext} {trust : OperationProducerTrust}
    {composed : ComposedOperationAwareInput}
    (h : composition app req request subject identityContext trust = .ok composed) :
    Composes app.printable request subject trust composed :=
  composes_of_ok (composed_of_composition h)

theorem presentEvaluator_ok {subject : NormalizedSubject} {evaluator : OperationAwareGatewayEvaluator}
    (h : presentEvaluator app req subject = .ok evaluator) :
    app.operationAwareEvaluator = some evaluator := by
  unfold presentEvaluator at h
  split at h
  next he => cases h; exact he
  next => cases h

/-- A schema-valid body and an authenticated caller: the request comes to its producer's trust. -/
structure Identified (app : App) (req : Request) (request : OperationAwareEvaluateRequest)
    (subject : NormalizedSubject) (identityContext : IdentityContext) : Prop where
  parsed : ∃ bytes, req.body = .ok bytes ∧ app.parseOperationAwareEvaluateRequest bytes = .ok request
  caller : ∃ token, extractBearerToken req.authorization = .ok token ∧
    app.authenticate app.authMode token = .ok (subject, identityContext)

section Identified

variable {request : OperationAwareEvaluateRequest} {subject : NormalizedSubject}
  {identityContext : IdentityContext}

theorem gates_of_identified (h : Identified app req request subject identityContext) :
    body app req = .ok request ∧
      ∃ token, bearer req = .ok token ∧ authentication app req token = .ok (subject, identityContext) := by
  obtain ⟨⟨bytes, hbytes, hparse⟩, token, htoken, hcaller⟩ := h
  exact ⟨bodyGate_of_parse hbytes hparse, token, bearerGate_of_extract htoken, authenticationGate_of_caller hcaller⟩

/-- A stop at the producer's trust. -/
theorem script_of_producerTrust (h : Identified app req request subject identityContext) {stop : Stop}
    (hp : producerTrust app req subject = .error stop) (present : Bool) :
    script app req present =
      ⟨[.record .bodyRead, .record .authenticate] ++ stop.effects, .error stop.exit⟩ := by
  obtain ⟨hb, token, ht, ha⟩ := gates_of_identified h
  simp only [script, admissionScript, perform_bind, Gate.script, hb, ht, ha, hp, pure_eq, bind_ok,
    bind_error, List.nil_append, List.cons_append]

/-- A stop at composition. -/
theorem script_of_composition (h : Identified app req request subject identityContext)
    {trust : OperationProducerTrust} (hp : producerTrust app req subject = .ok trust) {stop : Stop}
    (hc : composition app req request subject identityContext trust = .error stop) (present : Bool) :
    script app req present =
      ⟨[.record .bodyRead, .record .authenticate] ++ stop.effects, .error stop.exit⟩ := by
  obtain ⟨hb, token, ht, ha⟩ := gates_of_identified h
  simp only [script, admissionScript, perform_bind, Gate.script, hb, ht, ha, hp, hc, pure_eq, bind_ok,
    bind_error, List.nil_append, List.cons_append]

end Identified

/-- Every gate before the evaluator lets the request through. -/
structure Through (app : App) (req : Request) (a : Admitted) : Prop where
  body : OperationAware.body app req = .ok a.request
  bearer : OperationAware.bearer req = .ok a.token
  authentication : OperationAware.authentication app req a.token = .ok (a.subject, a.identityContext)
  producerTrust : OperationAware.producerTrust app req a.subject = .ok a.trust
  composition : OperationAware.composition app req a.request a.subject a.identityContext a.trust =
    .ok a.composed
  evaluator : OperationAware.presentEvaluator app req a.subject = .ok a.evaluator

/-- The gate a request stops at, and what it did before. -/
inductive StopsAt (app : App) (req : Request) : List Effect → Stop → Prop
  | body {stop : Stop} (h : body app req = .error stop) : StopsAt app req [.record .bodyRead] stop
  | bearer {stop : Stop} (request : OperationAwareEvaluateRequest) (hbody : body app req = .ok request)
      (h : bearer req = .error stop) : StopsAt app req [.record .bodyRead] stop
  | authentication {stop : Stop} (request : OperationAwareEvaluateRequest) (token : String)
      (hbody : body app req = .ok request) (hbearer : bearer req = .ok token)
      (h : authentication app req token = .error stop) :
      StopsAt app req [.record .bodyRead, .record .authenticate] stop
  | producerTrust {stop : Stop} (request : OperationAwareEvaluateRequest) (subject : NormalizedSubject)
      (identityContext : IdentityContext) (hid : Identified app req request subject identityContext)
      (h : producerTrust app req subject = .error stop) :
      StopsAt app req [.record .bodyRead, .record .authenticate] stop
  | composition {stop : Stop} (request : OperationAwareEvaluateRequest) (subject : NormalizedSubject)
      (identityContext : IdentityContext) (trust : OperationProducerTrust)
      (hid : Identified app req request subject identityContext)
      (h : composition app req request subject identityContext trust = .error stop) :
      StopsAt app req [.record .bodyRead, .record .authenticate] stop
  | evaluator {stop : Stop} (request : OperationAwareEvaluateRequest) (subject : NormalizedSubject)
      (identityContext : IdentityContext) (hid : Identified app req request subject identityContext)
      (h : presentEvaluator app req subject = .error stop) :
      StopsAt app req [.record .bodyRead, .record .authenticate] stop

/-- Admission goes through every gate, or stops at one. -/
theorem admissionScript_cases (app : App) (req : Request) :
    (∃ a, Through app req a ∧
      admissionScript app req = ⟨[.record .bodyRead, .record .authenticate], .ok a⟩) ∨
    ∃ before stop, StopsAt app req before stop ∧
      admissionScript app req = ⟨before ++ stop.effects, .error stop.exit⟩ := by
  unfold admissionScript
  rw [perform_bind]
  rcases hb : body app req with stop | request
  · exact .inr ⟨_, stop, .body hb, rfl⟩
  rcases ht : bearer req with stop | token
  · exact .inr ⟨_, stop, .bearer request hb ht, rfl⟩
  rcases ha : authentication app req token with stop | ⟨subject, identityContext⟩
  · refine .inr ⟨_, stop, .authentication request token hb ht ha, ?_⟩
    simp only [Gate.script, ha, pure_eq, bind_ok, bind_error, perform_bind, List.nil_append,
      List.cons_append]
  have hid : Identified app req request subject identityContext :=
    ⟨bodyGate_ok hb, token, bearerGate_ok ht, authenticationGate_ok ha⟩
  rcases hp : producerTrust app req subject with stop | trust
  · refine .inr ⟨_, stop, .producerTrust request subject identityContext hid hp, ?_⟩
    simp only [Gate.script, ha, hp, pure_eq, bind_ok, bind_error, perform_bind, List.nil_append,
      List.cons_append]
  rcases hc : composition app req request subject identityContext trust with stop | composed
  · refine .inr ⟨_, stop, .composition request subject identityContext trust hid hc, ?_⟩
    simp only [Gate.script, ha, hp, hc, pure_eq, bind_ok, bind_error, perform_bind, List.nil_append,
      List.cons_append]
  rcases he : presentEvaluator app req subject with stop | evaluator
  · refine .inr ⟨_, stop, .evaluator request subject identityContext hid he, ?_⟩
    simp only [Gate.script, ha, hp, hc, he, pure_eq, bind_ok, bind_error, perform_bind, List.nil_append,
      List.cons_append]
  refine .inl ⟨{ request, token, subject, identityContext, trust, composed, evaluator },
    ⟨hb, ht, ha, hp, hc, he⟩, ?_⟩
  simp only [Gate.script, ha, hp, hc, he, pure_eq, bind_ok, perform_bind, List.nil_append,
    List.append_nil]

theorem StopsAt.before_cases {before : List Effect} {stop : Stop} (h : StopsAt app req before stop) :
    before = [.record .bodyRead] ∨ before = [.record .bodyRead, .record .authenticate] := by
  cases h with
  | body | bearer => exact .inl rfl
  | authentication | producerTrust | composition | evaluator => exact .inr rfl

theorem Through.passed {a : Admitted} (h : Through app req a) : Passed app req a :=
  ⟨bodyGate_ok h.body, bearerGate_ok h.bearer, authenticationGate_ok h.authentication, h.producerTrust,
    composition_ok h.composition, presentEvaluator_ok h.evaluator⟩

/-- Admission stops at a gate, or has passed them all. -/
theorem admission_cases (app : App) (req : Request) :
    Admission (Passed app req) (admissionScript app req) := by
  rcases admissionScript_cases app req with ⟨a, ha, hS⟩ | ⟨before, stop, hstop, hS⟩
  · exact .through a ha.passed hS
  · exact .stopped before stop hstop.before_cases hS

end OperationAware

/-! ## Both parts of a handler -/

def Endpoint.script (endpoint : Endpoint) (app : App) (req : Request) (present : Bool) :
    Script Effect Exit JSONResponse :=
  match endpoint with
  | .evaluate => Evaluate.script app req
  | .operationAware => OperationAware.script app req present

/-- The second part answers and writes as its script says. -/
theorem Endpoint.finish_eq (endpoint : Endpoint) (app : App) (req : Request) (w : World) :
    endpoint.finish app req w =
      (answerOf (endpoint.script app req w.writer.isSome).result,
        w.replay (endpoint.script app req w.writer.isSome).effects) := by
  cases endpoint with
  | evaluate =>
    simp only [finish, resume, Evaluate.resume_scripted app req w.writer.isSome w rfl]
    rfl
  | operationAware =>
    simp only [finish, resume, OperationAware.resume_scripted app req w.writer.isSome w rfl]
    rfl

theorem Endpoint.exec_start (endpoint : Endpoint) (app : App) (req : Request) (w : World) :
    (endpoint.start app req).exec w =
      if app.auditFailClosed && w.degraded then
        (.ok (if (w.afterEmit (endpoint.probe req)).degraded then some (auditFailClosed req.correlationId)
          else none), w.afterEmit (endpoint.probe req))
      else (.ok none, w) := by
  have hcheck : (endpoint.start app req).exec w =
      (resolveAuditFailClosedResponse app req.correlationId (endpoint.probe req)).exec w := by
    cases endpoint <;> rfl
  simp only [hcheck, resolveAuditFailClosedResponse, exec_bind, exec_get, exec_ite,
    emit_settles (endpoint.probe req) w, exec_pure, World.act]
  split
  next => split <;> rfl
  next => rfl

/-- The first part: a probe when the writer is degraded in strict mode, and an answer when it still
is. -/
theorem Endpoint.begin_eq (endpoint : Endpoint) (app : App) (req : Request) (w : World) :
    endpoint.begin app req w =
      if app.auditFailClosed && w.degraded then
        (if (w.afterEmit (endpoint.probe req)).degraded then some (.ok (auditFailClosed req.correlationId))
          else none, w.afterEmit (endpoint.probe req))
      else (none, w) := by
  by_cases hs : (app.auditFailClosed && w.degraded) = true
  · by_cases hd : (w.afterEmit (endpoint.probe req)).degraded = true <;>
      simp only [begin, exec_start, hs, hd, if_true, if_false, Bool.false_eq_true]
  · simp only [begin, exec_start, hs, if_false, Bool.false_eq_true]

/-- The first part writes the probe or nothing. -/
theorem Endpoint.trace_begin (endpoint : Endpoint) (app : App) (req : Request) (w : World) :
    (endpoint.begin app req w).2.trace = w.trace ++
      if app.auditFailClosed && w.degraded then w.observe (.emit (endpoint.probe req)) else [] := by
  rw [begin_eq]
  split
  next => exact w.act_trace (.emit (endpoint.probe req))
  next => exact (List.append_nil _).symm

theorem Endpoint.since_begin (endpoint : Endpoint) (app : App) (req : Request) (w : World) :
    (endpoint.begin app req w).2.since w =
      if app.auditFailClosed && w.degraded then w.observe (.emit (endpoint.probe req)) else [] := by
  rw [World.since, trace_begin, List.drop_left]

/-- A request that goes past the strict-mode check: its script, in the world it resumes in. -/
theorem Endpoint.serve_of_begin {endpoint : Endpoint} {app : App} {req : Request} {w w₁ : World}
    (h : endpoint.begin app req w = (none, w₁)) (between : World → World) :
    endpoint.serve app req between w =
      let S := endpoint.script app req (between w₁).writer.isSome
      { answer := answerOf S.result
        observed := w₁.since w ++ (between w₁).observed S.effects
        world := (between w₁).replay S.effects } := by
  simp only [serve, h, finish_eq, World.replay_since]

end BasisGateway
