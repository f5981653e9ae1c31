/-
The audit trail of `/v1/evaluate`. With a writer whose events can be built,
what a request is observed to do is one of five trails, whatever the sink
does with the events: each refusal leaves one event, the evaluator is called
after the receipt, and what comes after the call of the kernel is either its
answer or the one event of a failure.
-/
import BasisGateway.ProducerCertificates

namespace BasisGateway

open Script

/-! ## Moments -/

/-- There is an audit writer, and every event can be built. -/
structure World.Recording (w : World) : Prop where
  writer : w.writer.isSome = true
  constructs : ∀ event, (w.pipeline.construct event).isOk = true

/-- An observation, without what the sink returned and the writer's flag. -/
inductive Moment
  | called (call : Call)
  | wrote (event : AuditEvent)

def Observation.moment : Observation → Moment
  | .called call _ => .called call
  | .wrote event _ => .wrote event

def moments (os : List Observation) : List Moment := os.map Observation.moment

def Effect.moment : Effect → Moment
  | .emit event | .write event => .wrote event
  | .record call => .called call

theorem World.Recording.act {w : World} (h : w.Recording) (e : Effect) : (World.act e w).Recording := by
  refine ⟨?_, fun event => ?_⟩
  · rw [act_isSome]
    exact h.writer
  · rw [act_pipeline]
    exact h.constructs event

theorem World.Recording.reaches {w : World} (h : w.Recording) (event : AuditEvent) :
    w.reaches event = true := by
  simp only [World.reaches, h.writer, h.constructs, Bool.and_self]

/-- Every event that is emitted is written. -/
theorem moments_observed : ∀ (es : List Effect) {w : World}, w.Recording →
    moments (w.observed es) = es.map Effect.moment
  | [], _, _ => rfl
  | e :: es, w, h => by
    have hrest := moments_observed es (h.act e)
    have hhere : moments (w.observe e) = [e.moment] := by
      cases e with
      | emit event => simp only [World.observe, h.reaches event, if_true]; rfl
      | write event => simp only [World.observe, h.writer, if_true]; rfl
      | record call => rfl
    rw [World.observed, moments, List.map_append, ← moments, ← moments, hhere, hrest]
    rfl

@[simp] theorem moments_append (os ps : List Observation) : moments (os ++ ps) = moments os ++ moments ps :=
  List.map_append

/-- The strict-mode check lets the request through, and its handler resumes with a writer whose
events can be built. -/
structure Resumes (endpoint : Endpoint) (app : App) (req : Request) (between : World → World) (w : World) :
    Prop where
  begun : (endpoint.begin app req w).1 = none
  recording : (between (endpoint.begin app req w).2).Recording

/-- At most a recovery probe. -/
def IsProbe (endpoint : Endpoint) (req : Request) (probe : List Moment) : Prop :=
  probe = [] ∨ probe = [.wrote (endpoint.probe req)]

theorem isProbe_begin (endpoint : Endpoint) (app : App) (req : Request) (w : World) :
    IsProbe endpoint req (moments ((endpoint.begin app req w).2.since w)) := by
  rw [Endpoint.since_begin]
  split
  next =>
    rw [World.observe]
    split
    next => exact .inr rfl
    next => exact .inl rfl
  next => exact .inl rfl

/-- A request that resumes: perhaps a probe, and then its script. -/
theorem Resumes.serve {endpoint : Endpoint} {app : App} {req : Request} {between : World → World} {w : World}
    (h : Resumes endpoint app req between w) :
    let served := endpoint.serve app req between w
    let S := endpoint.script app req true
    served.answer = answerOf S.result ∧
    calls served.observed = S.effects.filterMap Effect.call? ∧
    ∃ probe, IsProbe endpoint req probe ∧ moments served.observed = probe ++ S.effects.map Effect.moment := by
  obtain ⟨w₁, hw₁⟩ : ∃ w₁, endpoint.begin app req w = (none, w₁) := ⟨_, Prod.ext h.begun rfl⟩
  have hrecording := h.recording
  have hcalls := endpoint.calls_begin app req w
  have hprobe := isProbe_begin endpoint app req w
  rw [hw₁] at hrecording hcalls hprobe
  intro served S
  have hserved : served = _ := Endpoint.serve_of_begin hw₁ between
  rw [hrecording.writer] at hserved
  rw [hserved]
  refine ⟨rfl, ?_, _, hprobe, ?_⟩
  · simp only [calls_append, hcalls, List.nil_append, calls_observed, S]
  · rw [moments_append, moments_observed _ hrecording]

/-! ## The trails -/

/-- The caller authentication returns for this request. -/
def CallerIs (app : App) (req : Request) (subject : NormalizedSubject) : Prop :=
  ∃ token identityContext, extractBearerToken req.authorization = .ok token ∧
    app.authenticate app.authMode token = .ok (subject, identityContext)

namespace Evaluate

/-- A gateway event of this request. -/
structure Reports (req : Request) (action : String) (subject : Option NormalizedSubject)
    (event : AuditEvent) : Prop where
  action : event.action = action
  correlationId : event.correlationId = some req.correlationId
  subjectId : event.subjectId = subject.map (·.subjectId)

/-- What the evaluator does before it raises: nothing, or a call of its kernel, and the events the
kernel writes. -/
inductive RaisesAfter (app : App) : List Moment → Prop
  | unbuilt : RaisesAfter app []
  | raised (evaluator : GatewayEvaluator) (call : KernelCall) (exc : PyExc)
      (hevaluator : app.evaluator = some evaluator)
      (hraised : (evaluator.enforcementPoint call).result = .error exc) :
      RaisesAfter app (.called (.kernel call) :: (evaluator.enforcementPoint call).writes.map .wrote)

/-- The trails of a request, with the status of its answer. -/
inductive Trail (app : App) (req : Request) : List Moment → Nat → Prop
  | validationFailed (event : AuditEvent) (h : Reports req GatewayEvents.validationFailed none event) :
      Trail app req [.called .bodyRead, .wrote event] 400
  | authenticationFailed (asked : List Moment) (hasked : asked = [] ∨ asked = [.called .authenticate])
      (event : AuditEvent) (h : Reports req GatewayEvents.authenticationFailed none event) :
      Trail app req (.called .bodyRead :: asked ++ [.wrote event]) 401
  | evaluatorUnavailable (subject : NormalizedSubject) (hcaller : CallerIs app req subject)
      (event : AuditEvent) (h : Reports req GatewayEvents.evaluatorUnavailable (some subject) event) :
      Trail app req [.called .bodyRead, .called .authenticate, .wrote event] 503
  | decided (subject : NormalizedSubject) (hcaller : CallerIs app req subject) (receipt : AuditEvent)
      (hreceipt : Reports req GatewayEvents.evaluationRequested (some subject) receipt)
      (evaluator : GatewayEvaluator) (call : KernelCall) (decision : DecisionResponse)
      (hevaluator : app.evaluator = some evaluator)
      (hdecided : (evaluator.enforcementPoint call).result = .ok decision) (status : Nat)
      (hstatus : status = 200 ∨ status = 403) :
      Trail app req ([.called .bodyRead, .called .authenticate, .wrote receipt, .called .evaluator,
        .called (.kernel call)] ++ (evaluator.enforcementPoint call).writes.map .wrote) status
  | failedClosed (subject : NormalizedSubject) (hcaller : CallerIs app req subject) (receipt : AuditEvent)
      (hreceipt : Reports req GatewayEvents.evaluationRequested (some subject) receipt)
      (ran : List Moment) (hran : RaisesAfter app ran) (event : AuditEvent)
      (h : Reports req GatewayEvents.evaluationFailedClosed (some subject) event) (status : Nat)
      (hstatus : status = 400 ∨ status = 500) :
      Trail app req ([.called .bodyRead, .called .authenticate, .wrote receipt, .called .evaluator] ++
        ran ++ [.wrote event]) status

section

variable {app : App} {req : Request}

/-- Every event `event` builds for a subject reports it. -/
theorem reports_event (action : String) (reason policyVersion : Option String)
    (subject : Option NormalizedSubject) (detail : List (String × Json)) :
    Reports req action subject
      (event req action reason policyVersion (subject.map (·.subjectId)) detail) :=
  ⟨rfl, rfl, rfl⟩

theorem compose_error {request : EvaluateRequest} {stop : Stop} (h : compose app req request = .error stop) :
    ∃ message, stop.Refuses
      (event req GatewayEvents.validationFailed (some Reason.invalidFields))
      (BasisGateway.validationFailed message req.correlationId) := by
  simp only [compose] at h
  split at h
  next => exact ⟨_, refuses_of_refuse h⟩
  next =>
    split at h
    next exc ha =>
      have hcaught : exc.isInstance .actionCompositionError = true := by
        simp [PyExc.isInstance, composeAction_error ha]
      rw [if_pos hcaught] at h
      exact ⟨_, refuses_of_refuse h⟩
    next =>
      split at h
      next exc hr =>
        have hcaught : exc.isInstance .resourceCompositionError = true := by
          simp [PyExc.isInstance, composeResourceId_error hr]
        rw [if_pos hcaught] at h
        exact ⟨_, refuses_of_refuse h⟩
      next => cases h

theorem presentEvaluator_error {subject : NormalizedSubject} {stop : Stop}
    (h : presentEvaluator app req subject = .error stop) :
    stop.Refuses (event req GatewayEvents.evaluatorUnavailable (some Reason.evaluatorNotInitialized) none
      (some subject.subjectId)) (BasisGateway.evaluatorUnavailable req.correlationId) := by
  unfold presentEvaluator at h
  split at h
  next => cases h
  next => exact refuses_of_refuse h

/-- What an exception of the evaluator becomes. -/
theorem decided_refuses {evaluator : GatewayEvaluator} {subject : NormalizedSubject} {exc : PyExc} {stop : Stop}
    (h : decided req evaluator subject (.error exc) = .error stop) :
    ∃ reason response, stop.Refuses (event req GatewayEvents.evaluationFailedClosed (some reason)
        evaluator.policyVersion (some subject.subjectId)) response ∧
      (response.statusCode = 400 ∨ response.statusCode = 500) := by
  simp only [decided] at h
  split at h
  next => exact ⟨_, _, refuses_of_refuse h, .inl rfl⟩
  next => exact ⟨_, _, refuses_of_refuse h, .inr rfl⟩

theorem callerIs_of_gates {token : String} {subject : NormalizedSubject} {identityContext : IdentityContext}
    (ht : bearer req = .ok token) (ha : authentication app req token = .ok (subject, identityContext)) :
    CallerIs app req subject :=
  ⟨token, identityContext, bearerGate_ok ht, authenticationGate_ok ha⟩

/-- A script and the trail it leaves. -/
def LeavesTrail (app : App) (req : Request) (S : Script Effect Exit JSONResponse) : Prop :=
  ∃ response, answerOf S.result = .ok response ∧
    Trail app req (S.effects.map Effect.moment) response.statusCode

theorem leavesTrail_of_refuses {stop : Stop} {event : AuditEvent} {response : JSONResponse}
    (h : stop.Refuses event response) {before : List Effect}
    (htrail : Trail app req (before.map Effect.moment ++ [.wrote event]) response.statusCode) :
    LeavesTrail app req ⟨before ++ stop.effects, .error stop.exit⟩ := by
  obtain ⟨heffects, hexit⟩ := h
  refine ⟨response, by rw [hexit]; rfl, ?_⟩
  rw [heffects, List.map_append]
  exact htrail

theorem leavesTrail_of_stopsAt {before : List Effect} {stop : Stop} (h : StopsAt app req before stop) :
    LeavesTrail app req ⟨before ++ stop.effects, .error stop.exit⟩ := by
  cases h with
  | body hb =>
    obtain ⟨reason, message, href⟩ := bodyGate_error hb
    exact leavesTrail_of_refuses href (.validationFailed _ (reports_event _ _ _ none _))
  | compose request hbody hc =>
    obtain ⟨message, href⟩ := compose_error hc
    exact leavesTrail_of_refuses href (.validationFailed _ (reports_event _ _ _ none _))
  | bearer ht =>
    obtain ⟨exc, -, href⟩ := bearerGate_error ht
    exact leavesTrail_of_refuses href (.authenticationFailed [] (.inl rfl) _ (reports_event _ _ _ none _))
  | authentication token ha =>
    obtain ⟨exc, -, href⟩ := authenticationGate_error ha
    exact leavesTrail_of_refuses href
      (.authenticationFailed [.called .authenticate] (.inr rfl) _ (reports_event _ _ _ none _))
  | evaluator token subject identityContext ht ha he =>
    exact leavesTrail_of_refuses (presentEvaluator_error he)
      (.evaluatorUnavailable subject (callerIs_of_gates ht ha) _ (reports_event _ _ _ (some subject) _))

theorem decisionResponse_statusCode (decision : DecisionResponse) (correlationId : String) :
    (decisionResponse decision correlationId).statusCode = 200 ∨
      (decisionResponse decision correlationId).statusCode = 403 := by
  unfold decisionResponse
  split
  next => exact .inl rfl
  next => exact .inr rfl

/-- The receipt, the evaluator, and what comes of it. -/
theorem leavesTrail_of_through {a : Admitted} (ha : Through app req a) :
    LeavesTrail app req (⟨[.record .bodyRead, .record .authenticate], .ok a⟩ >>= decideScript app req) := by
  have hcaller : CallerIs app req a.subject := callerIs_of_gates ha.bearer ha.authentication
  have hevaluator : app.evaluator = some a.evaluator := presentEvaluator_ok ha.evaluator
  have hreceipt : Reports req GatewayEvents.evaluationRequested (some a.subject) (a.receipt req) :=
    reports_event _ _ _ (some a.subject) _
  have hfailed (ran : List Effect) {stop : Stop} {exc : PyExc} (hran : RaisesAfter app (ran.map Effect.moment))
      (hs : decided req a.evaluator a.subject (.error exc) = .error stop) :
      LeavesTrail app req
        ⟨([.record .bodyRead, .record .authenticate, .emit (a.receipt req), .record .evaluator] ++ ran) ++
          stop.effects, .error stop.exit⟩ := by
    obtain ⟨reason, response, href, hstatus⟩ := decided_refuses hs
    refine leavesTrail_of_refuses href ?_
    rw [List.map_append]
    exact .failedClosed a.subject hcaller _ hreceipt _ hran _ (reports_event _ _ _ (some a.subject) _) _ hstatus
  have hwrites (events : List AuditEvent) :
      (events.map Effect.write).map Effect.moment = events.map Moment.wrote := by
    rw [List.map_map]
    rfl
  rw [bind_ok]
  rcases hk : (a.input req).kernelCall app.models req.readings with exc | call
  · obtain ⟨stop, hs⟩ := decided_error req a.evaluator a.subject exc
    rw [decideScript_unbuilt hk hs]
    exact hfailed [] .unbuilt hs
  rcases hr : (a.evaluator.enforcementPoint call).result with exc | decision
  · obtain ⟨stop, hs⟩ := decided_error req a.evaluator a.subject exc
    have hran : RaisesAfter app
        ((Effect.record (.kernel call) :: (a.evaluator.enforcementPoint call).writes.map .write).map
          Effect.moment) := by
      rw [List.map_cons, hwrites]
      exact .raised a.evaluator call exc hevaluator hr
    rw [decideScript_raised hk hr hs]
    have h := hfailed _ hran hs
    simpa using h
  · rw [decideScript_decided hk hr]
    refine ⟨decisionResponse decision req.correlationId, rfl, ?_⟩
    have h : Trail app req _ (decisionResponse decision req.correlationId).statusCode :=
      .decided a.subject hcaller _ hreceipt a.evaluator call decision hevaluator hr _
        (decisionResponse_statusCode decision req.correlationId)
    simpa [hwrites, Effect.moment] using h

theorem leavesTrail_script (app : App) (req : Request) : LeavesTrail app req (script app req) := by
  unfold script
  rcases admissionScript_cases app req with ⟨a, ha, hS⟩ | ⟨before, stop, hstop, hS⟩
  · rw [hS]
    exact leavesTrail_of_through ha
  · rw [hS, bind_error]
    exact leavesTrail_of_stopsAt hstop

end

end Evaluate

/-- **The audit trail of `/v1/evaluate`.** For any app and request, whatever the body reader, the
authenticator, the kernel and the sink do, and whatever runs while the body is awaited: a request the
strict-mode check lets through is answered, and leaves exactly one of the five trails, with that
trail's status, after at most a recovery probe. -/
theorem evaluate_leaves_trail (app : App) (req : Request) (between : World → World) (w : World)
    (h : Resumes .evaluate app req between w) :
    let served := Endpoint.evaluate.serve app req between w
    ∃ probe trail response, IsProbe .evaluate req probe ∧ served.answer = .ok response ∧
      moments served.observed = probe ++ trail ∧ Evaluate.Trail app req trail response.statusCode := by
  obtain ⟨hanswer, -, probe, hprobe, hmoments⟩ := h.serve
  obtain ⟨response, hresponse, htrail⟩ := Evaluate.leavesTrail_script app req
  exact ⟨probe, _, response, hprobe, hanswer.trans hresponse, hmoments, htrail⟩

theorem resumes_permissive : Resumes .evaluate permissiveApp bearerRequest id acceptingWorld where
  begun := by decide +kernel
  recording := ⟨by decide +kernel, fun _ => rfl⟩

/-- The theorem at a request that is allowed: the receipt, and then the kernel. -/
theorem evaluate_leaves_trail_allowed :
    let served := Endpoint.evaluate.serve permissiveApp bearerRequest id acceptingWorld
    served.answer.map (·.statusCode) = .ok 200 ∧
    ∃ probe trail response, IsProbe .evaluate bearerRequest probe ∧ served.answer = .ok response ∧
      moments served.observed = probe ++ trail ∧
      Evaluate.Trail permissiveApp bearerRequest trail response.statusCode :=
  ⟨by decide +kernel, evaluate_leaves_trail permissiveApp bearerRequest id acceptingWorld resumes_permissive⟩

end BasisGateway
