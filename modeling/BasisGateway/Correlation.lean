/-
Correlation (`middleware/correlation.py`). The middleware gives a request its
id; every event and every kernel call of the request carries it, and so does
its response. However the requests of a process interleave, the trail of an id
is the trail of its one request: a probe or none, and then what its script
records.
-/
import BasisGateway.DurableRecord
import BasisGateway.Lib.TaskLogs
import BasisGateway.StrictMode

namespace BasisGateway

open Script Tasks

/-- A response, with the header the middleware sets. -/
structure Response where
  response : JSONResponse
  headers : List (String × String)

/-- `CorrelationMiddleware.dispatch`, around the handler's answer. -/
def correlationDispatch (correlationId : String) (answer : Answer) : Except PyExc Response := do
  let response ← answer
  return { response, headers := [("X-Correlation-ID", correlationId)] }

/-! ## What carries a correlation id -/

def Call.correlationId? : Call → Option String
  | .kernel call => some call.correlationId
  | .operationAwareKernel call => some call.request.correlationId
  | _ => none

def Observation.correlationId? : Observation → Option String
  | .called call _ => call.correlationId?
  | .wrote event _ => event.correlationId

def Effect.correlationId? : Effect → Option String
  | .emit event | .write event => event.correlationId
  | .record call => call.correlationId?

def Moment.correlationId? : Moment → Option String
  | .called call => call.correlationId?
  | .wrote event => event.correlationId

@[simp] theorem correlationId?_moment (o : Observation) : o.moment.correlationId? = o.correlationId? := by
  cases o <;> rfl

/-- The `correlation_id` of a body. -/
def JSONResponse.correlationId? (response : JSONResponse) : Option Json :=
  response.content.member "correlation_id"

theorem correlationId?_observe (e : Effect) (w : World) :
    ∀ o ∈ w.observe e, o.correlationId? = e.correlationId? := by
  intro o ho
  cases e with
  | emit event | write event =>
    simp only [World.observe] at ho
    split at ho
    next => rw [List.mem_singleton.1 ho]; rfl
    next => cases ho
  | record call => rw [List.mem_singleton.1 ho]; rfl

/-- Nothing here carries the id of another request. -/
def CarriesOnly (req : Request) (es : List Effect) : Prop :=
  ∀ e ∈ es, ∀ id, e.correlationId? = some id → id = req.correlationId

theorem carriesOnly_observed {req : Request} : ∀ {es : List Effect}, CarriesOnly req es → ∀ (w : World),
    ∀ o ∈ w.observed es, ∀ id, o.correlationId? = some id → id = req.correlationId
  | [], _, _ => fun o ho => by cases ho
  | e :: es, h, w => by
    intro o ho id hid
    rcases List.mem_append.1 ho with ho | ho
    · rw [correlationId?_observe e w o ho] at hid
      exact h e List.mem_cons_self id hid
    · exact carriesOnly_observed (fun f hf => h f (List.mem_cons_of_mem _ hf)) _ o ho id hid

theorem CarriesOnly.append {req : Request} {es fs : List Effect} (hes : CarriesOnly req es)
    (hfs : CarriesOnly req fs) : CarriesOnly req (es ++ fs) :=
  fun e he => (List.mem_append.1 he).elim (hes e) (hfs e)

theorem CarriesOnly.bind {req : Request} {α β : Type} {S : Script Effect Exit α} {f : α → Script Effect Exit β}
    (hS : CarriesOnly req S.effects) (hf : ∀ a, CarriesOnly req (f a).effects) :
    CarriesOnly req (S >>= f).effects := by
  obtain ⟨es, exit | a⟩ := S
  · exact hS
  · exact hS.append (hf a)

/-! ## One request -/

/-- The kernels echo the correlation id they are given: the first in the events it writes, the second
in its response. -/
structure App.KernelsEcho (app : App) : Prop where
  written : ∀ evaluator call, app.evaluator = some evaluator →
    ∀ event ∈ (evaluator.enforcementPoint call).writes, event.correlationId = some call.correlationId
  returned : ∀ evaluator call result, app.operationAwareEvaluator = some evaluator →
    evaluator.enforcementPoint call = .ok result →
    result.response.correlationId = some call.request.correlationId

/-- A script that carries this request's id only, and answers with it. -/
structure Correlated (req : Request) (S : Script Effect Exit JSONResponse) : Prop where
  effects : CarriesOnly req S.effects
  answer : ∀ response, answerOf S.result = .ok response →
    response.correlationId? = some (.str req.correlationId)

/-- A stop that answers does so with this request's id, in its event and its body. -/
def Stop.Correlated (req : Request) : Stop → Prop
  | .refuse refusal => refusal.event.correlationId = some req.correlationId ∧
      refusal.response.correlationId? = some (.str req.correlationId)
  | .escape _ => True

section

variable {req : Request}

@[simp] theorem correlationId?_errorResponse (statusCode : Nat) (error : String) (message : Option String)
    (correlationId : String) :
    (errorResponse statusCode error message correlationId).correlationId? = some (.str correlationId) := by
  rw [JSONResponse.correlationId?, errorResponse, ErrorResponse.dump, Json.member_modelDump]
  cases message <;> simp

theorem correlationId?_decisionResponse (decision : DecisionResponse) (correlationId : String) :
    (decisionResponse decision correlationId).correlationId? = some (.str correlationId) := by
  rw [JSONResponse.correlationId?, decisionResponse, Json.member_modelDump]
  cases decision.policyVersion <;> simp

theorem correlationId?_resultResponse (result : OperationAwareEnforcementResult) :
    (OperationAware.resultResponse result).correlationId? = result.response.correlationId.map .str := by
  rw [JSONResponse.correlationId?, OperationAware.resultResponse, operationAwareEvaluateResponse,
    Json.member_modelDump]
  cases result.response.correlationId <;> simp

/-- Every refusal of a handler is an error response of its request. -/
theorem correlated_of_refuse {α : Type} {event : AuditEvent} {statusCode : Nat} {error : String}
    {message : Option String} {governed : (errorResponse statusCode error message req.correlationId).isRefusal = true}
    {stop : Stop}
    (h : (refuse event (errorResponse statusCode error message req.correlationId) governed : Gate α) = .error stop)
    (hevent : event.correlationId = some req.correlationId) : stop.Correlated req := by
  cases h
  exact ⟨hevent, correlationId?_errorResponse ..⟩

theorem correlated_of_refuses {stop : Stop} {event : AuditEvent} {response : JSONResponse}
    (h : stop.Refuses event response) (hevent : event.correlationId = some req.correlationId)
    (hresponse : response.correlationId? = some (.str req.correlationId)) : stop.Correlated req := by
  obtain ⟨heffects, hexit⟩ := h
  cases stop with
  | refuse refusal =>
    cases heffects
    cases hexit
    exact ⟨hevent, hresponse⟩
  | escape exc => trivial

theorem Stop.Correlated.effects {stop : Stop} (h : stop.Correlated req) : CarriesOnly req stop.effects := by
  intro e he id hid
  cases stop with
  | refuse refusal =>
    rw [List.mem_singleton.1 he] at hid
    exact Option.some.inj (hid.symm.trans h.1)
  | escape exc => cases he

theorem Stop.Correlated.answer {stop : Stop} (h : stop.Correlated req) {response : JSONResponse}
    (hr : answerOf (.error stop.exit) = .ok response) : response.correlationId? = some (.str req.correlationId) := by
  cases stop with
  | refuse refusal => cases hr; exact h.2
  | escape exc => cases hr

/-- Effects without an id, and then a stop. -/
theorem Stop.Correlated.script {stop : Stop} (h : stop.Correlated req) {before : List Effect}
    (hbefore : CarriesOnly req before) : BasisGateway.Correlated req ⟨before ++ stop.effects, .error stop.exit⟩ where
  effects := hbefore.append h.effects
  answer _ hr := h.answer hr

theorem carriesOnly_admission {before : List Effect}
    (h : before = [.record .bodyRead] ∨ before = [.record .bodyRead, .record .authenticate]) :
    CarriesOnly req before := by
  rcases h with rfl | rfl <;> simp [CarriesOnly, Effect.correlationId?, Call.correlationId?]

end

namespace Evaluate

variable {app : App} {req : Request}

theorem correlated_of_stopsAt {before : List Effect} {stop : Stop} (h : StopsAt app req before stop) :
    stop.Correlated req := by
  cases h with
  | body hb =>
    obtain ⟨reason, message, href⟩ := bodyGate_error hb
    exact correlated_of_refuses href rfl (correlationId?_errorResponse ..)
  | compose request hbody hc =>
    obtain ⟨message, href⟩ := compose_error hc
    exact correlated_of_refuses href rfl (correlationId?_errorResponse ..)
  | bearer ht =>
    obtain ⟨exc, -, href⟩ := bearerGate_error ht
    exact correlated_of_refuses href rfl (correlationId?_errorResponse ..)
  | authentication token ha =>
    obtain ⟨exc, -, href⟩ := authenticationGate_error ha
    exact correlated_of_refuses href rfl (correlationId?_errorResponse ..)
  | evaluator token subject identityContext ht ha he =>
    exact correlated_of_refuses (presentEvaluator_error he) rfl (correlationId?_errorResponse ..)

theorem correlated_of_decided {evaluator : GatewayEvaluator} {subject : NormalizedSubject} {exc : PyExc}
    {stop : Stop} (h : decided req evaluator subject (.error exc) = .error stop) : stop.Correlated req := by
  simp only [decided] at h
  split at h
  next => exact correlated_of_refuse h rfl
  next => exact correlated_of_refuse h rfl

/-- The effects of an admitted request up to its evaluator. -/
theorem carriesOnly_receipt (a : Admitted) : CarriesOnly req
    [.record .bodyRead, .record .authenticate, .emit (a.receipt req), .record .evaluator] := by
  simp [CarriesOnly, Effect.correlationId?, Call.correlationId?, Admitted.receipt, receipt, event, gatewayEvent]

theorem correlated_script (hecho : app.KernelsEcho) (req : Request) : Correlated req (script app req) := by
  unfold script
  rcases admissionScript_cases app req with ⟨a, ha, hS⟩ | ⟨before, stop, hstop, hS⟩
  swap
  · rw [hS, bind_error]
    exact (correlated_of_stopsAt hstop).script (carriesOnly_admission hstop.before_cases)
  rw [hS, bind_ok]
  rcases hk : (a.input req).kernelCall app.models req.readings with exc | call
  · obtain ⟨stop, hs⟩ := decided_error req a.evaluator a.subject exc
    rw [decideScript_unbuilt hk hs]
    exact (correlated_of_decided hs).script (carriesOnly_receipt a)
  -- the kernel is called with the request's id, and echoes it in what it writes
  have hcall : call.correlationId = req.correlationId := (EvaluationInput.calls_of_kernelCall hk).correlationId
  have hkernel : CarriesOnly req ([.record .bodyRead, .record .authenticate, .emit (a.receipt req),
      .record .evaluator] ++ .record (.kernel call) :: (a.evaluator.enforcementPoint call).writes.map .write) := by
    intro e he id hid
    rcases List.mem_append.1 he with he | he
    · exact carriesOnly_receipt a e he id hid
    rcases List.mem_cons.1 he with rfl | he
    · exact (Option.some.inj hid).symm.trans hcall
    · obtain ⟨event, hevent, rfl⟩ := List.mem_map.1 he
      have hwritten := hecho.written a.evaluator call (presentEvaluator_ok ha.evaluator) event hevent
      exact (Option.some.inj (hid.symm.trans hwritten)).trans hcall
  rcases hr : (a.evaluator.enforcementPoint call).result with exc | decision
  · obtain ⟨stop, hs⟩ := decided_error req a.evaluator a.subject exc
    rw [decideScript_raised hk hr hs]
    exact (correlated_of_decided hs).script hkernel
  · rw [decideScript_decided hk hr]
    refine ⟨hkernel, fun response hresponse => ?_⟩
    cases hresponse
    exact correlationId?_decisionResponse decision req.correlationId

end Evaluate

namespace OperationAware

variable {app : App} {req : Request}

theorem correlated_of_stopsAt {before : List Effect} {stop : Stop} (h : StopsAt app req before stop) :
    stop.Correlated req := by
  cases h with
  | body hb =>
    obtain ⟨reason, message, href⟩ := bodyGate_error hb
    exact correlated_of_refuses href rfl (correlationId?_errorResponse ..)
  | bearer request hbody ht =>
    obtain ⟨exc, -, href⟩ := bearerGate_error ht
    exact correlated_of_refuses href rfl (correlationId?_errorResponse ..)
  | authentication request token hbody ht ha =>
    obtain ⟨exc, -, href⟩ := authenticationGate_error ha
    exact correlated_of_refuses href rfl (correlationId?_errorResponse ..)
  | producerTrust request subject identityContext hid hp =>
    unfold producerTrust at hp
    repeat' split at hp
    all_goals first
      | exact correlated_of_refuse hp rfl
      | cases hp <;> trivial
  | composition request subject identityContext trust hid hc =>
    unfold composition at hc
    repeat' split at hc
    all_goals first
      | exact correlated_of_refuse hc rfl
      | cases hc <;> trivial
  | evaluator request subject identityContext hid he =>
    unfold presentEvaluator at he
    split at he
    next => cases he
    next => exact correlated_of_refuse he rfl

theorem correlated_of_evaluated {subject : NormalizedSubject} {exc : PyExc} {stop : Stop}
    (h : evaluated req subject (.error exc) = .error stop) : stop.Correlated req := by
  simp only [evaluated] at h
  split at h
  next => exact correlated_of_refuse h rfl
  next => exact correlated_of_refuse h rfl

theorem carriesOnly_durableRecord (present : Bool) (result : OperationAwareEnforcementResult)
    {composed : ComposedOperationAwareInput} (hc : composed.correlationId = req.correlationId) :
    CarriesOnly req (durableRecordScript req present result composed).effects := by
  have hevent {event : AuditEvent} (h : event.correlationId = some composed.correlationId) :
      CarriesOnly req [.emit event] := by
    intro e he id hid
    rw [List.mem_singleton.1 he] at hid
    exact (Option.some.inj (hid.symm.trans h)).trans hc
  have hnone : CarriesOnly req [] := fun e he => by cases he
  unfold durableRecordScript
  split
  next => exact hevent rfl
  next =>
    split
    next =>
      split
      next => exact hnone
      next => exact hevent rfl
    next => exact hnone

theorem correlated_script (hecho : app.KernelsEcho) (req : Request) (present : Bool) :
    Correlated req (script app req present) := by
  unfold script
  rcases admissionScript_cases app req with ⟨a, ha, hS⟩ | ⟨before, stop, hstop, hS⟩
  swap
  · rw [hS, bind_error]
    exact (correlated_of_stopsAt hstop).script (carriesOnly_admission hstop.before_cases)
  rw [hS, bind_ok]
  have hbefore : CarriesOnly req [.record .bodyRead, .record .authenticate, .record .evaluator] := by
    simp [CarriesOnly, Effect.correlationId?, Call.correlationId?]
  have hcomposed : a.composed.correlationId = req.correlationId :=
    (composition_assembles ha.composition).correlationId
  rcases hk : a.composed.kernelCall app.models app.printable req.readings with exc | call
  · obtain ⟨stop, hs⟩ := evaluated_error req a.subject exc
    rw [decideScript_unbuilt present hk hs]
    exact (correlated_of_evaluated hs).script hbefore
  have hcall : call.request.correlationId = req.correlationId := by
    rw [kernelCall_request hk]
    exact hcomposed
  have hkernel : CarriesOnly req [.record .evaluator, .record (.operationAwareKernel call)] := by
    simp [CarriesOnly, Effect.correlationId?, Call.correlationId?, hcall]
  rcases hr : a.evaluator.enforcementPoint call with exc | result
  · obtain ⟨stop, hs⟩ := evaluated_error req a.subject exc
    rw [decideScript_raised present hk hr hs]
    exact (correlated_of_evaluated hs).script
      ((carriesOnly_admission (.inr rfl)).append hkernel)
  obtain ⟨-, hresult⟩ := durableRecord_cases req present result a.composed
  rw [decideScript_result present hk hr]
  refine ⟨(carriesOnly_admission (.inr rfl)).append (CarriesOnly.bind hkernel fun _ =>
    .bind (carriesOnly_durableRecord present result hcomposed) fun _ e he => by cases he),
    fun response hresponse => ?_⟩
  generalize durableRecordScript req present result a.composed = D at hresult hresponse
  obtain ⟨es, r⟩ := D
  rcases hresult with rfl | ⟨exc, rfl⟩
  · cases hresponse
    rw [correlationId?_resultResponse, hecho.returned a.evaluator call result (presentEvaluator_ok ha.evaluator) hr,
      hcall, Option.map_some]
  · cases hresponse

end OperationAware

/-! ## What the requests of a process record -/

theorem Endpoint.correlated_script {app : App} (hecho : app.KernelsEcho) (endpoint : Endpoint) (req : Request)
    (present : Bool) : Correlated req (endpoint.script app req present) := by
  cases endpoint with
  | evaluate => exact Evaluate.correlated_script hecho req
  | operationAware => exact OperationAware.correlated_script hecho req present

theorem carriesOnly_shown {app : App} (hecho : app.KernelsEcho) (task : Endpoint × Request)
    (phase : Phase Outcome) (w : World) :
    ∀ o ∈ shown app task phase w, ∀ id, o.correlationId? = some id → id = task.2.correlationId := by
  obtain ⟨endpoint, req⟩ := task
  cases phase with
  | pending =>
    have hprobe : (endpoint.probe req).correlationId = some req.correlationId := by cases endpoint <;> rfl
    intro o ho id hid
    rw [shown, Endpoint.since_begin] at ho
    split at ho
    next =>
      rw [correlationId?_observe _ w o ho] at hid
      exact Option.some.inj (hid.symm.trans hprobe)
    next => cases ho
  | waiting => exact carriesOnly_observed (endpoint.correlated_script hecho req _).effects w
  | done answer => exact fun o ho => by cases ho

/-- The trace, kept by correlation id. -/
def journal {app : App} (hecho : app.KernelsEcho) : Journal (handlers app) Observation String where
  log := World.trace
  owner := Observation.correlationId?
  name task := task.2.correlationId
  started task := shown app task .pending
  finished task := shown app task .waiting
  log_start task := trace_advance app task .pending
  log_finish task := trace_advance app task .waiting
  owner_started task := carriesOnly_shown hecho task .pending
  owner_finished task := carriesOnly_shown hecho task .waiting

/-- What every effect keeps of the world, every part of a request keeps. -/
theorem handlers_keep_act {I : World → Prop} (app : App) (hI : ∀ e w, I w → I (World.act e w)) :
    (handlers app).PartsKeep I fun _ _ => True where
  start task w h := by
    refine ⟨?_, fun _ _ => trivial⟩
    simp only [handlers, Endpoint.begin_eq]
    split
    next => exact hI (.emit (task.1.probe task.2)) w h
    next => exact h
  finish task w h := by
    rw [finish_handlers]
    exact ⟨replay_induct hI _ w h, trivial⟩

/-- A request that was answered was suspended by the strict-mode check, or came to what its script comes to. -/
theorem outcome_of_run {app : App} {w : World} {requests : List (Endpoint × Request)} {schedule : List Nat}
    {task : Endpoint × Request} {outcome : Outcome}
    (hm : (task, .done outcome) ∈ ((handlers app).run (boot w requests) schedule).tasks) :
    (app.auditFailClosed = true ∧ outcome = (.ok (auditFailClosed task.2.correlationId), [])) ∨
      outcome = scriptedOutcome app w.writer.isSome task := by
  have hkeep : (handlers app).PartsKeep (HasWriter w.writer.isSome) fun task outcome =>
      (app.auditFailClosed = true ∧ outcome = (.ok (auditFailClosed task.2.correlationId), [])) ∨
      outcome = scriptedOutcome app w.writer.isSome task := by
    have hworld := handlers_keep_act (I := HasWriter w.writer.isSome) app HasWriter.act
    refine ⟨fun task w hw => ⟨(hworld.start task w hw).1, fun outcome houtcome => .inl ?_⟩,
      fun task w hw => ⟨(hworld.finish task w hw).1, .inr ?_⟩⟩
    · simp only [handlers, Option.map_eq_some_iff] at houtcome
      obtain ⟨answer, hbegun, rfl⟩ := houtcome
      refine ⟨?_, congrArg (·, []) (Endpoint.begin_answers (Prod.ext hbegun rfl))⟩
      rw [Endpoint.begin_eq] at hbegun
      by_cases hstrict : (app.auditFailClosed && w.degraded) = true
      · exact (Bool.and_eq_true_iff.1 hstrict).1
      · rw [if_neg hstrict] at hbegun
        cases hbegun
    · rw [finish_handlers, hw]
  have hstart : HasWriter w.writer.isSome w := rfl
  exact (Program.run_keeps hkeep schedule (.boot hstart requests)).answers task outcome hm

/-- What no request changes: whether there is a writer, and which events can be built. -/
structure Surrounds (present : Bool) (construct : AuditEvent → Except PyExc Unit) (w : World) : Prop where
  writer : w.writer.isSome = present
  construct : w.pipeline.construct = construct

section

variable {present : Bool} {construct : AuditEvent → Except PyExc Unit}

theorem Surrounds.act {w : World} (h : Surrounds present construct w) (e : Effect) :
    Surrounds present construct (World.act e w) where
  writer := (World.act_isSome e w).trans h.writer
  construct := by rw [World.act_pipeline, h.construct]

/-- What an effect records. -/
def Effect.recorded (present : Bool) (construct : AuditEvent → Except PyExc Unit) : Effect → List Moment
  | .emit event => if present && (construct event).isOk then [.wrote event] else []
  | .write event => if present then [.wrote event] else []
  | .record call => [.called call]

theorem moments_of_surrounds : ∀ (es : List Effect) {w : World}, Surrounds present construct w →
    moments (w.observed es) = es.flatMap (Effect.recorded present construct)
  | [], _, _ => rfl
  | e :: es, w, h => by
    have hrest := moments_of_surrounds es (h.act e)
    have hhere : moments (w.observe e) = e.recorded present construct := by
      cases e with
      | emit event =>
        simp only [World.observe, World.reaches, Effect.recorded, h.writer, h.construct]
        split <;> rfl
      | write event =>
        simp only [World.observe, Effect.recorded, h.writer]
        split <;> rfl
      | record call => rfl
    rw [World.observed, moments_append, hhere, hrest, List.flatMap_cons]

end

/-- The moments with this correlation id. -/
def ofCorrelation (id : String) (ms : List Moment) : List Moment := ms.filter (·.correlationId? = some id)

/-- The trail of an id. -/
def World.trail (w : World) (id : String) : List Moment := ofCorrelation id (moments w.trace)

theorem moments_entries {app : App} (hecho : app.KernelsEcho) (id : String) (os : List Observation) :
    moments ((journal hecho).entries id os) = ofCorrelation id (moments os) := by
  simp only [ofCorrelation, moments, List.filter_map, Journal.entries]
  refine congrArg _ (List.filter_congr fun o _ => ?_)
  simp only [Function.comp_apply, correlationId?_moment]
  rfl

/-- What the script of a request records under its id. -/
def scriptedTrail (app : App) (present : Bool) (construct : AuditEvent → Except PyExc Unit)
    (task : Endpoint × Request) : List Moment :=
  ofCorrelation task.2.correlationId
    ((task.1.script app task.2 present).effects.flatMap (Effect.recorded present construct))

/-- The trail of a request, at each of its phases. -/
def HasTrail (app : App) (present : Bool) (construct : AuditEvent → Except PyExc Unit)
    (task : Endpoint × Request) : Phase Outcome → List Moment → Prop
  | .pending, trail => trail = []
  | .waiting, trail => IsProbe task.1 task.2 trail
  | .done (answer, _), trail => ∃ probe, IsProbe task.1 task.2 probe ∧
      ((answer = .ok (auditFailClosed task.2.correlationId) ∧ trail = probe) ∨
        (answer = answerOf (task.1.script app task.2 present).result ∧
          trail = probe ++ scriptedTrail app present construct task))

/-- A response under this id: in its header, and in its body. -/
def CarriesId (id : String) (answer : Answer) : Prop :=
  ∀ response, correlationDispatch id answer = .ok response →
    response.headers = [("X-Correlation-ID", id)] ∧ response.response.correlationId? = some (.str id)

theorem carriesId_of_answer {id : String} {answer : Answer}
    (h : ∀ response, answer = .ok response → response.correlationId? = some (.str id)) :
    CarriesId id answer := by
  intro response hresponse
  cases answer with
  | error exc => cases hresponse
  | ok body =>
    cases hresponse
    exact ⟨rfl, h body rfl⟩

section

variable {app : App} {present : Bool} {construct : AuditEvent → Except PyExc Unit}

/-- A part before the `await` leaves a probe or nothing. -/
theorem isProbe_started (hecho : app.KernelsEcho) (task : Endpoint × Request) (w : World) :
    IsProbe task.1 task.2 (moments ((journal hecho).entries task.2.correlationId (shown app task .pending w))) := by
  rw [moments_entries]
  obtain ⟨endpoint, req⟩ := task
  have hprobe : (endpoint.probe req).correlationId = some req.correlationId := by cases endpoint <;> rfl
  rcases isProbe_begin endpoint app req w with h | h
  · exact .inl (by rw [shown, h]; rfl)
  · refine .inr ?_
    rw [shown, h]
    simp [ofCorrelation, Moment.correlationId?, hprobe]

/-- The course of a task is its trail. -/
theorem hasTrail_of_course (hecho : app.KernelsEcho) {task : Endpoint × Request} {phase : Phase Outcome}
    {os : List Observation} (h : (journal hecho).Course (Surrounds present construct) task phase os) :
    HasTrail app present construct task phase (moments os) := by
  cases h with
  | pending => rfl
  | waiting w hw hwaits => exact isProbe_started hecho task w
  | answered w hw outcome hanswered =>
    simp only [handlers, Option.map_eq_some_iff] at hanswered
    obtain ⟨answer, hbegun, rfl⟩ := hanswered
    refine ⟨_, isProbe_started hecho task w, .inl ⟨?_, rfl⟩⟩
    exact Endpoint.begin_answers (Prod.ext hbegun rfl)
  | finished w w' hw hw' hwaits =>
    rw [finish_handlers, hw'.writer, moments_append]
    refine ⟨_, isProbe_started hecho task w, .inr ⟨rfl, congrArg _ ?_⟩⟩
    rw [moments_entries, scriptedTrail]
    refine congrArg _ ?_
    show moments (w'.observed (task.1.script app task.2 w'.writer.isSome).effects) = _
    rw [moments_of_surrounds _ hw', hw'.writer]

theorem carriesId_of_trail (hecho : app.KernelsEcho) {task : Endpoint × Request} {answer : Answer}
    {asked : List Call} {trail : List Moment}
    (h : HasTrail app present construct task (.done (answer, asked)) trail) :
    CarriesId task.2.correlationId answer := by
  obtain ⟨probe, -, ⟨rfl, -⟩ | ⟨rfl, -⟩⟩ := h
  · refine carriesId_of_answer fun response hr => ?_
    cases hr
    exact correlationId?_errorResponse ..
  · exact carriesId_of_answer (task.1.correlated_script hecho task.2 present).answer

end

/-- **Every trail is its request's.** In any interleaving of requests with different correlation ids:
at each moment, the trail of a request's id is empty, or a probe at most, or, once it is answered, that
and then what its script records; every id of the trace is a request's; a response carries its
request's id in its header and in its body; and a request whose turn has come twice is answered. -/
theorem correlated_trails (app : App) (hecho : app.KernelsEcho) (w : World)
    (requests : List (Endpoint × Request)) (hids : (requests.map (·.2.correlationId)).Nodup)
    (schedule : List Nat) :
    let final := (handlers app).run (boot { w with trace := [] } requests) schedule
    (∀ (i : Nat) task phase, final.tasks[i]? = some (task, phase) →
      HasTrail app w.writer.isSome w.pipeline.construct task phase
        (final.shared.trail task.2.correlationId) ∧
      ∀ answer asked, phase = .done (answer, asked) → CarriesId task.2.correlationId answer) ∧
    (∀ o ∈ final.shared.trace, ∀ id, o.correlationId? = some id →
      ∃ task ∈ final.tasks, task.1.2.correlationId = id) ∧
    ∀ (i : Nat) task, requests[i]? = some task → 2 ≤ schedule.count i →
      ∃ outcome, final.tasks[i]? = some (task, .done outcome) := by
  intro final
  have haccounts := Journal.run_course (J := journal hecho) (handlers_keep_act app fun e _ h => h.act e) schedule
    (.boot (I := Surrounds w.writer.isSome w.pipeline.construct) (s := { w with trace := [] }) ⟨rfl, rfl⟩
      hids fun o ho => by cases ho)
  have htrail {i : Nat} {task : Endpoint × Request} {phase : Phase Outcome}
      (hi : final.tasks[i]? = some (task, phase)) :
      HasTrail app w.writer.isSome w.pipeline.construct task phase
        (final.shared.trail task.2.correlationId) := by
    have h := hasTrail_of_course hecho (haccounts.course i task phase hi)
    rwa [moments_entries] at h
  refine ⟨fun i task phase hi => ⟨htrail hi, ?_⟩, haccounts.owned, fun i task hi hturns =>
    Program.done_of_two_turns hi hturns⟩
  rintro answer asked rfl
  exact carriesId_of_trail hecho (htrail hi)

/-! ## Two requests -/

/-- A second request. -/
def secondRequest : Request := { bearerRequest with correlationId := "d", correlationId_not_blank := by decide }

/-- An application whose first kernel allows everything and writes one event, and whose second kernel
completes. -/
def echoingApp : App :=
  { completingApp (some "r") with
    evaluator := some
      { policyVersion := none
        enforcementPoint := fun call =>
          { writes := [{ action := call.request.action, correlationId := some call.correlationId, detail := [] }]
            result := .ok { requestId := call.request.requestId, outcome := .allow, reason := "allowed",
                            policyVersion := none } } } }

theorem kernelsEcho_echoingApp : echoingApp.KernelsEcho where
  written evaluator call h event he := by
    cases h
    cases List.mem_singleton.1 he
    rfl
  returned evaluator call result h hr := by
    cases h
    cases hr
    rfl

/-- One request on each endpoint. -/
def twoRequests : List (Endpoint × Request) := [(.evaluate, bearerRequest), (.operationAware, secondRequest)]

/-- The theorem at two interleaved requests. -/
theorem correlated_trails_two :
    let final := (handlers echoingApp).run (boot { acceptingWorld with trace := [] } twoRequests) [0, 1, 1, 0]
    (∀ (i : Nat) task phase, final.tasks[i]? = some (task, phase) →
      HasTrail echoingApp acceptingWorld.writer.isSome acceptingWorld.pipeline.construct task phase
        (final.shared.trail task.2.correlationId) ∧
      ∀ answer asked, phase = .done (answer, asked) → CarriesId task.2.correlationId answer) ∧
    (∀ o ∈ final.shared.trace, ∀ id, o.correlationId? = some id →
      ∃ task ∈ final.tasks, task.1.2.correlationId = id) ∧
    ∀ (i : Nat) task, twoRequests[i]? = some task → 2 ≤ [0, 1, 1, 0].count i →
      ∃ outcome, final.tasks[i]? = some (task, .done outcome) :=
  correlated_trails echoingApp kernelsEcho_echoingApp acceptingWorld twoRequests (by decide) [0, 1, 1, 0]

/-! ## Kernel invocations -/

/-- The kernel calls under an id are those of the observations under it. -/
theorem kernelCalls_filter (id : String) (os : List Observation) :
    (kernelCalls os).filter (·.correlationId? = some id) =
      kernelCalls (os.filter (·.correlationId? = some id)) := by
  simp only [kernelCalls, calls, List.filter_filterMap, List.filterMap_filter]
  refine List.filterMap_congr fun o _ => ?_
  cases o with
  | wrote event outcome =>
    show none = Option.filter _ (if _ then none else none)
    split <;> rfl
  | called call degraded =>
    simp only [Observation.call?, Observation.correlationId?]
    by_cases hid : call.correlationId? = some id <;> by_cases hkernel : call.isKernel = true <;>
      simp [Option.filter, hid, hkernel]

/-- A kernel call is an observation under its request's id. -/
theorem correlated_of_kernelCall {os : List Observation} {call : Call} (h : call ∈ kernelCalls os) :
    ∃ o ∈ os, ∃ id, o.correlationId? = some id ∧ call.correlationId? = some id := by
  obtain ⟨hcalled, hkernel⟩ := List.mem_filter.1 h
  obtain ⟨o, ho, hocall⟩ := List.mem_filterMap.1 hcalled
  cases o with
  | wrote event outcome => cases hocall
  | called call' degraded =>
    cases hocall
    cases call with
    | kernel call | operationAwareKernel call => exact ⟨_, ho, _, rfl, rfl⟩
    | bodyRead | authenticate | evaluator => cases hkernel

/-- The call is of a request that was answered, and passed every gate of its endpoint. -/
def CallOf (app : App) (tasks : List ((Endpoint × Request) × Phase Outcome)) (call : Call) : Prop :=
  ∃ task answer asked, (task, .done (answer, asked)) ∈ tasks ∧
    call.correlationId? = some task.2.correlationId ∧ call.isOf task.1 ∧ GatesPassed app task.2 task.1 ∧
    ∀ response, answer = .ok response → response.statusCode = 200 → Permits app call

/-- The kernel calls a script makes, with what they show of its request. -/
theorem kernelCalls_script (endpoint : Endpoint) (app : App) (req : Request) (present : Bool) :
    (callsOf (endpoint.script app req present).effects).filter Call.isKernel = [] ∧
      (∀ response, answerOf (endpoint.script app req present).result = .ok response → response.statusCode ≠ 200) ∨
    ∃ call, (callsOf (endpoint.script app req present).effects).filter Call.isKernel = [call] ∧
      call.isOf endpoint ∧ GatesPassed app req endpoint ∧
      ∀ response, answerOf (endpoint.script app req present).result = .ok response →
        response.statusCode = 200 → Permits app call := by
  cases endpoint.course app req present with
  | refused stop hcalls h =>
    refine .inl ⟨?_, fun response hr => Stop.statusCode_ne (h ▸ hr)⟩
    rcases hcalls with hcalls | hcalls <;> simp [hcalls, Call.isKernel]
  | unbuilt stop passed hcalls h =>
    exact .inl ⟨by simp [hcalls, Call.isKernel], fun response hr => Stop.statusCode_ne (h ▸ hr)⟩
  | called call passed hof hcalls h =>
    refine .inr ⟨call, ?_, hof, passed, fun response hr => (h response hr).permits⟩
    rw [hcalls]
    show [call].filter Call.isKernel = [call]
    rw [List.filter_cons, if_pos (Call.isKernel_of_isOf hof), List.filter_nil]

theorem kernelCalls_append (os ps : List Observation) :
    kernelCalls (os ++ ps) = kernelCalls os ++ kernelCalls ps := by
  rw [kernelCalls, calls_append, List.filter_append]
  rfl

section

variable {app : App} (hecho : app.KernelsEcho)

/-- All kernel calls a part makes are entries of its task. -/
theorem kernelCalls_entries (task : Endpoint × Request) (phase : Phase Outcome) (w : World) :
    kernelCalls ((journal hecho).entries task.2.correlationId (shown app task phase w)) =
      kernelCalls (shown app task phase w) := by
  refine (kernelCalls_filter _ _).symm.trans (List.filter_eq_self.2 fun call hcall => ?_)
  obtain ⟨o, ho, id, hoid, hid⟩ := correlated_of_kernelCall hcall
  rw [hid, carriesOnly_shown hecho task phase w o ho id hoid]
  simp

theorem kernelCalls_started (task : Endpoint × Request) (w : World) :
    kernelCalls ((journal hecho).entries task.2.correlationId (shown app task .pending w)) = [] := by
  rw [kernelCalls_entries]
  simp only [kernelCalls, shown, Endpoint.calls_begin, List.filter_nil]

theorem kernelCalls_finished (task : Endpoint × Request) (w : World) :
    kernelCalls ((journal hecho).entries task.2.correlationId (shown app task .waiting w)) =
      (callsOf (task.1.script app task.2 w.writer.isSome).effects).filter Call.isKernel := by
  rw [kernelCalls_entries, kernelCalls, shown, calls_observed]
  rfl

/-- The kernel calls of a task: none, and then it is not answered 200; or one, and it is done. -/
inductive Invocations (app : App) (task : Endpoint × Request) (phase : Phase Outcome) : List Call → Prop
  | none (h : ∀ response asked, phase = .done (.ok response, asked) → response.statusCode ≠ 200) :
      Invocations app task phase []
  | one (call : Call) (answer : Answer) (asked : List Call) (hphase : phase = .done (answer, asked))
      (hof : call.isOf task.1) (hpassed : GatesPassed app task.2 task.1)
      (h : ∀ response, answer = .ok response → response.statusCode = 200 → Permits app call) :
      Invocations app task phase [call]

theorem Invocations.length_le {task : Endpoint × Request} {phase : Phase Outcome} {invoked : List Call}
    (h : Invocations app task phase invoked) : invoked.length ≤ 1 := by
  cases h with
  | none => exact Nat.zero_le 1
  | one => exact Nat.le_refl 1

theorem invocations_of_course {I : World → Prop} {task : Endpoint × Request} {phase : Phase Outcome}
    {os : List Observation} (h : (journal hecho).Course I task phase os) :
    Invocations app task phase (kernelCalls os) := by
  have hstarted (w : World) : kernelCalls ((journal hecho).entries ((journal hecho).name task)
      ((journal hecho).started task w)) = [] := kernelCalls_started hecho task w
  have hfinished (w : World) : kernelCalls ((journal hecho).entries ((journal hecho).name task)
      ((journal hecho).finished task w)) = _ := kernelCalls_finished hecho task w
  cases h with
  | pending => exact .none fun _ _ h => by cases h
  | waiting w hw hwaits =>
    rw [hstarted]
    exact .none fun _ _ h => by cases h
  | answered w hw outcome hanswered =>
    simp only [handlers, Option.map_eq_some_iff] at hanswered
    obtain ⟨answer, hbegun, rfl⟩ := hanswered
    rw [hstarted, Endpoint.begin_answers (Prod.ext hbegun rfl)]
    refine .none fun response asked hphase => ?_
    cases hphase
    exact fun h => by cases h
  | finished w w' hw hw' hwaits =>
    rw [finish_handlers, kernelCalls_append, hstarted, hfinished, List.nil_append]
    rcases kernelCalls_script task.1 app task.2 w'.writer.isSome with ⟨hnone, h200⟩ | ⟨call, hone, hof, hpassed, h200⟩
    · rw [hnone]
      exact .none fun response asked hphase => h200 response (congrArg Prod.fst (Phase.done.inj hphase))
    · rw [hone]
      exact .one call _ _ rfl hof hpassed h200

end

/-- **The kernel is invoked at most once for a request**, however the requests interleave: no two
invocations carry the same correlation id; each is the invocation of one answered request that passed
every gate of its endpoint; and a request that was answered 200 has its invocation, which allows. -/
theorem kernel_invoked_once (app : App) (hecho : app.KernelsEcho) (w : World)
    (requests : List (Endpoint × Request)) (hids : (requests.map (·.2.correlationId)).Nodup)
    (schedule : List Nat) :
    let final := (handlers app).run (boot { w with trace := [] } requests) schedule
    ((kernelCalls final.shared.trace).map Call.correlationId?).Nodup ∧
    (∀ call ∈ kernelCalls final.shared.trace, CallOf app final.tasks call) ∧
    ∀ task response asked, (task, .done (.ok response, asked)) ∈ final.tasks → response.statusCode = 200 →
      ∃ call ∈ kernelCalls final.shared.trace, call.correlationId? = some task.2.correlationId ∧
        Permits app call := by
  intro final
  have haccounts := Journal.run_course (J := journal hecho) (handlers_keep_act app fun e _ h => h.act e) schedule
    (.boot (I := Surrounds w.writer.isSome w.pipeline.construct) (s := { w with trace := [] }) ⟨rfl, rfl⟩
      hids fun o ho => by cases ho)
  -- the invocations under the id of a task
  have hunder {task : Endpoint × Request} {phase : Phase Outcome} (hm : (task, phase) ∈ final.tasks) :
      Invocations app task phase
        ((kernelCalls final.shared.trace).filter (·.correlationId? = some task.2.correlationId)) := by
    obtain ⟨i, hi⟩ := List.getElem?_of_mem hm
    rw [kernelCalls_filter]
    exact invocations_of_course hecho (haccounts.course i task phase hi)
  have howner {call : Call} (hcall : call ∈ kernelCalls final.shared.trace) :
      ∃ task phase, (task, phase) ∈ final.tasks ∧ call.correlationId? = some task.2.correlationId := by
    obtain ⟨o, ho, id, hoid, hid⟩ := correlated_of_kernelCall hcall
    obtain ⟨⟨task, phase⟩, hm, hname⟩ := haccounts.owned o ho id hoid
    exact ⟨task, phase, hm, hid.trans (congrArg some hname.symm)⟩
  refine ⟨List.nodup_iff_count_le_one.2 fun id? => ?_, fun call hcall => ?_, fun task response asked hm h200 => ?_⟩
  · rcases Nat.eq_zero_or_pos (((kernelCalls final.shared.trace).map Call.correlationId?).count id?) with h | h
    · omega
    obtain ⟨call, hcall, rfl⟩ := List.mem_map.1 (List.count_pos_iff.1 h)
    obtain ⟨task, phase, hm, hid⟩ := howner hcall
    have hle := (hunder hm).length_le
    rw [← List.countP_eq_length_filter] at hle
    rw [hid, List.count, List.countP_map]
    exact (List.countP_congr fun call _ => by simp).trans_le hle
  · obtain ⟨task, phase, hm, hid⟩ := howner hcall
    have hmem : call ∈ (kernelCalls final.shared.trace).filter (·.correlationId? = some task.2.correlationId) :=
      List.mem_filter.2 ⟨hcall, decide_eq_true hid⟩
    have hinvoked := hunder hm
    generalize (kernelCalls final.shared.trace).filter _ = invoked at hmem hinvoked
    cases hinvoked with
    | none => cases hmem
    | one call' answer asked hphase hof hpassed h200 =>
      obtain rfl := List.mem_singleton.1 hmem
      subst hphase
      exact ⟨task, answer, asked, hm, hid, hof, hpassed, h200⟩
  · have hinvoked := hunder hm
    generalize hcalls : (kernelCalls final.shared.trace).filter _ = invoked at hinvoked
    cases hinvoked with
    | none h => exact absurd h200 (h response asked rfl)
    | one call answer asked' hphase hof hpassed h =>
      cases hphase
      obtain ⟨hcall, hid⟩ := List.mem_filter.1 (hcalls ▸ List.mem_singleton.2 rfl : call ∈ _)
      exact ⟨call, hcall, of_decide_eq_true hid, h response rfl h200⟩

/-- The theorem at the same two requests. -/
theorem kernel_invoked_once_two :
    let final := (handlers echoingApp).run (boot { acceptingWorld with trace := [] } twoRequests) [0, 1, 1, 0]
    ((kernelCalls final.shared.trace).map Call.correlationId?).Nodup ∧
    (∀ call ∈ kernelCalls final.shared.trace, CallOf echoingApp final.tasks call) ∧
    ∀ task response asked, (task, .done (.ok response, asked)) ∈ final.tasks → response.statusCode = 200 →
      ∃ call ∈ kernelCalls final.shared.trace, call.correlationId? = some task.2.correlationId ∧
        Permits echoingApp call :=
  kernel_invoked_once echoingApp kernelsEcho_echoingApp acceptingWorld twoRequests (by decide) [0, 1, 1, 0]

end BasisGateway
