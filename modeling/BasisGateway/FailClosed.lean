/-
Fail-closed: a 200 needs the kernel. The course of a request is what its
calls and its answer can be; on the only course that reaches the kernel the
answer is a 200 only when the kernel's own result is an allow, and on every
other course the answer is a refusal.
-/
import BasisGateway.Api.RoutesFacts

namespace BasisGateway

open Script

/-- A call of an enforcement point. -/
def Call.isKernel : Call → Bool
  | .kernel _ | .operationAwareKernel _ => true
  | _ => false

/-- The kernel invocations among these observations. -/
def kernelCalls (os : List Observation) : List Call := (calls os).filter Call.isKernel

/-- What the kernel returns for this call is an allow. -/
def Permits (app : App) : Call → Prop
  | .kernel call => ∃ evaluator decision, app.evaluator = some evaluator ∧
      (evaluator.enforcementPoint call).result = .ok decision ∧ decision.outcome = .allow
  | .operationAwareKernel call => ∃ evaluator result, app.operationAwareEvaluator = some evaluator ∧
      evaluator.enforcementPoint call = .ok result ∧
      result.response.evaluationStatus = .completed ∧ result.response.outcome = some .allow
  | _ => False

/-- Every step before the evaluator succeeded: the body passed its schema, action and resource were
composed, a token was extracted, authentication returned a subject, an evaluator is present. -/
def GatesPassed (app : App) (req : Request) : Endpoint → Prop
  | .evaluate => ∃ a, Evaluate.Passed app req a
  | .operationAware => ∃ a, OperationAware.Passed app req a

/-- The kernel call is of the endpoint's own kind. -/
def Call.isOf : Endpoint → Call → Prop
  | .evaluate, .kernel _ => True
  | .operationAware, .operationAwareKernel _ => True
  | _, _ => False

theorem Call.isKernel_of_isOf {endpoint : Endpoint} {call : Call} (h : call.isOf endpoint) :
    call.isKernel = true := by
  cases endpoint <;> cases call <;> first | rfl | exact h.elim

/-- The calls an effect list makes. -/
def callsOf (es : List Effect) : List Call := es.filterMap Effect.call?

@[simp] theorem callsOf_append (es fs : List Effect) : callsOf (es ++ fs) = callsOf es ++ callsOf fs :=
  List.filterMap_append

@[simp] theorem callsOf_nil : callsOf [] = [] := rfl

@[simp] theorem callsOf_emit (event : AuditEvent) (es : List Effect) :
    callsOf (.emit event :: es) = callsOf es := rfl

@[simp] theorem callsOf_record (call : Call) (es : List Effect) :
    callsOf (.record call :: es) = call :: callsOf es := rfl

@[simp] theorem callsOf_stop (stop : Stop) : callsOf stop.effects = [] := stop.call?_effects

@[simp] theorem callsOf_writes (events : List AuditEvent) : callsOf (events.map .write) = [] := by
  simp [callsOf, List.filterMap_eq_nil_iff, Effect.call?]

/-! ## From the evaluator on -/

/-- What may be answered after this kernel call: a 200 only when the kernel allows, and never the
answer of the strict-mode check. -/
structure AnswersFor (app : App) (call : Call) (response : JSONResponse) : Prop where
  permits : response.statusCode = 200 → Permits app call
  notSuspended : response.errorCode? ≠ some "audit_fail_closed"

/-- What a script can do once the evaluator is reached. -/
inductive Decision (app : App) (endpoint : Endpoint) (S : Script Effect Exit JSONResponse) : Prop
  | unbuilt (stop : Stop) (hcalls : callsOf S.effects = [.evaluator]) (h : S.result = .error stop.exit)
  | called (call : Call) (hof : call.isOf endpoint) (hcalls : callsOf S.effects = [.evaluator, call])
      (h : ∀ response, answerOf S.result = .ok response → AnswersFor app call response)

theorem Stop.statusCode_ne {stop : Stop} {response : JSONResponse}
    (h : answerOf (.error stop.exit) = .ok response) : response.statusCode ≠ 200 := by
  intro h200
  have hmem := JSONResponse.statusCode_of_isRefusal (Stop.isRefusal_answer h)
  simp [h200] at hmem

theorem Stop.answersFor {app : App} {call : Call} {stop : Stop} {response : JSONResponse}
    (h : answerOf (.error stop.exit) = .ok response) : AnswersFor app call response where
  permits h200 := absurd h200 (Stop.statusCode_ne h)
  notSuspended := JSONResponse.errorCode?_of_isRefusal (Stop.isRefusal_answer h)

namespace Evaluate

variable {app : App} {req : Request}

theorem decided_error (req : Request) (evaluator : GatewayEvaluator) (subject : NormalizedSubject)
    (exc : PyExc) : ∃ stop, decided req evaluator subject (.error exc) = .error stop := by
  unfold decided
  simp only
  split <;> exact ⟨_, rfl⟩

/-- The kernel's request could not be built. -/
theorem decideScript_unbuilt {a : Admitted} {exc : PyExc} {stop : Stop}
    (hk : (a.input req).kernelCall app.models req.readings = .error exc)
    (hs : decided req a.evaluator a.subject (.error exc) = .error stop) :
    decideScript app req a =
      ⟨[.emit (a.receipt req), .record .evaluator] ++ stop.effects, .error stop.exit⟩ := by
  simp only [decideScript, perform_bind, GatewayEvaluator.script, hk, bind_ok, hs, Gate.script,
    bind_error, List.nil_append, List.cons_append]

/-- The kernel raised. -/
theorem decideScript_raised {a : Admitted} {call : KernelCall} {exc : PyExc} {stop : Stop}
    (hk : (a.input req).kernelCall app.models req.readings = .ok call)
    (hr : (a.evaluator.enforcementPoint call).result = .error exc)
    (hs : decided req a.evaluator a.subject (.error exc) = .error stop) :
    decideScript app req a =
      ⟨[.emit (a.receipt req), .record .evaluator, .record (.kernel call)] ++
        (a.evaluator.enforcementPoint call).writes.map .write ++ stop.effects, .error stop.exit⟩ := by
  simp only [decideScript, perform_bind, GatewayEvaluator.script, hk, hr, bind_ok, hs, Gate.script,
    bind_error, List.nil_append, List.cons_append]

/-- The kernel decided. -/
theorem decideScript_decided {a : Admitted} {call : KernelCall} {decision : DecisionResponse}
    (hk : (a.input req).kernelCall app.models req.readings = .ok call)
    (hr : (a.evaluator.enforcementPoint call).result = .ok decision) :
    decideScript app req a =
      ⟨[.emit (a.receipt req), .record .evaluator, .record (.kernel call)] ++
        (a.evaluator.enforcementPoint call).writes.map .write,
        .ok (decisionResponse decision req.correlationId)⟩ := by
  simp only [decideScript, perform_bind, GatewayEvaluator.script, hk, hr, bind_ok, decided, Gate.script,
    pure_eq, List.nil_append, List.append_nil, List.cons_append]

theorem decision (a : Admitted) (ha : Passed app req a) :
    Decision app .evaluate (decideScript app req a) := by
  rcases hk : (a.input req).kernelCall app.models req.readings with exc | call
  · obtain ⟨stop, hs⟩ := decided_error req a.evaluator a.subject exc
    have hS := decideScript_unbuilt hk hs
    exact .unbuilt stop (by simp [hS]) (by rw [hS])
  rcases hr : (a.evaluator.enforcementPoint call).result with exc | decision
  · obtain ⟨stop, hs⟩ := decided_error req a.evaluator a.subject exc
    have hS := decideScript_raised hk hr hs
    refine .called (.kernel call) trivial (by simp [hS]) fun response hresponse => ?_
    rw [hS] at hresponse
    exact Stop.answersFor hresponse
  · have hS := decideScript_decided hk hr
    refine .called (.kernel call) trivial (by simp [hS]) fun response hresponse => ?_
    rw [hS] at hresponse
    cases hresponse
    refine ⟨fun h200 => ⟨a.evaluator, decision, ha.evaluator, hr, ?_⟩, by
      rw [decisionResponse_errorCode?]; simp⟩
    simp only [decisionResponse] at h200
    split at h200
    next h => exact h
    next => cases h200

end Evaluate

namespace OperationAware

variable {app : App} {req : Request}

theorem evaluated_error (req : Request) (subject : NormalizedSubject) (exc : PyExc) :
    ∃ stop, evaluated req subject (.error exc) = .error stop := by
  unfold evaluated
  simp only
  split <;> exact ⟨_, rfl⟩

/-- The durable record makes no call, and lets the answer through or an exception escape. -/
theorem durableRecord_cases (req : Request) (present : Bool) (result : OperationAwareEnforcementResult)
    (composed : ComposedOperationAwareInput) :
    callsOf (durableRecordScript req present result composed).effects = [] ∧
      ((durableRecordScript req present result composed).result = .ok () ∨
        ∃ exc, (durableRecordScript req present result composed).result = .error (.raised exc)) := by
  unfold durableRecordScript
  split
  next => exact ⟨rfl, .inl rfl⟩
  next =>
    split
    next =>
      split
      next exc _ => exact ⟨rfl, .inr ⟨exc, rfl⟩⟩
      next => exact ⟨rfl, .inl rfl⟩
    next => exact ⟨rfl, .inl rfl⟩

theorem decideScript_unbuilt (present : Bool) {a : Admitted} {exc : PyExc} {stop : Stop}
    (hk : a.composed.kernelCall app.models app.printable req.readings = .error exc)
    (hs : evaluated req a.subject (.error exc) = .error stop) : decideScript app req present a =
      ⟨.record .evaluator :: stop.effects, .error stop.exit⟩ := by
  simp only [decideScript, perform_bind, OperationAwareGatewayEvaluator.script, hk, bind_ok, hs,
    Gate.script, bind_error, List.nil_append]

theorem decideScript_raised (present : Bool) {a : Admitted} {call : OperationAwareKernelCall} {exc : PyExc}
    {stop : Stop} (hk : a.composed.kernelCall app.models app.printable req.readings = .ok call)
    (hr : a.evaluator.enforcementPoint call = .error exc)
    (hs : evaluated req a.subject (.error exc) = .error stop) : decideScript app req present a =
      ⟨.record .evaluator :: .record (.operationAwareKernel call) :: stop.effects,
        .error stop.exit⟩ := by
  simp only [decideScript, perform_bind, OperationAwareGatewayEvaluator.script, hk, hr, bind_ok, hs,
    Gate.script, bind_error, List.cons_append, List.nil_append]

/-- The answer that carries a result. -/
def resultResponse (result : OperationAwareEnforcementResult) : JSONResponse :=
  { statusCode := result.httpStatus, content := operationAwareEvaluateResponse result }

/-- The kernel returned: its durable record, and then the answer. -/
theorem decideScript_result (present : Bool) {a : Admitted} {call : OperationAwareKernelCall}
    {result : OperationAwareEnforcementResult}
    (hk : a.composed.kernelCall app.models app.printable req.readings = .ok call)
    (hr : a.evaluator.enforcementPoint call = .ok result) : decideScript app req present a =
      (⟨[.record .evaluator, .record (.operationAwareKernel call)], .ok ()⟩ >>= fun _ =>
        durableRecordScript req present result a.composed >>= fun _ => pure (resultResponse result)) := by
  simp only [decideScript, perform_bind, OperationAwareGatewayEvaluator.script, hk, hr, bind_ok,
    evaluated, Gate.script, pure_eq, List.cons_append, List.nil_append, resultResponse]

/-- The answer is not given only when the record lets an exception escape. -/
theorem decideScript_returned (present : Bool) {a : Admitted} {call : OperationAwareKernelCall}
    {result : OperationAwareEnforcementResult}
    (hk : a.composed.kernelCall app.models app.printable req.readings = .ok call)
    (hr : a.evaluator.enforcementPoint call = .ok result) :
    ∃ es, callsOf es = [] ∧
      (decideScript app req present a).effects =
        .record .evaluator :: .record (.operationAwareKernel call) :: es ∧
      ((decideScript app req present a).result = .ok (resultResponse result) ∨
        ∃ exc, (decideScript app req present a).result = .error (.raised exc)) := by
  obtain ⟨hcalls, hresult⟩ := durableRecord_cases req present result a.composed
  have hS := decideScript_result present hk hr
  generalize durableRecordScript req present result a.composed = D at hcalls hresult hS
  obtain ⟨es, r⟩ := D
  refine ⟨es, hcalls, ?_⟩
  rw [hS, bind_ok]
  rcases hresult with rfl | ⟨exc, rfl⟩
  · simp [bind_ok, pure_eq]
  · simp [bind_error]

theorem decision (present : Bool) (a : Admitted) (ha : Passed app req a) :
    Decision app .operationAware (decideScript app req present a) := by
  rcases hk : a.composed.kernelCall app.models app.printable req.readings with exc | call
  · obtain ⟨stop, hs⟩ := evaluated_error req a.subject exc
    have hS := decideScript_unbuilt present hk hs
    exact .unbuilt stop (by simp [hS]) (by rw [hS])
  rcases hr : a.evaluator.enforcementPoint call with exc | result
  · obtain ⟨stop, hs⟩ := evaluated_error req a.subject exc
    have hS := decideScript_raised present hk hr hs
    refine .called (.operationAwareKernel call) trivial (by simp [hS])
      fun response hresponse => ?_
    rw [hS] at hresponse
    exact Stop.answersFor hresponse
  · obtain ⟨es, hcalls, heffects, hresult⟩ := decideScript_returned present hk hr
    refine .called (.operationAwareKernel call) trivial (by simp [heffects, hcalls])
      fun response hresponse => ?_
    rcases hresult with h | ⟨exc, h⟩
    · rw [h] at hresponse
      cases hresponse
      exact ⟨fun h200 => ⟨a.evaluator, result, ha.evaluator, hr, (classify_eq_200_iff _ _ _).1 h200⟩,
        by rw [resultResponse, operationAwareEvaluateResponse_errorCode?]; simp⟩
    · rw [h] at hresponse
      cases hresponse

end OperationAware

/-! ## The course of a request -/

/-- What the part of a handler after the `await` can do. -/
inductive Course (app : App) (req : Request) (endpoint : Endpoint)
    (S : Script Effect Exit JSONResponse) : Prop
  | refused (stop : Stop) (hcalls : callsOf S.effects = [.bodyRead] ∨
        callsOf S.effects = [.bodyRead, .authenticate]) (h : S.result = .error stop.exit)
  | unbuilt (stop : Stop) (passed : GatesPassed app req endpoint)
      (hcalls : callsOf S.effects = [.bodyRead, .authenticate, .evaluator])
      (h : S.result = .error stop.exit)
  | called (call : Call) (passed : GatesPassed app req endpoint) (hof : call.isOf endpoint)
      (hcalls : callsOf S.effects = [.bodyRead, .authenticate, .evaluator, call])
      (h : ∀ response, answerOf S.result = .ok response → AnswersFor app call response)

/-- Admission, and then a decision. -/
theorem Course.of_admission {app : App} {req : Request} {endpoint : Endpoint} {α : Type}
    {Passed : α → Prop} {S : Script Effect Exit α} {f : α → Script Effect Exit JSONResponse}
    (hS : Admission Passed S) (hpassed : ∀ a, Passed a → GatesPassed app req endpoint)
    (hf : ∀ a, Passed a → Decision app endpoint (f a)) : Course app req endpoint (S >>= f) := by
  cases hS with
  | through a ha h =>
    subst h
    rw [bind_ok]
    cases hf a ha with
    | unbuilt stop hcalls h => exact .unbuilt stop (hpassed a ha) (by simp [hcalls]) h
    | called call hof hcalls h => exact .called call (hpassed a ha) hof (by simp [hcalls]) h
  | stopped before stop hbefore h =>
    subst h
    rw [bind_error]
    refine .refused stop ?_ rfl
    rcases hbefore with rfl | rfl <;> simp [callsOf, stop.call?_effects, Effect.call?]

/-- **The courses of a request**, on either endpoint. -/
theorem Endpoint.course (endpoint : Endpoint) (app : App) (req : Request) (present : Bool) :
    Course app req endpoint (endpoint.script app req present) := by
  cases endpoint with
  | evaluate =>
    exact .of_admission (Evaluate.admission_cases app req) (fun a ha => ⟨a, ha⟩)
      fun a ha => Evaluate.decision a ha
  | operationAware =>
    exact .of_admission (OperationAware.admission_cases app req) (fun a ha => ⟨a, ha⟩)
      fun a ha => OperationAware.decision present a ha

/-! ## Serving -/

/-- The strict-mode check makes no call. -/
theorem Endpoint.calls_begin (endpoint : Endpoint) (app : App) (req : Request) (w : World) :
    calls ((endpoint.begin app req w).2.since w) = [] := by
  rw [since_begin]
  split
  next =>
    rw [World.observe]
    split <;> rfl
  next => rfl

/-- The kernel calls of a request that goes past the strict-mode check are its script's. -/
theorem Endpoint.kernelCalls_of_begin {endpoint : Endpoint} {app : App} {req : Request} {w w₁ : World}
    (h : endpoint.begin app req w = (none, w₁)) (between : World → World) :
    kernelCalls (endpoint.serve app req between w).observed =
      (callsOf (endpoint.script app req (between w₁).writer.isSome).effects).filter Call.isKernel := by
  have hcalls := endpoint.calls_begin app req w
  rw [h] at hcalls
  simp only [serve_of_begin h, kernelCalls, calls_append, hcalls, List.nil_append, calls_observed]
  rfl

/-- The one answer the strict-mode check gives. -/
theorem Endpoint.begin_answers {endpoint : Endpoint} {app : App} {req : Request} {w w₁ : World}
    {answer : Answer} (h : endpoint.begin app req w = (some answer, w₁)) :
    answer = .ok (auditFailClosed req.correlationId) := by
  rw [begin_eq] at h
  split at h
  next =>
    split at h
    next => cases h; rfl
    next => cases h
  next => cases h

theorem auditFailClosed_statusCode (correlationId : String) :
    (auditFailClosed correlationId).statusCode ∈ [400, 401, 500, 503] := by
  show 503 ∈ [400, 401, 500, 503]
  decide

/-- **Fail-closed on both endpoints.** Whatever the request, the configuration, the shared state,
the other requests that run while the body is awaited, and whatever the authenticator, the kernel
and the sink return or raise: the kernel is invoked at most once; a 200 comes only from an
invocation that returned an allow; the kernel is invoked only when the strict-mode check let the
request through and every gate was passed; and without an invocation the answer is a refusal or an
escaping exception. -/
theorem fail_closed (endpoint : Endpoint) (app : App) (req : Request) (between : World → World)
    (w : World) :
    let served := endpoint.serve app req between w
    let invoked := kernelCalls served.observed
    invoked.length ≤ 1 ∧
    (∀ response, served.answer = .ok response → response.statusCode = 200 →
      ∃ call, invoked = [call] ∧ call.isOf endpoint ∧ Permits app call) ∧
    (invoked ≠ [] → (endpoint.begin app req w).1 = none ∧ GatesPassed app req endpoint) ∧
    (invoked = [] → ∀ response, served.answer = .ok response →
      response.statusCode ∈ [400, 401, 500, 503]) := by
  intro served invoked
  rcases hb : endpoint.begin app req w with ⟨- | answer, w₁⟩
  · have hanswer : served.answer = answerOf (endpoint.script app req (between w₁).writer.isSome).result := by
      simp only [served, Endpoint.serve_of_begin hb]
    have hinvoked := Endpoint.kernelCalls_of_begin hb between
    simp only [served] at hanswer
    simp only [served, invoked, hanswer, hinvoked]
    -- a stop before the kernel: nothing was invoked, and the answer is a refusal
    have hstopped {stop : Stop}
        (h : (endpoint.script app req (between w₁).writer.isSome).result = .error stop.exit) :
        ∀ response, answerOf (endpoint.script app req (between w₁).writer.isSome).result = .ok response →
          response.statusCode ≠ 200 ∧ response.statusCode ∈ [400, 401, 500, 503] := by
      intro response hr
      rw [h] at hr
      exact ⟨Stop.statusCode_ne hr, JSONResponse.statusCode_of_isRefusal (Stop.isRefusal_answer hr)⟩
    cases endpoint.course app req (between w₁).writer.isSome with
    | refused stop hcalls h =>
      have hnone : (callsOf (endpoint.script app req (between w₁).writer.isSome).effects).filter
          Call.isKernel = [] := by
        rcases hcalls with hcalls | hcalls <;> simp [hcalls, Call.isKernel]
      rw [hnone]
      exact ⟨by simp, fun response hr h200 => absurd h200 (hstopped h response hr).1, by simp,
        fun _ response hr => (hstopped h response hr).2⟩
    | unbuilt stop passed hcalls h =>
      have hnone : [Call.bodyRead, .authenticate, .evaluator].filter Call.isKernel = [] := rfl
      rw [hcalls, hnone]
      exact ⟨by simp, fun response hr h200 => absurd h200 (hstopped h response hr).1, by simp,
        fun _ response hr => (hstopped h response hr).2⟩
    | called call passed hof hcalls h =>
      have hone : [Call.bodyRead, .authenticate, .evaluator, call].filter Call.isKernel = [call] := by
        show [call].filter Call.isKernel = [call]
        rw [List.filter_cons, if_pos (Call.isKernel_of_isOf hof), List.filter_nil]
      simp only [hcalls, hone]
      exact ⟨by simp, fun response hr h200 => ⟨call, rfl, hof, (h response hr).permits h200⟩,
        fun _ => ⟨trivial, passed⟩, fun hn => by simp at hn⟩
  · have hnone : invoked = [] := by
      have hcalls := endpoint.calls_begin app req w
      rw [hb] at hcalls
      simp only [invoked, served, Endpoint.serve, hb, kernelCalls, hcalls, List.filter_nil]
    have hanswer : served.answer = .ok (auditFailClosed req.correlationId) := by
      simp only [served, Endpoint.serve, hb, Endpoint.begin_answers hb]
    rw [hnone, hanswer]
    refine ⟨by simp, ?_, by simp, ?_⟩
    · rintro response ⟨⟩ h200
      cases h200
    · rintro - response ⟨⟩
      exact auditFailClosed_statusCode req.correlationId

end BasisGateway
