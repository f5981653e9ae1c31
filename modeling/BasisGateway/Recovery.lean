/-
Strict mode without deadlock. A degraded writer suspends evaluation, and
each suspended request still attempts one write, its probe: the first probe
the sink accepts ends the suspension, for the request that made it and for
the ones after it.
-/
import BasisGateway.FailClosed

namespace BasisGateway

open Script GatewayAuditWriter

/-- The app with these settings, and `AUDIT_FAIL_CLOSED=true`. -/
def App.inStrictMode (app : App) (config : GatewayConfig) : App :=
  { app with config := some { config with auditFailClosed := true } }

/-- A pipeline whose `AuditEvent` constructor never raises. -/
def AuditPipeline.ofSink (sink : Nat → AuditEvent → WriteOutcome) : AuditPipeline where
  construct _ := .ok ()
  sink := sink

/-- How the shared writer came to its state: its threshold, the tracker it started with, and what
the sink did at each of its writes. -/
structure Past where
  failureThreshold : Int
  readiness : ReadinessState
  outcomes : List WriteOutcome
  /-- What the sink does from here on. -/
  sink : Nat → AuditEvent → WriteOutcome
  attempts : Nat
  trace : List Observation

namespace Past

/-- The audit state after these writes. -/
def state (past : Past) : AuditState :=
  reached past.failureThreshold past.readiness past.outcomes

/-- The world they leave. -/
def world (past : Past) : World where
  pipeline := .ofSink past.sink
  attempts := past.attempts
  writer := some past.state.writer
  readiness := past.state.readiness
  trace := past.trace

/-- What the sink does with the next write. -/
def next (past : Past) (event : AuditEvent) : WriteOutcome := past.sink past.attempts event

/-- One more write. -/
def wrote (past : Past) (event : AuditEvent) : Past :=
  { past with
    outcomes := past.outcomes ++ [past.next event]
    attempts := past.attempts + 1
    trace := past.trace ++ [.wrote event (past.next event)] }

variable (past : Past)

theorem report : WriterReport past.failureThreshold past.readiness past.outcomes
    past.state := (writerInv_reached ..).report

@[simp] theorem world_degraded : past.world.degraded = past.state.writer.degraded := rfl

@[simp] theorem world_isSome : past.world.writer.isSome = true := rfl

theorem state_wrote (event : AuditEvent) :
    (past.wrote event).state = afterWrite (past.next event) past.state := by
  simp only [state, wrote, reached_eq, afterWrites_concat]

/-- A write leads from one reachable state to the next. -/
theorem afterWrite_world (event : AuditEvent) :
    past.world.afterWrite event = (past.wrote event).world := by
  obtain ⟨hwriter, hreadiness⟩ := afterWrite_calls (past.next event)
    past.state.writer past.state.readiness [] past.state.calls
  have hstate := past.state_wrote event
  simp only [World.afterWrite, world, World.attempted, World.auditState, hstate]
  refine congrArg₂ (fun writer readiness => World.mk _ _ (some writer) readiness _) ?_ ?_
  · exact hwriter
  · exact hreadiness

theorem afterEmit_world (event : AuditEvent) : past.world.afterEmit event = (past.wrote event).world := by
  have hreaches : past.world.reaches event = true := rfl
  rw [World.afterEmit, if_pos hreaches, afterWrite_world]

/-- A failure keeps a degraded writer degraded, and a success ends it. -/
theorem degraded_wrote (h : past.world.degraded = true) (event : AuditEvent) :
    (past.wrote event).world.degraded = (past.next event).failed := by
  have hreport := past.report
  have hnext := (past.wrote event).report
  rw [world_degraded] at h
  have hle := hreport.degraded.1 h
  rw [hreport.consecutive] at hle
  have hiff : (past.wrote event).world.degraded = true ↔
      max 1 past.failureThreshold ≤ trailingFailures (past.outcomes ++ [past.next event]) := by
    rw [world_degraded, hnext.degraded, hnext.consecutive]
    rfl
  rcases hn : past.next event with exc | u
  · rw [hn, trailingFailures_concat_error] at hiff
    exact hiff.2 (by omega)
  · rw [hn, trailingFailures_concat_ok] at hiff
    simp only [WriteOutcome.failed, Bool.eq_false_iff, ne_eq]
    intro hd
    have := hiff.1 hd
    omega

end Past

/-! ## What another world would have shown -/

/-- What was done, whatever the state it was done in and whatever came of it. -/
def Observation.deed : Observation → Call ⊕ AuditEvent
  | .called call _ => .inl call
  | .wrote event _ => .inr event

/-- Worlds that agree on having a writer and on what can be built show the same deeds. -/
theorem deeds_observed : ∀ (es : List Effect) {v w : World},
    v.writer.isSome = w.writer.isSome → v.pipeline.construct = w.pipeline.construct →
    (v.observed es).map Observation.deed = (w.observed es).map Observation.deed
  | [], _, _, _, _ => rfl
  | e :: es, v, w, hwriter, hconstruct => by
    have hrest := deeds_observed es (v := World.act e v) (w := World.act e w) (by simp [hwriter])
      (by simp [hconstruct])
    simp only [World.observed, List.map_append, hrest]
    congr 1
    cases e with
    | emit event =>
      have hreaches : v.reaches event = w.reaches event := by
        simp only [World.reaches, hwriter, hconstruct]
      rw [World.observe, World.observe, hreaches]
      split <;> rfl
    | write event =>
      rw [World.observe, World.observe, hwriter]
      split <;> rfl
    | record call => rfl

/-- After the `await` no answer is the one of suspended evaluation. -/
theorem Endpoint.finish_ne_suspended (endpoint : Endpoint) (app : App) (req : Request) (present : Bool) :
    answerOf (endpoint.script app req present).result ≠ .ok (auditFailClosed req.correlationId) := by
  have hcode : (auditFailClosed req.correlationId).errorCode? = some "audit_fail_closed" := rfl
  intro h
  cases endpoint.course app req present with
  | refused stop hcalls hr | unbuilt stop passed hcalls hr =>
    rw [hr] at h
    exact JSONResponse.errorCode?_of_isRefusal (Stop.isRefusal_answer h) hcode
  | called call passed hof hcalls hr => exact (hr _ h).notSuspended hcode

/-! ## Suspension and recovery -/

section

variable {endpoint : Endpoint} {app : App} {config : GatewayConfig} {req : Request} {past : Past}

theorem begin_healthy (h : past.world.degraded = false) :
    endpoint.begin (app.inStrictMode config) req past.world = (none, past.world) := by
  rw [Endpoint.begin_eq, h, Bool.and_false, if_neg Bool.false_ne_true]

theorem begin_degraded (h : past.world.degraded = true) :
    endpoint.begin (app.inStrictMode config) req past.world =
      (if (past.next (endpoint.probe req)).failed then some (.ok (auditFailClosed req.correlationId))
        else none, (past.wrote (endpoint.probe req)).world) := by
  rw [Endpoint.begin_eq, h, Past.afterEmit_world, Past.degraded_wrote past h]
  rfl

theorem since_wrote (event : AuditEvent) :
    (past.wrote event).world.since past.world = [.wrote event (past.next event)] := by
  simp [World.since, Past.world, Past.wrote]

end

/-- **Suspension, and recovery without deadlock.** From every state the shared writer can reach,
for the next request on either endpoint, whatever the other requests do while its body is awaited
(`es`). The fourth part compares it with the same request met by a writer that is not degraded. -/
theorem strict_mode_recovers (endpoint : Endpoint) (app : App) (config : GatewayConfig) (req : Request)
    (past : Past) (es : List Effect) :
    let strict := app.inStrictMode config
    let probe := endpoint.probe req
    let suspended := Except.ok (auditFailClosed req.correlationId)
    let served := endpoint.serve strict req (World.replay es) past.world
    (probe = { action := probe.action, correlationId := some req.correlationId,
               detail := [("http_method", .str req.method), ("request_path", .str req.path)] }) ∧
    (served.answer = suspended ↔ past.world.degraded = true ∧ (past.next probe).failed = true) ∧
    (past.world.degraded = true ∧ (past.next probe).failed = true →
      served.observed = [.wrote probe (past.next probe)] ∧ served.world.degraded = true) ∧
    (past.world.degraded = true ∧ (past.next probe).failed = false →
      let recovered := (past.wrote probe).world
      endpoint.begin strict req past.world = (none, recovered) ∧
      recovered.writer.map (fun writer => (writer.consecutiveFailureCount, writer.degraded)) =
        some (0, false) ∧
      recovered.readiness.components.get? auditWriterComponent = some true ∧
      ∀ (healthy : Past) (fs : List Effect), healthy.world.degraded = false →
        let other := endpoint.serve strict req (World.replay fs) healthy.world
        served.answer = other.answer ∧
        served.observed.map Observation.deed = .inr probe :: other.observed.map Observation.deed) ∧
    (∀ (n : Nat) (endpoint' : Endpoint) (req' : Request),
      let later := { past with outcomes := past.outcomes ++ List.replicate (n + 1) (Except.ok ()) }
      endpoint'.begin strict req' later.world = (none, later.world)) := by
  intro strict probe suspended served
  refine ⟨by cases endpoint <;> rfl, ?_, ?_, ?_, ?_⟩
  · cases hd : past.world.degraded with
    | false =>
      simp only [Bool.false_eq_true, false_and, iff_false, served, strict,
        Endpoint.serve_of_begin (begin_healthy hd)]
      exact endpoint.finish_ne_suspended _ req _
    | true =>
      cases hf : (past.next probe).failed with
      | true =>
        simp only [and_self, iff_true, served, strict, Endpoint.serve, begin_degraded hd]
        rw [if_pos hf]
      | false =>
        have hbegin : endpoint.begin strict req past.world = (none, (past.wrote probe).world) := by
          simp only [strict, begin_degraded hd]
          rw [if_neg (by rw [hf]; exact Bool.false_ne_true)]
        simp only [Bool.false_eq_true, and_false, iff_false, served, Endpoint.serve_of_begin hbegin]
        exact endpoint.finish_ne_suspended _ req _
  · rintro ⟨hd, hf⟩
    have hbegin : endpoint.begin strict req past.world = (some suspended, (past.wrote probe).world) := by
      simp only [strict, begin_degraded hd]
      rw [if_pos hf]
    simp only [served, Endpoint.serve, hbegin, since_wrote, true_and]
    rw [Past.degraded_wrote past hd, hf]
  · rintro ⟨hd, hf⟩
    have hbegin : endpoint.begin strict req past.world = (none, (past.wrote probe).world) := by
      simp only [strict, begin_degraded hd]
      rw [if_neg (by rw [hf]; exact Bool.false_ne_true)]
    have hdegraded := Past.degraded_wrote past hd probe
    rw [hf, Past.world_degraded] at hdegraded
    have hreport := (past.wrote probe).report
    refine ⟨hbegin, ?_, ?_, fun healthy fs hh => ?_⟩
    · have hcount : (past.wrote probe).state.writer.consecutiveFailureCount = 0 := by
        rw [hreport.consecutive]
        rcases hn : past.next probe with exc | u
        · rw [hn] at hf; cases hf
        · simp only [Past.wrote, hn, trailingFailures_concat_ok]
      simp only [Past.world, Option.map_some, hcount, hdegraded]
    · have := hreport.component
      rw [hdegraded] at this
      exact this
    · simp only [served, Endpoint.serve_of_begin hbegin, strict,
        Endpoint.serve_of_begin (begin_healthy hh), World.replay_isSome, Past.world_isSome, true_and]
      rw [List.map_append, List.map_append, since_wrote, World.since, List.drop_length]
      simp only [List.map_cons, List.map_nil, Observation.deed, List.cons_append, List.nil_append,
        List.cons.injEq, true_and]
      exact deeds_observed _ (by simp) (by simp; rfl)
  · intro n endpoint' req' later
    refine begin_healthy ?_
    have hreport := later.report
    rw [Past.world_degraded, ← Bool.not_eq_true, hreport.degraded, hreport.consecutive]
    simp only [later, List.replicate_succ', ← List.append_assoc, trailingFailures_concat_ok]
    omega

/-! ### A gateway with one failed write behind it -/

/-- Strict mode, with room for no failure. -/
def brittleConfig : GatewayConfig where
  oidcIssuer := some "https://issuer"
  policyPath := some "policy.json"
  auditFailureThreshold := 1
  auditFailClosed := true

theorem readAhu_not_blank : blank "read:ahu" = false := by decide

/-- An application with these settings: every token is one operator's, and the kernel allows everything. -/
def permissiveApp : App where
  config := some brittleConfig
  authenticate _ _ := .ok
    ({ subjectId := "operator", name := "operator", roles := [], attributes := [] },
      { issuer := "https://issuer", subjectId := "operator", claims := [] })
  evaluator := some
    { policyVersion := none
      enforcementPoint := fun call =>
        { writes := []
          result := .ok { requestId := call.request.requestId, outcome := .allow, reason := "allowed",
                          policyVersion := none } } }
  operationAwareEvaluator := none
  models :=
    { subject := fun _ => .ok ()
      identityContext := fun _ => .ok ()
      decisionRequest := fun _ => .ok ()
      operationAwareDecisionRequest := fun _ => .ok ()
      fromTimestamp := fun _ => .ok (.utc 0) }
  x509 := ⟨fun _ => .error { cls := .valueError, msg := "" }⟩
  parseEvaluateRequest _ := .ok
    { requestId := none, action := "read:ahu", action_not_blank := readAhu_not_blank, resourceType := none
      resourceId := none, context := .empty }
  parseOperationAwareEvaluateRequest _ := .error { cls := .validationError, msg := "" }
  printable _ := true

/-- A request with a bearer token. -/
def bearerRequest : Request where
  correlationId := "c"
  correlationId_not_blank := by decide
  method := "POST"
  path := "/v1/evaluate"
  authorization := some "Bearer token"
  headers := []
  body := .ok []
  readings :=
    { issuedNow := 0, timestamp := 0, evaluationTime := 0, recordedAt := 0, traceId := "t"
      evidenceId := "e" }

/-- A sink that is down. -/
def sinkDown : AuditPipeline := .ofSink fun _ _ => .error { cls := .osError, msg := "" }

/-- One failed write, the only one so far, has degraded the writer; `sink` is what follows. -/
def brittlePast (sink : Nat → AuditEvent → WriteOutcome) : Past where
  failureThreshold := 1
  readiness := .fresh
  outcomes := [.error { cls := .osError, msg := "" }]
  sink := sink
  attempts := 1
  trace := []

/-- The theorem at this past: a sink that is still down suspends the next request, and one that is back lets it
through. -/
theorem strict_mode_recovers_brittle :
    let strict := permissiveApp.inStrictMode brittleConfig
    let probe := Endpoint.evaluate.probe bearerRequest
    let down := brittlePast fun _ _ => .error { cls := .osError, msg := "" }
    let back := brittlePast fun _ _ => .ok ()
    (down.world.degraded = true ∧
      (Endpoint.evaluate.serve strict bearerRequest (World.replay []) down.world).answer =
        .ok (auditFailClosed bearerRequest.correlationId)) ∧
    back.world.degraded = true ∧
    Endpoint.evaluate.begin strict bearerRequest back.world = (none, (back.wrote probe).world) ∧
    (back.wrote probe).world.readiness.components.get? auditWriterComponent = some true := by
  intro strict probe down back
  have hdown : down.world.degraded = true := by decide
  have hback : back.world.degraded = true := by decide
  obtain ⟨-, hsuspended, -⟩ := strict_mode_recovers .evaluate permissiveApp brittleConfig bearerRequest down []
  obtain ⟨-, -, -, hrecovered, -⟩ := strict_mode_recovers .evaluate permissiveApp brittleConfig bearerRequest back []
  obtain ⟨hbegin, -, hready, -⟩ := hrecovered ⟨hback, rfl⟩
  exact ⟨⟨hdown, hsuspended.2 ⟨hdown, rfl⟩⟩, hback, hbegin, hready⟩

end BasisGateway
