/-
Strict mode and its gap. The writer's flag is read once, before the body is
awaited; the kernel evaluator is called after it. In between, other requests
may degrade the writer, and on `/v1/evaluate` the request's own receipt is
written. The evaluator is called with the writer degraded exactly when a
request that passes every gate resumes in a world that is not clear for it.
-/
import BasisGateway.Interleaving

namespace BasisGateway

open Tasks Script GatewayAuditWriter

/-! ## The flag after one event -/

/-- One more failure leaves the writer not degraded. -/
def HasRoom (writer : GatewayAuditWriter) : Prop :=
  writer.degraded = false ∧ (writer.consecutiveFailureCount : Int) + 1 < writer.failureThreshold

/-- The writer is not degraded once this event has been emitted: the sink accepts it, or there is
room for one more failure; an event that cannot be built leaves the flag alone. -/
def World.StaysClear (w : World) (event : AuditEvent) : Prop :=
  ∀ writer, w.writer = some writer →
    if (w.pipeline.construct event).isOk then
      (w.pipeline.sink w.attempts event).isOk = true ∨ HasRoom writer
    else writer.degraded = false

theorem degraded_afterFailure (s : AuditState) :
    (afterFailure s).writer.degraded = false ↔ HasRoom s.writer := by
  unfold HasRoom
  by_cases hc : s.writer.failureThreshold ≤ ↑(s.writer.consecutiveFailureCount + 1) ∧
      s.writer.degraded = false
  · simp only [afterFailure_degrades hc.1 hc.2, Bool.true_eq_false, false_iff, not_and, not_lt]
    intro
    have := hc.1
    omega
  · rw [afterFailure_quiet hc]
    refine ⟨fun hd => ⟨hd, ?_⟩, And.left⟩
    have hlt : ¬ s.writer.failureThreshold ≤ ↑(s.writer.consecutiveFailureCount + 1) := fun h => hc ⟨h, hd⟩
    omega

theorem degraded_afterWrite (outcome : WriteOutcome) (s : AuditState) :
    (GatewayAuditWriter.afterWrite outcome s).writer.degraded = false ↔
      outcome.isOk = true ∨ HasRoom s.writer := by
  cases outcome with
  | error exc =>
    rw [GatewayAuditWriter.afterWrite, degraded_afterFailure]
    simp [Except.isOk, Except.toBool]
  | ok u =>
    have hd : (afterSuccess s).writer.degraded = false := by
      cases h : s.writer.degraded with
      | false => rw [afterSuccess_quiet h]; exact h
      | true => rw [afterSuccess_recovers h]
    simp [GatewayAuditWriter.afterWrite, hd, Except.isOk, Except.toBool]

theorem degraded_afterEmit (w : World) (event : AuditEvent) :
    (w.afterEmit event).degraded = false ↔ w.StaysClear event := by
  rcases w with ⟨pipeline, attempts, - | writer, readiness, trace⟩
  · exact iff_of_true rfl fun writer h => by cases h
  simp only [World.afterEmit, World.reaches, World.StaysClear, Option.isSome_some, Bool.true_and,
    Option.some.injEq, forall_eq']
  split
  next => exact degraded_afterWrite (pipeline.sink attempts event) ⟨writer, readiness, []⟩
  next => exact Iff.rfl

/-! ## The flag when the evaluator is called -/

/-- Not a call of an evaluator with the writer degraded. -/
def Observation.Undegraded (o : Observation) : Prop :=
  ∀ degraded, o = .called .evaluator degraded → degraded = false

theorem undegraded_of_calls {os : List Observation} (h : Call.evaluator ∉ calls os) :
    ∀ o ∈ os, o.Undegraded := by
  rintro o ho degraded rfl
  have hmem : Call.evaluator ∈ calls os := List.mem_filterMap.2 ⟨_, ho, rfl⟩
  exact absurd hmem h

theorem undegraded_observed {es : List Effect} (h : Call.evaluator ∉ callsOf es) (w : World) :
    ∀ o ∈ w.observed es, o.Undegraded :=
  undegraded_of_calls (by rw [calls_observed]; exact h)

/-- A script that comes to its evaluator after these effects, and calls it once. -/
def CallsEvaluatorAfter (before : List Effect) (S : Script Effect Exit JSONResponse) : Prop :=
  ∃ tail, S.effects = before ++ .record .evaluator :: tail ∧ Call.evaluator ∉ callsOf tail

/-- What follows the call of the evaluator on a course that decides does not call it again. -/
theorem Decision.callsEvaluatorAfter {app : App} {endpoint : Endpoint} {S : Script Effect Exit JSONResponse}
    (h : Decision app endpoint S) {before : List Effect} (hbefore : callsOf before = [])
    (hS : ∃ tail, S.effects = before ++ .record .evaluator :: tail) : CallsEvaluatorAfter before S := by
  obtain ⟨tail, htail⟩ := hS
  have hcalls : callsOf S.effects = .evaluator :: callsOf tail := by
    rw [htail, callsOf_append, hbefore, callsOf_record, List.nil_append]
  refine ⟨tail, htail, fun hmem => ?_⟩
  cases h with
  | unbuilt stop hunbuilt =>
    rw [hcalls, List.cons.injEq] at hunbuilt
    rw [hunbuilt.2] at hmem
    cases hmem
  | called call hof hcalled =>
    rw [hcalls, List.cons.injEq] at hcalled
    rw [hcalled.2] at hmem
    obtain rfl := List.mem_singleton.1 hmem
    cases endpoint <;> exact hof

/-- The world is clear for this request to resume: if the request passes every gate, the writer is
not degraded when its evaluator is called, on `/v1/evaluate` after the receipt. -/
def ClearFor (app : App) (task : Endpoint × Request) (w : World) : Prop :=
  match task.1 with
  | .evaluate => ∀ a, (Evaluate.admissionScript app task.2).result = .ok a →
      w.StaysClear (a.receipt task.2)
  | .operationAware => ∀ a, (OperationAware.admissionScript app task.2).result = .ok a →
      w.degraded = false

/-- The evaluator is called at the end of these effects, and not again. -/
theorem undegraded_of_evaluator (es : List Effect) {fs : List Effect} (hes : Call.evaluator ∉ callsOf es)
    (hfs : Call.evaluator ∉ callsOf fs) (w : World) :
    (∀ o ∈ w.observed (es ++ .record .evaluator :: fs), o.Undegraded) ↔
      (w.replay es).degraded = false := by
  have hhere : Observation.Undegraded (.called .evaluator (w.replay es).degraded) ↔
      (w.replay es).degraded = false :=
    ⟨fun h => h _ rfl, fun h _ he => by cases he; exact h⟩
  simp only [World.observed_append, World.observed, World.observe, List.forall_mem_append,
    List.forall_mem_singleton, hhere]
  exact ⟨fun h => h.2.1, fun h => ⟨undegraded_observed hes w, h, undegraded_observed hfs _⟩⟩

/-- Admission, and then an evaluator: the flag that counts is the one after the effects before the
evaluator. -/
theorem undegraded_of_admission {α : Type} {Passed : α → Prop} {S : Script Effect Exit α}
    {f : α → Script Effect Exit JSONResponse} (hS : Admission Passed S) (before : α → List Effect)
    (hbefore : ∀ a, callsOf (before a) = []) (hf : ∀ a, Passed a → CallsEvaluatorAfter (before a) (f a))
    (w : World) : (∀ o ∈ w.observed (S >>= f).effects, o.Undegraded) ↔ ∀ a, S.result = .ok a →
      (w.replay ([.record .bodyRead, .record .authenticate] ++ before a)).degraded = false := by
  cases hS with
  | stopped early stop hearly h =>
    rw [h, bind_error]
    refine iff_of_true (undegraded_observed ?_ w) fun a ha => by cases ha
    rcases hearly with rfl | rfl <;> simp
  | through a ha h =>
    obtain ⟨tail, htail, hnot⟩ := hf a ha
    have hquiet : Call.evaluator ∉
        callsOf ([.record .bodyRead, .record .authenticate] ++ before a) := by
      simp [hbefore a]
    rw [h, bind_ok, htail, ← List.append_assoc]
    refine (undegraded_of_evaluator _ hquiet hnot w).trans ?_
    simp only [Except.ok.injEq, forall_eq']

theorem undegraded_evaluate (app : App) (req : Request) (w : World) :
    (∀ o ∈ w.observed (Evaluate.script app req).effects, o.Undegraded) ↔
      ClearFor app (.evaluate, req) w := by
  -- the receipt stands between the gates and the evaluator
  refine (undegraded_of_admission (Evaluate.admission_cases app req)
    (fun a => [.emit (a.receipt req)]) (fun a => rfl) (fun a ha => ?_) w).trans ?_
  · exact (Evaluate.decision a ha).callsEvaluatorAfter rfl ⟨_, rfl⟩
  · exact forall₂_congr fun a ha => degraded_afterEmit _ (a.receipt req)

theorem undegraded_operationAware (app : App) (req : Request) (present : Bool) (w : World) :
    (∀ o ∈ w.observed (OperationAware.script app req present).effects, o.Undegraded) ↔
      ClearFor app (.operationAware, req) w := by
  refine (undegraded_of_admission (OperationAware.admission_cases app req) (fun _ => [])
    (fun a => rfl) (fun a ha => ?_) w).trans ?_
  · exact (OperationAware.decision present a ha).callsEvaluatorAfter rfl ⟨_, rfl⟩
  · exact Iff.rfl

/-! ## Runs -/

/-- What the next part of a task shows. -/
def shown (app : App) (task : Endpoint × Request) (phase : Phase Outcome) (w : World) : List Observation :=
  match phase with
  | .pending => (task.1.begin app task.2 w).2.since w
  | .waiting => w.observed (task.1.script app task.2 w.writer.isSome).effects
  | .done _ => []

/-- A part of a task appends what it shows to the trace. -/
theorem trace_advance (app : App) (task : Endpoint × Request) (phase : Phase Outcome) (w : World) :
    ((handlers app).advance task phase w).2.trace = w.trace ++ shown app task phase w := by
  cases phase with
  | pending =>
    simp only [Program.advance, handlers, shown, Endpoint.since_begin, Endpoint.trace_begin]
  | waiting =>
    simp only [Program.advance, finish_handlers, World.replay_trace]
    rfl
  | done answer => simp [Program.advance, shown]

/-- Only a waiting task can call its evaluator. -/
theorem undegraded_shown (app : App) (task : Endpoint × Request) (phase : Phase Outcome) (w : World) :
    (∀ o ∈ shown app task phase w, o.Undegraded) ↔ (phase = .waiting → ClearFor app task w) := by
  cases phase with
  | pending =>
    refine iff_of_true (undegraded_of_calls ?_) (fun h => by cases h)
    show Call.evaluator ∉ calls ((task.1.begin app task.2 w).2.since w)
    rw [task.1.calls_begin]
    simp
  | waiting =>
    obtain ⟨endpoint, req⟩ := task
    simp only [true_imp_iff]
    cases endpoint with
    | evaluate => exact undegraded_evaluate app req w
    | operationAware => exact undegraded_operationAware app req _ w
  | done answer => exact iff_of_true (by simp [shown]) (fun h => by cases h)

/-- **Strict mode, exactly.** In every interleaving of any requests on a strict-mode gateway, no
evaluator is called with the writer degraded if and only if every request that resumes does so in a
world that is clear for it. -/
theorem undegraded_iff_clear (app : App) (config : GatewayConfig) (w : World)
    (requests : List (Endpoint × Request)) (schedule : List Nat) :
    let strict := app.inStrictMode config
    let start : Config _ _ _ := boot { w with trace := [] } requests
    (∀ o ∈ ((handlers strict).run start schedule).shared.trace, o.Undegraded) ↔
      (handlers strict).Throughout (fun task phase w => phase = .waiting → ClearFor strict task w)
        start schedule := by
  intro strict start
  have hrun := Program.forall_mem_log_run (trace_advance strict)
    (undegraded_shown strict) schedule start
  rw [hrun]
  exact and_iff_right fun o ho => by cases ho

/-! ## One failed receipt -/

/-- A startup with these settings whose every step returns. -/
def brittleStartup : StartupSteps ⟨Unit, Unit, Unit, Unit, Unit, Unit⟩ where
  loadConfig := .ok brittleConfig
  verifierFromConfig := .ok ()
  verifierInitialize := .ok ()
  buildBasisLocalTokenTrustConfig := .ok ()
  loadPolicyEngine := .ok ()
  buildEvaluator := .ok ()
  loadOperationAwarePolicyBundle := .ok ()
  constructOperationAwareEvaluator := .ok ()
  preflightOperationAwareEvaluator := .ok ()

/-- An evaluator called with the writer degraded. -/
def Observation.degradedEvaluation : Observation → Bool
  | .called .evaluator degraded => degraded
  | _ => false

/-- The first request of a freshly started strict-mode gateway: its own receipt degrades the
writer, and its evaluator is called. -/
theorem evaluator_called_degraded :
    brittleConfig.auditFailClosed = true ∧
    ¬ ∀ o ∈ ((handlers permissiveApp).run
        (boot ((freshStartup brittleStartup).serving sinkDown) [(.evaluate, bearerRequest)])
        [0, 0]).shared.trace, o.Undegraded := by
  refine ⟨rfl, fun h => ?_⟩
  have hany : (((handlers permissiveApp).run
      (boot ((freshStartup brittleStartup).serving sinkDown) [(.evaluate, bearerRequest)])
      [0, 0]).shared.trace).any Observation.degradedEvaluation = true := by decide +kernel
  obtain ⟨o, ho, hd⟩ := List.any_eq_true.1 hany
  unfold Observation.degradedEvaluation at hd
  split at hd
  next degraded => exact absurd (h _ ho degraded rfl) (by simp [hd])
  next => cases hd

end BasisGateway
