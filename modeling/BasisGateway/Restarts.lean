/-
What a process serves with after its lifespan was re-entered. The tracker
does not forget the earlier cycles, but what requests are served with does:
each startup whose settings load clears `app.state` before it sets anything,
so the handlers of a later cycle answer as on a fresh process. A startup
whose settings do not load leaves `app.state` as it was, and the objects of
the last cycle whose settings did load go on serving.

The routes do not forget either. Once some cycle has registered the
operation-aware router, its handler goes on answering, also in a cycle whose
settings disable the endpoint, where a fresh process answers 404.
-/
import BasisGateway.Granted

namespace BasisGateway

open Prog Tasks

section

variable {P : Parts}

/-! ## `app.state` after a startup -/

/-- The operation-aware router may have been registered before. -/
def AppState.register (app : AppState P) (registered : Bool) : AppState P :=
  { app with operationAwareRouterRegistered := app.operationAwareRouterRegistered || registered }

namespace StartupSteps

variable {steps : StartupSteps P} {config : GatewayConfig} {n : Stage} {u : AppState P → AppState P}

/-- No stage reads whether the router was registered. -/
theorem register_of_outcomeOf (h : steps.outcomeOf config n = .ok u) (app : AppState P) (registered : Bool) :
    u (app.register registered) = (u app).register registered := by
  cases n with
  | configuration | auditWriter | operationAwareMode =>
    cases h
    rfl
  | router =>
    cases h
    simp [AppState.register, Bool.or_right_comm]
  | evaluationConfig | basisLocalToken | policy | evaluator | operationAwareConfig | bundle
  | operationAwareEvaluator =>
    obtain ⟨a, -, rfl⟩ := ok_of_stageOf h
    rfl
  | oidc =>
    simp only [outcomeOf] at h
    split at h
    next => cases h
    next =>
      obtain ⟨a, -, rfl⟩ := ok_of_stageOf h
      rfl
  | preflight =>
    simp only [outcomeOf] at h
    split at h
    next => cases h
    next =>
      obtain ⟨a, -, rfl⟩ := ok_of_stageOf h
      rfl

theorem registered_of_outcomeOf (h : steps.outcomeOf config n = .ok u) (app : AppState P) :
    (u app).operationAwareRouterRegistered =
      (app.operationAwareRouterRegistered || (decide (n = .router) && config.operationAwareEnabled)) := by
  cases n with
  | configuration | router | auditWriter | operationAwareMode =>
    cases h
    simp
  | evaluationConfig | basisLocalToken | policy | evaluator | operationAwareConfig | bundle
  | operationAwareEvaluator =>
    obtain ⟨a, -, rfl⟩ := ok_of_stageOf h
    simp
  | oidc =>
    simp only [outcomeOf] at h
    split at h
    next => cases h
    next =>
      obtain ⟨a, -, rfl⟩ := ok_of_stageOf h
      simp
  | preflight =>
    simp only [outcomeOf] at h
    split at h
    next => cases h
    next =>
      obtain ⟨a, -, rfl⟩ := ok_of_stageOf h
      simp

end StartupSteps

/-- `app.state` after a startup: updated by the stages that completed. -/
theorem app_startup (steps : StartupSteps P) (g : Gateway P) :
    (exec (startup steps) g).2.app = steps.plan.reachedStages.foldl steps.plan.updateApp g.app := by
  rw [exec_startup, StartupPlan.run, StartupPlan.app_settle, StartupPlan.app_runStages]
  rfl

/-- Settings that do not load leave it as it was. -/
theorem app_startup_of_error {steps : StartupSteps P} {exc : PyExc} (h : steps.loadConfig = .error exc)
    (g : Gateway P) : (exec (startup steps) g).2.app = g.app := by
  have hreached : steps.plan.reachedStages = [] := by
    rw [StartupSteps.plan_of_error h, StartupPlan.reachedStages, Stage.all, StartupPlan.completed]
    simp
  rw [app_startup, hreached, List.foldl_nil]

/-- The first two stages cannot fail. -/
theorem reachedStages_of_ok {steps : StartupSteps P} {config : GatewayConfig} (h : steps.loadConfig = .ok config) :
    ∃ later, steps.plan.reachedStages = .configuration :: .router :: later ∧ .router ∉ later := by
  have hreached : ∃ later, steps.plan.reachedStages = .configuration :: .router :: later := by
    rw [StartupSteps.plan_of_ok h, StartupPlan.reachedStages, Stage.all, StartupPlan.completed, StartupPlan.completed]
    exact ⟨_, rfl⟩
  obtain ⟨later, hlater⟩ := hreached
  have hpairwise : steps.plan.reachedStages.Pairwise Stage.before := StartupPlan.reachedStages_pairwise
  rw [hlater, List.pairwise_cons, List.pairwise_cons] at hpairwise
  exact ⟨later, hlater, fun hmem => absurd (hpairwise.2.1 _ hmem) (by decide)⟩

/-- Settings that load leave what they leave on a fresh process, and the router as it was if it was registered. -/
theorem app_startup_of_ok {steps : StartupSteps P} {config : GatewayConfig} (h : steps.loadConfig = .ok config)
    (g : Gateway P) : (exec (startup steps) g).2.app =
      (freshStartup steps).app.register g.app.operationAwareRouterRegistered := by
  obtain ⟨later, hlater, -⟩ := reachedStages_of_ok h
  have hfold (ns : List Stage) (app : AppState P) (registered : Bool) :
      ns.foldl steps.plan.updateApp (app.register registered) =
        (ns.foldl steps.plan.updateApp app).register registered := by
    induction ns generalizing app with
    | nil => rfl
    | cons n ns ih =>
      have hone : steps.plan.updateApp (app.register registered) n =
          (steps.plan.updateApp app n).register registered := by
        unfold StartupPlan.updateApp
        cases hout : steps.plan.outcome n with
        | error fl => rfl
        | ok u =>
          rw [outcome_plan h] at hout
          exact StartupSteps.register_of_outcomeOf hout app registered
      rw [List.foldl_cons, hone, ih, List.foldl_cons]
  have hcleared (app : AppState P) : steps.plan.updateApp app .configuration =
      (steps.plan.updateApp {} .configuration).register app.operationAwareRouterRegistered := by
    rw [StartupSteps.plan_of_ok h]
    rfl
  rw [freshStartup, app_startup, app_startup, hlater, List.foldl_cons, hcleared g.app, hfold]
  rfl

theorem registered_freshStartup {steps : StartupSteps P} {config : GatewayConfig}
    (h : steps.loadConfig = .ok config) :
    (freshStartup steps).app.operationAwareRouterRegistered = config.operationAwareEnabled := by
  obtain ⟨later, hlater, hnot⟩ := reachedStages_of_ok h
  have hone (app : AppState P) (n : Stage) (hn : n ≠ .router) :
      (steps.plan.updateApp app n).operationAwareRouterRegistered = app.operationAwareRouterRegistered := by
    unfold StartupPlan.updateApp
    cases hout : steps.plan.outcome n with
    | error fl => rfl
    | ok u =>
      rw [outcome_plan h] at hout
      simp [StartupSteps.registered_of_outcomeOf hout, hn]
  have hlate (ns : List Stage) (hns : .router ∉ ns) (app : AppState P) :
      (ns.foldl steps.plan.updateApp app).operationAwareRouterRegistered = app.operationAwareRouterRegistered := by
    induction ns generalizing app with
    | nil => rfl
    | cons n ns ih =>
      rw [List.mem_cons, not_or] at hns
      rw [List.foldl_cons, ih hns.2, hone app n (Ne.symm hns.1)]
  rw [freshStartup, app_startup, hlater, List.foldl_cons, List.foldl_cons, hlate later hnot]
  rw [StartupSteps.plan_of_ok h]
  rfl

/-! ## A process that serves -/

/-- The last cycle whose settings loaded. -/
def lastLoaded (services : List (Service P)) : Option (Service P) :=
  services.reverse.find? fun service => service.steps.loadConfig.isOk

theorem lastLoaded_concat (services : List (Service P)) (service : Service P) : lastLoaded (services ++ [service]) =
    if service.steps.loadConfig.isOk then some service else lastLoaded services := by
  rw [lastLoaded, List.reverse_append, List.reverse_singleton, List.singleton_append, List.find?_cons]
  by_cases h : service.steps.loadConfig.isOk = true
  · simp [h]
  · simp [h, lastLoaded]

/-- What requests are served with: all of `app.state` but the writer and the router's registration. -/
def AppState.serving (app : AppState P) : AppState P :=
  { app with auditWriter := none, operationAwareRouterRegistered := false }

/-- What the startup of a cycle leaves to serve with on a fresh process; without a cycle, nothing. -/
def servingOf (service : Option (Service P)) : AppState P :=
  service.elim {} fun service => (freshStartup service.steps).app.serving

/-- Requests and the shutdown leave it as it was. -/
theorem Service.serving_run (service : Service P) (g : Gateway P) :
    (service.run g).app.serving = (exec (startup service.steps) g).2.app.serving := rfl

theorem afterServices_concat (services : List (Service P)) (service : Service P) :
    afterServices (services ++ [service]) = service.run (afterServices services) := by
  rw [afterServices, List.foldl_append]
  rfl

theorem serving_startup {services : List (Service P)}
    (h : (afterServices services).app.serving = servingOf (lastLoaded services)) (next : Service P) :
    (exec (startup next.steps) (afterServices services)).2.app.serving =
      servingOf (lastLoaded (services ++ [next])) := by
  rw [lastLoaded_concat]
  cases hload : next.steps.loadConfig with
  | ok config =>
    rw [app_startup_of_ok hload]
    rfl
  | error exc =>
    rw [app_startup_of_error hload]
    exact h

/-- After any cycles a process has what the last one whose settings loaded leaves on a fresh process. -/
theorem serving_afterServices (services : List (Service P)) :
    (afterServices services).app.serving = servingOf (lastLoaded services) := by
  induction services using List.reverseRecOn with
  | nil => rfl
  | append_singleton services service ih =>
    rw [afterServices_concat, Service.serving_run]
    exact serving_startup ih service

/-- The router is registered once an operation-aware startup's settings loaded, and stays so. -/
theorem registered_startup (steps : StartupSteps P) (g : Gateway P) :
    (exec (startup steps) g).2.app.operationAwareRouterRegistered = true ↔
      g.app.operationAwareRouterRegistered = true ∨
        ∃ config, steps.loadConfig = .ok config ∧ config.operationAwareEnabled = true := by
  cases hload : steps.loadConfig with
  | ok config =>
    rw [app_startup_of_ok hload, AppState.register, registered_freshStartup hload, Bool.or_eq_true, or_comm]
    simp
  | error exc =>
    rw [app_startup_of_error hload]
    simp

theorem registered_afterServices (services : List (Service P)) :
    (afterServices services).app.operationAwareRouterRegistered = true ↔ ∃ service ∈ services, ∃ config,
      service.steps.loadConfig = .ok config ∧ config.operationAwareEnabled = true := by
  induction services using List.reverseRecOn with
  | nil => simp [afterServices, Gateway.fresh]
  | append_singleton services service ih =>
    rw [afterServices_concat]
    refine (registered_startup service.steps (afterServices services)).trans ?_
    rw [ih]
    simp only [List.mem_append, List.mem_singleton, or_and_right, exists_or, exists_eq_left]

end

/-! ## Worlds that differ in their readiness -/

/-- The same but for the tracker. -/
structure World.SameButReadiness (w w' : World) : Prop where
  pipeline : w.pipeline = w'.pipeline
  attempts : w.attempts = w'.attempts
  writer : w.writer = w'.writer
  trace : w.trace = w'.trace

namespace World.SameButReadiness

variable {w w' : World}

/-- The writer signals the tracker, and never reads it. -/
theorem writer_afterWrite (outcome : WriteOutcome) {s s' : AuditState} (h : s.writer = s'.writer) :
    (GatewayAuditWriter.afterWrite outcome s).writer = (GatewayAuditWriter.afterWrite outcome s').writer := by
  cases outcome with
  | error exc =>
    simp only [GatewayAuditWriter.afterWrite, GatewayAuditWriter.afterFailure, h]
    split <;> rfl
  | ok u =>
    simp only [GatewayAuditWriter.afterWrite, GatewayAuditWriter.afterSuccess, h]
    split <;> simp [AuditState.markReady, h]

theorem afterWrite (h : SameButReadiness w w') (event : AuditEvent) :
    SameButReadiness (w.afterWrite event) (w'.afterWrite event) := by
  unfold World.afterWrite
  rw [← h.writer, ← h.pipeline, ← h.attempts]
  cases hw : w.writer with
  | none => exact h
  | some writer =>
    exact { pipeline := h.pipeline, attempts := congrArg (· + 1) h.attempts
            writer := congrArg some (writer_afterWrite _ rfl), trace := congrArg (· ++ _) h.trace }

theorem degraded (h : SameButReadiness w w') : w.degraded = w'.degraded := by
  rw [World.degraded, World.degraded, h.writer]

theorem act (h : SameButReadiness w w') (e : Effect) : SameButReadiness (World.act e w) (World.act e w') := by
  cases e with
  | emit event =>
    have hreaches : w.reaches event = w'.reaches event := by
      rw [World.reaches, World.reaches, h.writer, h.pipeline]
    simp only [World.act, World.afterEmit, hreaches]
    split
    next => exact h.afterWrite event
    next => exact h
  | write event => exact h.afterWrite event
  | record call =>
    exact { pipeline := h.pipeline, attempts := h.attempts, writer := h.writer
            trace := by simp only [World.act, World.afterRecord, h.trace, h.degraded] }

theorem replay (h : SameButReadiness w w') (es : List Effect) : SameButReadiness (w.replay es) (w'.replay es) := by
  induction es generalizing w w' with
  | nil => exact h
  | cons e es ih => exact ih (h.act e)

end World.SameButReadiness

/-- No handler reads the tracker. -/
theorem handlers_respect (app : App) : (handlers app).Respects World.SameButReadiness where
  start task w w' h := by
    have hprobed := h.act (.emit (task.1.probe task.2))
    have hdegraded : (w.afterEmit (task.1.probe task.2)).degraded = (w'.afterEmit (task.1.probe task.2)).degraded :=
      hprobed.degraded
    simp only [handlers, Endpoint.begin_eq, h.degraded, hdegraded]
    split
    next => exact ⟨rfl, hprobed⟩
    next => exact ⟨rfl, h⟩
  finish task w w' h := by
    rw [finish_handlers, finish_handlers, h.writer]
    exact ⟨rfl, h.replay _⟩

theorem routes_respect (framework : Framework) (registered : Bool) (app : App) :
    (routes framework registered app).Respects World.SameButReadiness := (handlers_respect app).dispatch

/-! ## An endpoint without its evaluator -/

/-- The operation-aware endpoint refuses where its evaluator is missing. -/
theorem OperationAware.refused_of_absent {app : App} (hnone : app.operationAwareEvaluator = none) {req : Request}
    {present : Bool} {response : JSONResponse} (h : answerOf (script app req present).result = .ok response) :
    response.statusCode ∈ [400, 401, 500, 503] := by
  have habsent : ¬ GatesPassed app req .operationAware := by
    rintro ⟨a, ha⟩
    have hsome := ha.evaluator
    rw [hnone] at hsome
    cases hsome
  cases Endpoint.operationAware.course app req present with
  | refused stop hcalls hresult =>
    replace hresult : (script app req present).result = .error stop.exit := hresult
    rw [hresult] at h
    exact JSONResponse.statusCode_of_isRefusal (Stop.isRefusal_answer h)
  | unbuilt stop passed => exact absurd passed habsent
  | called call passed => exact absurd passed habsent

/-- In every run it refuses, and a request that comes to the evaluator is told that it is missing, unless
evaluation is suspended. -/
theorem refused_of_run {app : App} (hnone : app.operationAwareEvaluator = none) {w : World}
    {requests : List (Endpoint × Request)} {schedule : List Nat} {req : Request} {response : JSONResponse}
    {asked : List Call}
    (hm : ((.operationAware, req), .done (.ok response, asked)) ∈
      ((handlers app).run (boot w requests) schedule).tasks) :
    response.statusCode ∈ [400, 401, 500, 503] ∧ (Endpoint.operationAware.Reaches app req →
      response = auditFailClosed req.correlationId ∨ response = evaluatorUnavailable req.correlationId) := by
  rcases outcome_of_run hm with ⟨-, hsuspended⟩ | hscripted
  · cases Except.ok.inj (Prod.mk.inj hsuspended).1
    exact ⟨auditFailClosed_statusCode _, fun _ => .inl rfl⟩
  · have hanswer := (Prod.mk.inj hscripted).1
    refine ⟨OperationAware.refused_of_absent hnone hanswer.symm, fun hreaches => .inr ?_⟩
    have hunavailable := (Endpoint.operationAware.unavailable_iff app req w.writer.isSome).2
      ⟨hreaches, by simp [Endpoint.hasEvaluator, hnone]⟩
    exact Except.ok.inj (hanswer.trans hunavailable)

/-! ## Every process -/

section

variable {JWK DateTime Bundle : Type} (lib : TokenLibrary JWK DateTime) (framework : Framework) (outside : App)

/-- One cycle of a process: the deployment it starts on, its sink, and the requests it serves. -/
structure Tenure (JWK Bundle : Type) (tables : UnicodeTables) where
  deployment : Deployment JWK Bundle tables
  pipeline : AuditPipeline
  requests : List (Endpoint × Request)
  schedule : List Nat

/-- The settings of the cycle load, and enable the operation-aware endpoint. -/
def Tenure.Registers {tables : UnicodeTables} (tenure : Tenure JWK Bundle tables) : Prop :=
  ∃ settings, tenure.deployment.loadConfig = .ok settings ∧ settings.operationAwareEnabled = true

def Tenure.service (tenure : Tenure JWK Bundle lib.tables) :
    Service (gatewayParts JWK lib.tables PolicyEngine Bundle) where
  framework := framework
  steps := tenure.deployment.steps
  build := outside.servedBy lib
  pipeline := tenure.pipeline
  requests := tenure.requests
  schedule := tenure.schedule

variable {lib}

theorem servedBy_of_serving {app app' : AppState (gatewayParts JWK lib.tables PolicyEngine Bundle)}
    (h : app.serving = app'.serving) : outside.servedBy lib app = outside.servedBy lib app' := by
  have hserving (app : AppState (gatewayParts JWK lib.tables PolicyEngine Bundle)) :
      outside.servedBy lib app = outside.servedBy lib app.serving := rfl
  rw [hserving app, hserving app', h]

theorem loadConfig_service {tenure : Tenure JWK Bundle lib.tables} {config : GatewayConfig} :
    (tenure.service lib framework outside).steps.loadConfig = .ok config ↔
      ∃ settings, tenure.deployment.loadConfig = .ok settings ∧ settings.toGatewayConfig = config := by
  show tenure.deployment.steps.loadConfig = _ ↔ _
  rw [Deployment.steps_loadConfig, Except.map_eq_ok]

theorem loadConfig_service_error {tenure : Tenure JWK Bundle lib.tables} {exc : PyExc}
    (h : tenure.deployment.loadConfig = .error exc) :
    (tenure.service lib framework outside).steps.loadConfig = .error exc := by
  show tenure.deployment.steps.loadConfig = _
  rw [Deployment.steps_loadConfig, h]
  rfl

theorem registers_service {tenure : Tenure JWK Bundle lib.tables} : (∃ config,
    (tenure.service lib framework outside).steps.loadConfig = .ok config ∧ config.operationAwareEnabled = true) ↔
      tenure.Registers := by
  simp only [loadConfig_service]
  constructor
  · rintro ⟨_, ⟨settings, hsettings, rfl⟩, henabled⟩
    exact ⟨settings, hsettings, henabled⟩
  · rintro ⟨settings, hsettings, henabled⟩
    exact ⟨_, ⟨settings, hsettings, rfl⟩, henabled⟩

theorem registered_afterTenures (history : List (Tenure JWK Bundle lib.tables)) :
    (afterServices (history.map (·.service lib framework outside))).app.operationAwareRouterRegistered = true ↔
      ∃ tenure ∈ history, tenure.Registers := by
  rw [registered_afterServices]
  simp only [List.mem_map, exists_exists_and_eq_and, registers_service]

theorem registered_restart (history : List (Tenure JWK Bundle lib.tables)) (next : Tenure JWK Bundle lib.tables) :
    (exec (startup next.deployment.steps)
        (afterServices (history.map (·.service lib framework outside)))).2.app.operationAwareRouterRegistered =
      true ↔ ∃ tenure ∈ history ++ [next], tenure.Registers := by
  refine (registered_startup next.deployment.steps _).trans ?_
  rw [registered_afterTenures]
  simp only [List.mem_append, List.mem_singleton, or_and_right, exists_or, exists_eq_left]
  exact or_congr_right (registers_service framework outside)

/-- Settings that load have the process serve as a fresh one with the routes it has. -/
theorem ended_of_load {next : Tenure JWK Bundle lib.tables} {settings : Settings}
    (hsettings : next.deployment.loadConfig = .ok settings)
    (g : Gateway (gatewayParts JWK lib.tables PolicyEngine Bundle)) :
    let service := next.service lib framework outside
    let started := (exec (startup next.deployment.steps) g).2
    let served := service.serve (freshStartup next.deployment.steps) started.app.operationAwareRouterRegistered
    outside.servedBy lib started.app = outside.servedBy lib (freshStartup next.deployment.steps).app ∧
      (service.ended g).tasks = served.tasks ∧ (service.ended g).shared.SameButReadiness served.shared := by
  intro service started served
  have happ : started.app = (freshStartup next.deployment.steps).app.register g.app.operationAwareRouterRegistered :=
    app_startup_of_ok ((loadConfig_service framework outside).2 ⟨settings, hsettings, rfl⟩) g
  have hserved : outside.servedBy lib started.app =
      outside.servedBy lib (freshStartup next.deployment.steps).app := by
    refine servedBy_of_serving outside ?_
    rw [happ]
    rfl
  have hworld : (started.serving next.pipeline).SameButReadiness
      ((freshStartup next.deployment.steps).serving next.pipeline) := by
    refine { pipeline := rfl, attempts := rfl, writer := ?_, trace := rfl }
    show started.app.auditWriter = _
    rw [happ]
    rfl
  have hrelated := Program.run_related
    (routes_respect framework started.app.operationAwareRouterRegistered (outside.servedBy lib started.app))
    next.schedule (.boot hworld next.requests)
  have hended : service.ended g = (routes framework started.app.operationAwareRouterRegistered
      (outside.servedBy lib started.app)).run (boot (started.serving next.pipeline) next.requests)
        next.schedule := rfl
  have hfresh : served = (routes framework started.app.operationAwareRouterRegistered
      (outside.servedBy lib started.app)).run
        (boot ((freshStartup next.deployment.steps).serving next.pipeline) next.requests) next.schedule := by
    rw [hserved]
    rfl
  rw [hended, hfresh]
  exact ⟨hserved, hrelated.tasks, hrelated.shared⟩

/-- Without the endpoint enabled there is no evaluator for it. -/
theorem operationAwareEvaluator_of_disabled {d : Deployment JWK Bundle lib.tables} {settings : Settings}
    (hsettings : d.loadConfig = .ok settings) (hdisabled : settings.operationAwareEnabled = false) :
    (outside.servedBy lib (freshStartup d.steps).app).operationAwareEvaluator = none := by
  show (freshStartup d.steps).app.operationAwareEvaluator = none
  cases hevaluator : (freshStartup d.steps).app.operationAwareEvaluator with
  | none => rfl
  | some evaluator =>
    obtain ⟨settings', -, -, hsettings', henabled, -⟩ := Deployment.operationAwareEvaluator_of_started hevaluator
    cases hsettings.symm.trans hsettings'
    cases hdisabled.symm.trans henabled

variable (lib)

/-- **A restart serves afresh, with the routes it has.** A process has gone through any cycles, on any deployments
and with any requests, and starts once more. If its settings load, its requests are answered as on a fresh process
on which the operation-aware router is registered where it is registered here, with the same calls, the same writer
and the same trace; that is, as on a fresh process, unless they come to the operation-aware endpoint, the settings
disable it and an earlier cycle enabled it. There the fresh process answers 404, and this one has its handler
refuse: with 503, when the request comes to the evaluator. If the settings do not load, `app.state` stays what it
was, the writer with its counts included. The operation-aware router is registered exactly when the settings of
some cycle loaded and enabled it. -/
theorem restarts_serve_afresh (history : List (Tenure JWK Bundle lib.tables)) (next : Tenure JWK Bundle lib.tables) :
    let service := next.service lib framework outside
    let left := afterServices (history.map (·.service lib framework outside))
    let started := (exec (startup next.deployment.steps) left).2
    let again := service.ended left
    let afresh := service.ended (.fresh _)
    let served := service.serve (freshStartup next.deployment.steps) started.app.operationAwareRouterRegistered
    (∀ settings, next.deployment.loadConfig = .ok settings →
      (again.tasks = served.tasks ∧ again.shared.SameButReadiness served.shared) ∧
      ((∀ task ∈ next.requests, task.1 = .operationAware →
          settings.operationAwareEnabled = true ∨ ¬ ∃ tenure ∈ history, tenure.Registers) →
        again.tasks = afresh.tasks ∧ again.shared.SameButReadiness afresh.shared) ∧
      (settings.operationAwareEnabled = false → (∃ tenure ∈ history, tenure.Registers) → ∀ req,
        (∀ outcome, ((.operationAware, req), .done outcome) ∈ afresh.tasks →
          outcome = (.ok (framework.notFound req), [])) ∧
        ∀ response asked, ((.operationAware, req), .done (.ok response, asked)) ∈ again.tasks →
          response.statusCode ∈ [400, 401, 500, 503] ∧
          (Endpoint.operationAware.Reaches (outside.servedBy lib started.app) req →
            response = auditFailClosed req.correlationId ∨ response = evaluatorUnavailable req.correlationId))) ∧
    (∀ exc, next.deployment.loadConfig = .error exc → started.app = left.app) ∧
    (started.app.operationAwareRouterRegistered = true ↔ ∃ tenure ∈ history ++ [next], tenure.Registers) := by
  intro service left started again afresh served
  have hregistered := registered_restart framework outside history next
  refine ⟨fun settings hsettings => ?_, fun exc hexc => ?_, hregistered⟩
  · obtain ⟨hserved, hsame⟩ := ended_of_load framework outside hsettings left
    have hfresh : (freshStartup next.deployment.steps).app.operationAwareRouterRegistered =
        settings.operationAwareEnabled :=
      registered_freshStartup ((loadConfig_service framework outside).2 ⟨settings, hsettings, rfl⟩)
    have hnext : next.Registers ↔ settings.operationAwareEnabled = true := by
      simp [Tenure.Registers, hsettings]
    refine ⟨hsame, fun hroutes => ?_, fun hdisabled hearlier req =>
      ⟨fun outcome hm => ?_, fun response asked hm => ?_⟩⟩
    · -- both processes route the same of these requests
      have hafresh : served = afresh := by
        refine service.serve_congr _ fun task htask => ?_
        cases htaskEndpoint : task.1 with
        | evaluate => rfl
        | operationAware =>
          show started.app.operationAwareRouterRegistered =
            (freshStartup next.deployment.steps).app.operationAwareRouterRegistered
          rw [hfresh, Bool.eq_iff_iff, hregistered, ← hnext]
          simp only [List.mem_append, List.mem_singleton, or_and_right, exists_or, exists_eq_left]
          refine or_iff_right_of_imp fun hearlier => ?_
          rcases hroutes task htask htaskEndpoint with henabled | hnone
          · exact hnext.2 henabled
          · exact absurd hearlier hnone
      rw [← hafresh]
      exact hsame
    · -- a fresh process has no route
      rcases answer_of_routes hm with ⟨-, houtcome⟩ | ⟨hrouted, -⟩
      · exact houtcome
      · cases hdisabled.symm.trans (hfresh.symm.trans hrouted)
    · have hrouted : started.app.operationAwareRouterRegistered = true := by
        obtain ⟨tenure, htenure, hregisters⟩ := hearlier
        exact hregistered.2 ⟨tenure, List.mem_append_left _ htenure, hregisters⟩
      have hnone : (outside.servedBy lib started.app).operationAwareEvaluator = none := by
        rw [hserved]
        exact operationAwareEvaluator_of_disabled outside hsettings hdisabled
      rcases answer_of_routes hm with ⟨hunrouted, -⟩ | ⟨-, turns, hran⟩
      · cases hrouted.symm.trans hunrouted
      · exact refused_of_run hnone hran
  · exact app_startup_of_error (loadConfig_service_error framework outside hexc) left

end

/-- A cycle whose settings enable the operation-aware endpoint. -/
def enablingTenure : Tenure Unit Bool asciiTables where
  deployment := { viewerDeployment with loadConfig := .ok { operationAwareEnabled := true } }
  pipeline := sinkDown
  requests := []
  schedule := []

/-- One whose settings disable it, with a request that comes to it. -/
def disablingTenure : Tenure Unit Bool asciiTables where
  deployment := viewerDeployment
  pipeline := sinkDown
  requests := [(.operationAware, bearerRequest)]
  schedule := [0, 0]

/-- The theorem at the second after the first: a fresh process answers 404, and this one 503. -/
theorem restarts_serve_afresh_disabled :
    let outside := completingApp (some "r")
    let history := [enablingTenure]
    let service := disablingTenure.service sampleLibrary.toTokenLibrary plainFramework outside
    let left := afterServices (history.map (·.service sampleLibrary.toTokenLibrary plainFramework outside))
    let started := (exec (startup disablingTenure.deployment.steps) left).2
    let again := service.ended left
    let afresh := service.ended (.fresh _)
    statusCodes afresh = [some 404] ∧ statusCodes again = [some 503] ∧
    (∀ outcome, ((.operationAware, bearerRequest), .done outcome) ∈ afresh.tasks →
      outcome = (.ok (plainFramework.notFound bearerRequest), [])) ∧
    ∀ response asked, ((.operationAware, bearerRequest), .done (.ok response, asked)) ∈ again.tasks →
      response.statusCode ∈ [400, 401, 500, 503] ∧
      (Endpoint.operationAware.Reaches (outside.servedBy sampleLibrary.toTokenLibrary started.app) bearerRequest →
        response = auditFailClosed bearerRequest.correlationId ∨
          response = evaluatorUnavailable bearerRequest.correlationId) := by
  intro outside history service left started again afresh
  have hloads := (restarts_serve_afresh sampleLibrary.toTokenLibrary plainFramework outside history
    disablingTenure).1 _ rfl
  exact ⟨by decide +kernel, by decide +kernel,
    hloads.2.2 rfl ⟨enablingTenure, List.mem_singleton.2 rfl, _, rfl, rfl⟩ bearerRequest⟩

section

variable {JWK DateTime Bundle : Type} (lib : TokenLibrary JWK DateTime) (framework : Framework) (outside : App)

/-- **What a restarted process grants goes back to the last settings that loaded.** A process has gone through any
cycles and starts once more, whether its settings load or not. A request that it answers 200 is granted by the
deployment of one cycle, the last whose settings loaded. -/
theorem grants_follow_last_loaded (history : List (Tenure JWK Bundle lib.tables))
    (next : Tenure JWK Bundle lib.tables) :
    let left := afterServices (history.map (·.service lib framework outside))
    let app := outside.servedBy lib (exec (startup next.deployment.steps) left).2.app
    let final := (next.service lib framework outside).ended left
    ∀ task response asked, (task, .done (.ok response, asked)) ∈ final.tasks →
      response.statusCode = 200 → ∃ earlier tenure later, history ++ [next] = earlier ++ tenure :: later ∧
        (∀ failed ∈ later, ∃ exc, failed.deployment.loadConfig = .error exc) ∧
        ∃ settings token claims subject call,
          Granted lib tenure.deployment app task asked settings token claims subject call := by
  intro left app final task response asked hm hstatus
  obtain ⟨-, turns, hserved⟩ := granted_of_routes hm hstatus
  obtain ⟨token, subject, call, hasks, hasked, hpermits⟩ := asks_of_run app _ _ turns hserved hstatus
  have hserving := serving_startup (serving_afterServices (history.map (·.service lib framework outside)))
    (next.service lib framework outside)
  cases hlast : lastLoaded (history.map (·.service lib framework outside) ++ [next.service lib framework outside]) with
  | none =>
    -- nothing ever loaded, and there is no evaluator
    rw [hlast] at hserving
    have happ : app = outside.servedBy lib {} := servedBy_of_serving outside hserving
    rw [happ] at hpermits
    cases call with
    | kernel call =>
      obtain ⟨evaluator, -, hnone, -⟩ := hpermits
      cases hnone
    | operationAwareKernel call =>
      obtain ⟨evaluator, -, hnone, -⟩ := hpermits
      cases hnone
    | _ => exact hpermits.elim
  | some service =>
    obtain ⟨-, later, earlier, hsplit, hfailed⟩ := List.find?_eq_some_iff_append.1 hlast
    have hservices : (history ++ [next]).map (·.service lib framework outside) =
        earlier.reverse ++ service :: later.reverse := by
      rw [List.map_append, List.map_singleton, ← List.reverse_inj, hsplit]
      simp
    obtain ⟨earlier', rest, htenures, -, hrest⟩ := List.map_eq_append_iff.1 hservices
    obtain ⟨tenure, later', rfl, rfl, hlater⟩ := List.map_eq_cons_iff.1 hrest
    rw [hlast] at hserving
    have happ : app = outside.servedBy lib (freshStartup tenure.deployment.steps).app :=
      servedBy_of_serving outside hserving
    rw [happ] at hasks hpermits
    obtain ⟨settings, claims, hgranted⟩ := granted_of_asks hasks hasked hpermits
    refine ⟨earlier', tenure, later', htenures, fun failed hf => ?_, settings, token, claims, subject, call, ?_⟩
    · have hmem : failed.service lib framework outside ∈ later := by
        rw [← List.mem_reverse, ← hlater]
        exact List.mem_map_of_mem hf
      have hnot := hfailed _ hmem
      cases hload : failed.deployment.loadConfig with
      | error exc => exact ⟨exc, rfl⟩
      | ok settings =>
        rw [(loadConfig_service framework outside).2 ⟨settings, hload, rfl⟩] at hnot
        cases hnot
    · rw [happ]
      exact hgranted

end

/-- A restart whose settings do not load. -/
def unloadableTenure : Tenure Unit Bool asciiTables where
  deployment := { viewerDeployment with loadConfig := .error { cls := .valueError, msg := "" } }
  pipeline := sinkDown
  requests := [(.evaluate, bearerRequest)]
  schedule := [0, 0]

/-- The theorem at a request that such a restart grants: the deployment before it goes on serving. -/
theorem grants_follow_last_loaded_unloadable :
    let history : List (Tenure Unit Bool asciiTables) := [⟨viewerDeployment, sinkDown, [], []⟩]
    let left := afterServices (history.map (·.service sampleLibrary.toTokenLibrary plainFramework permissiveApp))
    let app := permissiveApp.servedBy sampleLibrary.toTokenLibrary
      (exec (startup unloadableTenure.deployment.steps) left).2.app
    let final := (unloadableTenure.service sampleLibrary.toTokenLibrary plainFramework permissiveApp).ended left
    ∃ task response asked, (task, .done (.ok response, asked)) ∈ final.tasks ∧ response.statusCode = 200 ∧
      ∃ earlier tenure later, history ++ [unloadableTenure] = earlier ++ tenure :: later ∧
        (∀ failed ∈ later, ∃ exc, failed.deployment.loadConfig = .error exc) ∧
        ∃ settings token claims subject call, Granted sampleLibrary.toTokenLibrary tenure.deployment app task asked
          settings token claims subject call := by
  intro history left app final
  have hdone : statusCodes final = [some 200] := by decide +kernel
  obtain ⟨task, response, asked, hm, hstatus⟩ := mem_statusCodes.1 (by simp [hdone] : some 200 ∈ statusCodes final)
  exact ⟨task, response, asked, hm, hstatus, grants_follow_last_loaded sampleLibrary.toTokenLibrary plainFramework
    permissiveApp history unloadableTenure task response asked hm hstatus⟩

end BasisGateway
