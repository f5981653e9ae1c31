/-
The serving gateway as a whole. Whatever the requests do and however they
interleave, the writer and the tracker see their audit writes and nothing
else: the world the requests leave is the lifespan's, after one audit write
for each of theirs. So the lifespan's cycles say what a process that serves
can come to.
-/
import BasisGateway.Correlation
import BasisGateway.Reentry
import BasisGateway.Routing

namespace BasisGateway

open Prog Script Tasks

variable {P : Parts}

/-! ## The writes of a trace -/

def Observation.write? : Observation → Option (AuditEvent × WriteOutcome)
  | .called _ _ => none
  | .wrote event outcome => some (event, outcome)

/-- What the sink was given, and what it did, in order. -/
def World.writes (w : World) : List (AuditEvent × WriteOutcome) := w.trace.filterMap Observation.write?

def World.outcomes (w : World) : List WriteOutcome := w.writes.map Prod.snd

/-! ## The lifespan's audit writes -/

/-- The gateway after one audit write. -/
def Gateway.afterAuditWrite (g : Gateway P) (outcome : WriteOutcome) : Gateway P :=
  match g.app.auditWriter with
  | none => g
  | some writer => g.withAudit (GatewayAuditWriter.afterWrite outcome ⟨writer, g.readiness, []⟩)

theorem auditWrite_settles (outcome : WriteOutcome) :
    (auditWrite outcome : Lifespan P Unit).Settles fun g => g.afterAuditWrite outcome := by
  intro g
  rw [auditWrite, exec_bind, exec_get]
  show exec (match g.app.auditWriter with | none => _ | some writer => _) g = (.ok (), g.afterAuditWrite outcome)
  unfold Gateway.afterAuditWrite
  split
  next => rfl
  next writer _ =>
    rw [GatewayAuditWriter.write_settles outcome ⟨writer, g.readiness, []⟩]
    rfl

theorem exec_auditWrites (outcomes : List WriteOutcome) (g : Gateway P) :
    exec (auditWrites outcomes) g = (.ok (), outcomes.foldl Gateway.afterAuditWrite g) :=
  settles_forM auditWrite_settles outcomes g

/-! ## The simulation -/

/-- The world is the gateway's, after as many audit writes; and the sink was asked once for each. -/
structure Simulates (g : Gateway P) (pipeline : AuditPipeline) (w : World) : Prop where
  piped : w.pipeline = pipeline
  attempts : w.attempts = w.writes.length
  sunk : ∀ (k : Nat) event outcome, w.writes[k]? = some (event, outcome) → outcome = pipeline.sink k event
  writer : w.writer = (w.outcomes.foldl Gateway.afterAuditWrite g).app.auditWriter
  readiness : w.readiness = (w.outcomes.foldl Gateway.afterAuditWrite g).readiness

variable {g : Gateway P} {pipeline : AuditPipeline} {w : World}

theorem Simulates.serving (g : Gateway P) (pipeline : AuditPipeline) :
    Simulates g pipeline (g.serving pipeline) where
  piped := rfl
  attempts := rfl
  sunk k event outcome h := by cases h
  writer := rfl
  readiness := rfl

theorem Simulates.afterWrite (h : Simulates g pipeline w) (event : AuditEvent) :
    Simulates g pipeline (w.afterWrite event) := by
  rcases hw : w.writer with - | writer
  · rw [World.afterWrite, hw]
    exact h
  rw [World.afterWrite, hw]
  obtain ⟨outcome, houtcome⟩ : ∃ outcome, outcome = w.pipeline.sink w.attempts event := ⟨_, rfl⟩
  obtain ⟨served, hserved⟩ : ∃ served, served = w.outcomes.foldl Gateway.afterAuditWrite g := ⟨_, rfl⟩
  have hwriter := h.writer
  have hreadiness := h.readiness
  simp only [← houtcome]
  rw [← hserved] at hwriter hreadiness
  have hwrites : (w.attempted event outcome
      (GatewayAuditWriter.afterWrite outcome (w.auditState writer))).writes = w.writes ++ [(event, outcome)] := by
    simp [World.writes, World.attempted, Observation.write?]
  have hstep : (w.attempted event outcome (GatewayAuditWriter.afterWrite outcome
      (w.auditState writer))).outcomes.foldl Gateway.afterAuditWrite g = served.afterAuditWrite outcome := by
    rw [World.outcomes, hwrites, List.map_append, List.foldl_append, ← World.outcomes, ← hserved]
    rfl
  have hserving : served.app.auditWriter = some writer := hwriter.symm.trans hw
  refine ⟨h.piped, ?_, fun k event' outcome' hk => ?_, ?_, ?_⟩
  · rw [hwrites, List.length_append, ← h.attempts]
    rfl
  · rw [hwrites, List.getElem?_append] at hk
    split at hk
    next => exact h.sunk k event' outcome' hk
    next hlt =>
      have hkey : k - w.writes.length = 0 ∧ (event, outcome) = (event', outcome') := by
        rcases hn : k - w.writes.length with - | n
        · rw [hn] at hk
          exact ⟨rfl, Option.some.inj hk⟩
        · rw [hn] at hk
          cases hk
      obtain ⟨hzero, he⟩ := hkey
      obtain ⟨rfl, rfl⟩ := Prod.mk.inj he
      have hk : k = w.attempts := by
        rw [h.attempts]
        omega
      rw [houtcome, hk, h.piped]
  · rw [hstep, Gateway.afterAuditWrite, hserving]
    simp only [World.attempted, Gateway.withAudit, World.auditState, hreadiness]
  · rw [hstep, Gateway.afterAuditWrite, hserving]
    simp only [World.attempted, Gateway.withAudit, World.auditState, hreadiness]

/-- An effect is an audit write of the lifespan, or changes neither the writer nor the tracker. -/
theorem Simulates.act (h : Simulates g pipeline w) (e : Effect) : Simulates g pipeline (World.act e w) := by
  cases e with
  | emit event =>
    simp only [World.act, World.afterEmit]
    split
    next => exact h.afterWrite event
    next => exact h
  | write event => exact h.afterWrite event
  | record call =>
    have hwrites : (World.act (.record call) w).writes = w.writes := by
      simp [World.writes, World.act, World.afterRecord, Observation.write?]
    have houtcomes : (World.act (.record call) w).outcomes = w.outcomes := congrArg (List.map Prod.snd) hwrites
    refine ⟨h.piped, ?_, ?_, ?_, ?_⟩
    · rw [hwrites]
      exact h.attempts
    · rw [hwrites]
      exact h.sunk
    · rw [houtcomes]
      exact h.writer
    · rw [houtcomes]
      exact h.readiness

/-- The requests of a gateway keep the simulation, at every moment of every interleaving. -/
theorem simulates_run (app : App) (g : Gateway P) (pipeline : AuditPipeline)
    (requests : List (Endpoint × Request)) (schedule : List Nat) :
    Simulates g pipeline ((handlers app).run (boot (g.serving pipeline) requests) schedule).shared :=
  (Program.run_keeps (handlers_keep_act app fun e _ h => h.act e) schedule
    (.boot (Simulates.serving g pipeline) requests)).shared

/-! ## What a fresh gateway comes to -/

theorem auditWriter_of_config {steps : StartupSteps P} {config : GatewayConfig}
    (hload : steps.loadConfig = .ok config) {writer : GatewayAuditWriter}
    (hw : (freshStartup steps).app.auditWriter = some writer) : writer = .init config.auditFailureThreshold := by
  rw [freshStartup_eq] at hw
  refine app_run_invariant (I := fun app => ∀ w, app.auditWriter = some w → w = .init config.auditFailureThreshold)
    (fun w h => by cases h) (fun {n u} hout app happ w h => ?_) writer hw
  rw [outcome_plan hload] at hout
  rw [(StartupSteps.attributes_of_outcomeOf hout app).1] at h
  split at h
  next => cases h
  next =>
    split at h
    next => exact (Option.some.inj h).symm
    next => exact happ w h

/-- With a writer, audit writes are the writer's own. -/
theorem foldl_afterAuditWrite {writer : GatewayAuditWriter} (hw : g.app.auditWriter = some writer)
    (outcomes : List WriteOutcome) : outcomes.foldl Gateway.afterAuditWrite g =
      g.withAudit (GatewayAuditWriter.afterWrites outcomes ⟨writer, g.readiness, []⟩) := by
  have h := exec_auditWrites_some outcomes hw []
  rw [exec_auditWrites] at h
  exact (Prod.mk.inj h).2

theorem isReady_foldl (steps : StartupSteps P) (outcomes : List WriteOutcome) :
    let g := outcomes.foldl Gateway.afterAuditWrite (freshStartup steps)
    g.readiness.isReady = true ↔
      steps.AllSucceed ∧ ∀ writer, g.app.auditWriter = some writer → writer.degraded = false := by
  have h := isReady_auditWrites steps outcomes
  rwa [exec_auditWrites] at h

/-- The counters and the flag of the writer are those of the sink's outcomes. -/
theorem writer_of_simulates {steps : StartupSteps P} {config : GatewayConfig}
    (hload : steps.loadConfig = .ok config) (h : Simulates (freshStartup steps) pipeline w)
    {writer : GatewayAuditWriter} (hw : w.writer = some writer) :
    writer.failedWriteCount = failures w.outcomes ∧
      writer.consecutiveFailureCount = trailingFailures w.outcomes ∧
      (writer.degraded = true ↔ config.auditFailureThreshold ≤ trailingFailures w.outcomes) := by
  have hpos := config.auditFailureThreshold_pos
  have hreached := h.writer
  rcases hstarted : (freshStartup steps).app.auditWriter with - | started
  · have hsame : w.outcomes.foldl Gateway.afterAuditWrite (freshStartup steps) = freshStartup steps :=
      congrArg Prod.snd ((exec_auditWrites w.outcomes _).symm.trans (exec_auditWrites_none hstarted w.outcomes))
    rw [hsame, hstarted, hw] at hreached
    cases hreached
  obtain rfl := auditWriter_of_config hload hstarted
  have hready := auditWriter_ready (Option.isSome_iff_exists.2 ⟨_, hstarted⟩)
  rw [foldl_afterAuditWrite hstarted, hw] at hreached
  obtain rfl := Option.some.inj hreached
  have hinv := GatewayAuditWriter.writerInv_afterWrites config.auditFailureThreshold (freshStartup steps).readiness
    w.outcomes
  rw [AuditState.start, hready] at hinv
  refine ⟨hinv.failed, hinv.consecutive, hinv.degraded.trans ?_⟩
  omega

/-- **Readiness follows the sink through every interleaving.** On a freshly started gateway with this
configuration, whatever the requests do: the sink is asked once for each write, in the order of the
trace; the writer's counters and flag are those of its outcomes; and `/ready` answers 200 exactly when
every startup step succeeded and the failures since the last success are short of the threshold. -/
theorem readiness_follows_sink (steps : StartupSteps P) (config : GatewayConfig)
    (hload : steps.loadConfig = .ok config) (pipeline : AuditPipeline) (app : App)
    (requests : List (Endpoint × Request)) (schedule : List Nat) :
    let final := ((handlers app).run (boot ((freshStartup steps).serving pipeline) requests) schedule).shared
    final.attempts = final.writes.length ∧
    (∀ (k : Nat) event outcome, final.writes[k]? = some (event, outcome) → outcome = pipeline.sink k event) ∧
    final.writer.isSome = config.needsAuditWriter ∧
    (∀ writer, final.writer = some writer →
      writer.failedWriteCount = failures final.outcomes ∧
      writer.consecutiveFailureCount = trailingFailures final.outcomes ∧
      (writer.degraded = true ↔ config.auditFailureThreshold ≤ trailingFailures final.outcomes)) ∧
    ∀ correlationId, (ready final.readiness correlationId).statusCode = 200 ↔
      steps.AllSucceed ∧
        (config.needsAuditWriter = true → ¬ config.auditFailureThreshold ≤ trailingFailures final.outcomes) := by
  intro final
  have hsim : Simulates (freshStartup steps) pipeline final := simulates_run app _ pipeline requests schedule
  have hsome : final.writer.isSome = config.needsAuditWriter := by
    have hstart : HasWriter (freshStartup steps).app.auditWriter.isSome ((freshStartup steps).serving pipeline) := rfl
    have hkeep := (Program.run_keeps (handlers_keep_act app HasWriter.act) schedule (.boot hstart requests)).shared
    refine Eq.trans hkeep (Bool.eq_iff_iff.2 ?_)
    rw [auditWriter_isSome, auditWriter_reached]
    exact ⟨fun ⟨c, hc, hneeds⟩ => by rwa [Except.ok.inj (hload.symm.trans hc)], fun h => ⟨_, hload, h⟩⟩
  have hwriter {writer : GatewayAuditWriter} (hw : final.writer = some writer) :=
    writer_of_simulates hload hsim hw
  refine ⟨hsim.attempts, hsim.sunk, hsome, fun writer => hwriter, fun correlationId => ?_⟩
  have hready := isReady_foldl steps final.outcomes
  simp only [← hsim.writer, ← hsim.readiness] at hready
  rw [ready_statusCode]
  refine Iff.trans ?_ (hready.trans (and_congr_right' ?_))
  · split
    next h => exact iff_of_true rfl h
    next h => exact iff_of_false (by decide) h
  · rw [← hsome]
    rcases hw : final.writer with - | writer
    · simp
    · have hflag := (hwriter hw).2.2
      simp only [Option.some.injEq, forall_eq', Option.isSome_some, forall_const, ← hflag, Bool.not_eq_true]

/-- The theorem at the first request of a gateway whose sink is down. -/
theorem readiness_follows_sink_down :
    let final := ((handlers permissiveApp).run (boot ((freshStartup brittleStartup).serving sinkDown)
      [(.evaluate, bearerRequest)]) [0, 0]).shared
    final.attempts = final.writes.length ∧
    (∀ (k : Nat) event outcome, final.writes[k]? = some (event, outcome) → outcome = sinkDown.sink k event) ∧
    final.writer.isSome = brittleConfig.needsAuditWriter ∧
    (∀ writer, final.writer = some writer →
      writer.failedWriteCount = failures final.outcomes ∧
      writer.consecutiveFailureCount = trailingFailures final.outcomes ∧
      (writer.degraded = true ↔ brittleConfig.auditFailureThreshold ≤ trailingFailures final.outcomes)) ∧
    ∀ correlationId, (ready final.readiness correlationId).statusCode = 200 ↔
      brittleStartup.AllSucceed ∧ (brittleConfig.needsAuditWriter = true →
        ¬ brittleConfig.auditFailureThreshold ≤ trailingFailures final.outcomes) :=
  readiness_follows_sink brittleStartup brittleConfig rfl sinkDown permissiveApp [(.evaluate, bearerRequest)] [0, 0]

/-! ## Cycles that serve -/

/-- One cycle of the lifespan: a startup, the application it leaves, and the requests that come to it. -/
structure Service (P : Parts) where
  framework : Framework
  steps : StartupSteps P
  build : AppState P → App
  pipeline : AuditPipeline
  requests : List (Endpoint × Request)
  schedule : List Nat

namespace Service

variable (service : Service P)

/-- The requests, served by this started gateway with these routes. -/
def serve (started : Gateway P) (registered : Bool) : Config (Endpoint × Request) World Outcome :=
  (routes service.framework registered (service.build started.app)).run
    (boot (started.serving service.pipeline) service.requests) service.schedule

/-- The requests, served by the process as the startup leaves it. -/
def ended (g : Gateway P) : Config (Endpoint × Request) World Outcome :=
  let started := (exec (startup service.steps) g).2
  service.serve started started.app.operationAwareRouterRegistered

/-- The world at the end of the serving. -/
def served (g : Gateway P) : World := (service.ended g).shared

/-- The gateway at the end of the serving. -/
def left (g : Gateway P) : Gateway P where
  readiness := (service.served g).readiness
  app := { (exec (startup service.steps) g).2.app with auditWriter := (service.served g).writer }

/-- The whole cycle. -/
def run (g : Gateway P) : Gateway P := (exec shutdown (service.left g)).2

/-- The same cycle, by its audit writes. -/
def cycle (g : Gateway P) : Cycle P := ⟨service.steps, (service.served g).outcomes⟩

/-- Routes that agree on the requests serve them alike. -/
theorem serve_congr (started : Gateway P) {registered registered' : Bool}
    (h : ∀ task ∈ service.requests, task.1.routed registered = task.1.routed registered') :
    service.serve started registered = service.serve started registered' := by
  refine Program.run_dispatch_congr (fun task hm => h task ?_) service.schedule
  simpa [boot] using hm

theorem simulates_served (g : Gateway P) :
    Simulates (exec (startup service.steps) g).2 service.pipeline (service.served g) := by
  obtain ⟨turns, hshared⟩ := shared_routes service.framework
    (exec (startup service.steps) g).2.app.operationAwareRouterRegistered
    (service.build (exec (startup service.steps) g).2.app)
    ((exec (startup service.steps) g).2.serving service.pipeline) service.requests service.schedule
  rw [show service.served g = _ from hshared]
  exact simulates_run _ _ _ _ _

/-- Serving requests leaves what the lifespan's audit writes leave. -/
theorem left_eq (g : Gateway P) : service.left g =
    (service.served g).outcomes.foldl Gateway.afterAuditWrite (exec (startup service.steps) g).2 := by
  have hsim := service.simulates_served g
  have happ : ∀ (outcomes : List WriteOutcome) (g : Gateway P),
      (outcomes.foldl Gateway.afterAuditWrite g).app =
        { g.app with auditWriter := (outcomes.foldl Gateway.afterAuditWrite g).app.auditWriter } := by
    intro outcomes
    induction outcomes with
    | nil => exact fun g => rfl
    | cons outcome outcomes ih =>
      intro g
      rw [List.foldl_cons, ih]
      have hone : ∃ writer, (g.afterAuditWrite outcome).app = { g.app with auditWriter := writer } := by
        unfold Gateway.afterAuditWrite
        split
        next => exact ⟨g.app.auditWriter, rfl⟩
        next => exact ⟨_, rfl⟩
      obtain ⟨writer, hwriter⟩ := hone
      rw [hwriter]
  rw [left, hsim.readiness, hsim.writer, ← happ]

theorem run_eq (g : Gateway P) : service.run g = (exec (service.cycle g).run g).2 := by
  rw [run, left_eq, Cycle.run, exec_bind_ok (exec_startup (service.cycle g).steps g),
    exec_bind_ok (exec_auditWrites (service.cycle g).writes _), exec_startup]
  rfl

end Service

/-! ## A process -/

/-- The gateway after these cycles in a fresh process. -/
def afterServices (services : List (Service P)) : Gateway P :=
  services.foldl (fun g service => service.run g) (.fresh P)

/-- The cycles of a process, by their audit writes. -/
def cyclesFrom (g : Gateway P) : List (Service P) → List (Cycle P)
  | [] => []
  | service :: services => service.cycle g :: cyclesFrom (service.run g) services

theorem exec_cyclesFrom : ∀ (services : List (Service P)) (g : Gateway P),
    exec (forM (cyclesFrom g services) Cycle.run) g = (.ok (), services.foldl (fun g service => service.run g) g)
  | [], g => rfl
  | service :: services, g => by
    obtain ⟨g', hg'⟩ := exec_cycle (service.cycle g) g
    have hrun : exec (service.cycle g).run g = (.ok (), service.run g) := by
      rw [service.run_eq, hg']
    rw [cyclesFrom, List.forM_cons, exec_bind_ok hrun, exec_cyclesFrom services, List.foldl_cons]

theorem cyclesFrom_steps : ∀ (services : List (Service P)) (g : Gateway P),
    (cyclesFrom g services).map (·.steps) = services.map (·.steps)
  | [], _ => rfl
  | service :: services, g => by
    rw [cyclesFrom, List.map_cons, List.map_cons, cyclesFrom_steps services]
    rfl

/-- An audit write moves no component but the writer's. -/
theorem components_afterAuditWrite (g : Gateway P) (outcome : WriteOutcome) {c : String}
    (hc : c ≠ auditWriterComponent) :
    (g.afterAuditWrite outcome).readiness.components.get? c = g.readiness.components.get? c := by
  unfold Gateway.afterAuditWrite
  split
  next => rfl
  next writer _ =>
    cases outcome with
    | error exc =>
      by_cases hd : writer.failureThreshold ≤ ↑(writer.consecutiveFailureCount + 1) ∧ writer.degraded = false
      · simp only [GatewayAuditWriter.afterWrite, Gateway.withAudit,
          GatewayAuditWriter.afterFailure_degrades (s := ⟨writer, g.readiness, []⟩) hd.1 hd.2]
        simp [OrderedDict.get?_set, hc]
      · simp only [GatewayAuditWriter.afterWrite, Gateway.withAudit,
          GatewayAuditWriter.afterFailure_quiet (s := ⟨writer, g.readiness, []⟩) hd]
    | ok u =>
      cases hd : writer.degraded with
      | false => simp only [GatewayAuditWriter.afterWrite, Gateway.withAudit,
          GatewayAuditWriter.afterSuccess_quiet (s := ⟨writer, g.readiness, []⟩) hd]
      | true =>
        simp only [GatewayAuditWriter.afterWrite, Gateway.withAudit,
          GatewayAuditWriter.afterSuccess_recovers (s := ⟨writer, g.readiness, []⟩) hd]
        simp [OrderedDict.get?_set, hc]

theorem components_foldl : ∀ (outcomes : List WriteOutcome) (g : Gateway P) {c : String},
    c ≠ auditWriterComponent →
    (outcomes.foldl Gateway.afterAuditWrite g).readiness.components.get? c = g.readiness.components.get? c
  | [], _, _, _ => rfl
  | outcome :: outcomes, g, c, hc => by
    rw [List.foldl_cons, components_foldl outcomes _ hc, components_afterAuditWrite g outcome hc]

/-- **A process that serves is its lifespan's cycles.** Whatever the requests of each cycle do and
however they interleave, the cycles leave what the same startups leave with one audit write for each
write of a request; and once a cycle has completed, `/ready` answers 503 at every moment of every
later one. -/
theorem services_refine_cycles (services : List (Service P)) :
    (cyclesFrom (.fresh P) services).map (·.steps) = services.map (·.steps) ∧
    afterServices services = afterCycles (cyclesFrom (.fresh P) services) ∧
    (services ≠ [] → ∀ (next : Service P) (correlationId : String),
      (ready (next.served (afterServices services)).readiness correlationId).statusCode = 503) := by
  have hcycles : afterServices services = afterCycles (cyclesFrom (.fresh P) services) := by
    rw [afterServices, afterCycles, exec_cyclesFrom]
  refine ⟨cyclesFrom_steps services _, hcycles, fun hne next correlationId => ?_⟩
  have hcyclesne : cyclesFrom (.fresh P) services ≠ [] := by
    intro h
    have hsteps := cyclesFrom_steps services (.fresh P)
    rw [h] at hsteps
    exact hne (List.map_eq_nil_iff.1 hsteps.symm)
  have hdown := app_afterCycles hcyclesne
  rw [← hcycles] at hdown
  have hstarted : ((exec (startup next.steps) (afterServices services)).2.readiness.components.get? "app" =
      some false) := by
    rw [exec_startup]
    exact app_run next.steps.plan hdown
  have hserved : (next.served (afterServices services)).readiness.components.get? "app" = some false := by
    rw [(next.simulates_served _).readiness, components_foldl _ _ (by decide)]
    exact hstarted
  rw [ready_statusCode, ReadinessState.isReady_eq_false hserved]
  rfl

end BasisGateway
