/-
Default mode isolates requests. Any number of requests run interleaved on
one gateway; a request's answer and its calls are those of its script, which
does not know what the sink did or which other requests ran.
-/
import BasisGateway.FreshStartup
import BasisGateway.Lib.Tasks
import BasisGateway.Recovery

namespace BasisGateway

open Tasks

/-- What a request comes to: its answer, and the calls made after its `await`. -/
abbrev Outcome := Answer × List Call

/-- The two handlers as tasks over the shared world. -/
def handlers (app : App) : Tasks.Program (Endpoint × Request) World Outcome where
  start task w :=
    let (begun, w') := task.1.begin app task.2 w
    (begun.map fun answer => (answer, []), w')
  finish task w :=
    let (answer, w') := task.1.finish app task.2 w
    ((answer, calls (w'.since w)), w')

/-- What the script of a request comes to. -/
def scriptedOutcome (app : App) (present : Bool) (task : Endpoint × Request) : Outcome :=
  let S := task.1.script app task.2 present
  (answerOf S.result, callsOf S.effects)

theorem finish_handlers (app : App) (task : Endpoint × Request) (w : World) :
    (handlers app).finish task w =
      (scriptedOutcome app w.writer.isSome task,
        w.replay (task.1.script app task.2 w.writer.isSome).effects) := by
  simp only [handlers, Endpoint.finish_eq, World.replay_since, calls_observed]
  rfl

/-- The app with these settings, and `AUDIT_FAIL_CLOSED=false`. -/
def App.inDefaultMode (app : App) (config : GatewayConfig) : App :=
  { app with config := some { config with auditFailClosed := false } }

theorem start_handlers (app : App) (config : GatewayConfig) (task : Endpoint × Request) (w : World) :
    (handlers (app.inDefaultMode config)).start task w = (none, w) := by
  have hmode : (app.inDefaultMode config).auditFailClosed = false := rfl
  simp only [handlers, Endpoint.begin_eq, hmode, Bool.false_and, Bool.false_eq_true, if_false,
    Option.map_none]

/-- No part of a request changes whether there is a writer, and a request comes to its script's
outcome. -/
theorem handlers_keep (app : App) (config : GatewayConfig) (present : Bool) :
    (handlers (app.inDefaultMode config)).PartsKeep (HasWriter present)
      fun task outcome => outcome = scriptedOutcome (app.inDefaultMode config) present task where
  start task w hw := by simpa [start_handlers] using hw
  finish task w hw := by
    rw [finish_handlers, hw]
    exact ⟨(World.replay_isSome _ w).trans hw, rfl⟩

/-! ## A freshly started gateway -/

/-- The world in which a gateway starts to serve, with this pipeline behind its writer. -/
def Gateway.serving {P : Parts} (g : Gateway P) (pipeline : AuditPipeline) : World where
  pipeline := pipeline
  attempts := 0
  writer := g.app.auditWriter
  readiness := g.readiness
  trace := []

/-- The startup with these settings, and `AUDIT_FAIL_CLOSED=false`. -/
def StartupSteps.inDefaultMode {P : Parts} (steps : StartupSteps P) (config : GatewayConfig) :
    StartupSteps P :=
  { steps with loadConfig := .ok { config with auditFailClosed := false } }

/-- Whether there is a writer depends on the configuration alone. -/
theorem hasWriter_serving {P : Parts} (steps : StartupSteps P) (config : GatewayConfig)
    (pipeline : AuditPipeline) :
    HasWriter config.needsAuditWriter
      ((freshStartup (steps.inDefaultMode config)).serving pipeline) := by
  have hiff : (freshStartup (steps.inDefaultMode config)).app.auditWriter.isSome = true ↔
      config.needsAuditWriter = true := by
    rw [auditWriter_isSome, auditWriter_reached]
    exact ⟨fun ⟨c, hc, hw⟩ => by cases hc; exact hw, fun h => ⟨_, rfl, h⟩⟩
  exact Bool.eq_iff_iff.2 hiff

/-- **Neither the sink nor other requests influence authorization.** Two gateways with the same
configuration, freshly started, whatever their startups' other steps and their sinks do; on each,
any requests in any interleaving. A request that both serve has the same answer on both and makes
the same calls, the kernel's included; and it is what the request comes to as the only one on a
third gateway, which does serve it. -/
theorem default_mode_isolates {P : Parts} (app : App) (config : GatewayConfig)
    (steps₁ steps₂ steps₃ : StartupSteps P) (pipeline₁ pipeline₂ pipeline₃ : AuditPipeline)
    (requests₁ requests₂ : List (Endpoint × Request)) (schedule₁ schedule₂ : List Nat) :
    let serve := (handlers (app.inDefaultMode config)).run
    let started (steps : StartupSteps P) pipeline :=
      (freshStartup (steps.inDefaultMode config)).serving pipeline
    let first := serve (boot (started steps₁ pipeline₁) requests₁) schedule₁
    let second := serve (boot (started steps₂ pipeline₂) requests₂) schedule₂
    let alone task := serve (boot (started steps₃ pipeline₃) [task]) [0, 0]
    (∀ task outcome, (task, .done outcome) ∈ first.tasks →
      (∀ outcome', (task, .done outcome') ∈ second.tasks → outcome' = outcome) ∧
      (alone task).tasks = [(task, .done outcome)]) ∧
    ∀ task, ∃ outcome, (alone task).tasks = [(task, .done outcome)] := by
  intro serve started first second alone
  have hkeep := handlers_keep app config config.needsAuditWriter
  have halone (task : Endpoint × Request) : (alone task).tasks = [(task,
      .done (scriptedOutcome (app.inDefaultMode config) config.needsAuditWriter task))] := by
    have hw := hasWriter_serving steps₃ config pipeline₃
    simp only [alone, serve, Program.run_cons, Program.run_nil, Program.step, Program.advance, boot,
      List.map_cons, List.map_nil, List.getElem?_cons_zero, start_handlers, finish_handlers,
      Option.elim_none, List.set_cons_zero]
    rw [show (started steps₃ pipeline₃).writer.isSome = config.needsAuditWriter from hw]
  refine ⟨fun task outcome hm => ?_, fun task => ⟨_, halone task⟩⟩
  have hfirst := (Program.run_keeps hkeep schedule₁
    (.boot (hasWriter_serving steps₁ config pipeline₁) requests₁)).answers task outcome hm
  refine ⟨fun outcome' hm' => ?_, by rw [halone, hfirst]⟩
  have hsecond := (Program.run_keeps hkeep schedule₂
    (.boot (hasWriter_serving steps₂ config pipeline₂) requests₂)).answers task outcome' hm'
  rw [hfirst, hsecond]

end BasisGateway
