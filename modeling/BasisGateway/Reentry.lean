/-
Re-entering the lifespan. The tracker is a module-level singleton and
`app.state` outlives a cycle, so what one cycle leaves the next one finds:
shutdown puts "app" down, and nothing in a startup puts it up again.
-/
import BasisGateway.Api.Responses
import BasisGateway.FreshStartup

namespace BasisGateway

open Prog

variable {P : Parts}

/-- One completed cycle: a startup, the audit writes while it served, and the shutdown. -/
structure Cycle (P : Parts) where
  steps : StartupSteps P
  writes : List WriteOutcome

def Cycle.run (cycle : Cycle P) : Lifespan P Unit := do
  startup cycle.steps
  auditWrites cycle.writes
  shutdown

/-- The gateway after these cycles in a fresh process. -/
def afterCycles (history : List (Cycle P)) : Gateway P := (exec (forM history Cycle.run) (.fresh P)).2

/-- The gateway after the next startup. -/
def restart (history : List (Cycle P)) (next : StartupSteps P) : Gateway P :=
  (exec (startup next) (afterCycles history)).2

/-- A component of some stage that this startup does not run. -/
def StartupSteps.Stale (next : StartupSteps P) (c : String) : Prop :=
  c ≠ "app" ∧ (∃ n : Stage, c ∈ n.provides) ∧
    ∀ n, next.plan.enabled n = true → c ∉ n.provides ∧ c ∉ n.announced ∧ c ∉ n.blamable

/-- The next startup leaves what it leaves on a fresh process; when all its steps succeed the
gateway is ready; and no component of an earlier cycle alone is registered. -/
structure ForgetsPast (history : List (Cycle P)) (next : StartupSteps P) : Prop where
  same : restart history next = freshStartup next
  ready : next.AllSucceed → (restart history next).readiness.isReady = true ∧
    ∀ correlationId, (BasisGateway.ready (restart history next).readiness correlationId).statusCode = 200
  registered : ∀ c, next.Stale c → (restart history next).readiness.components.get? c = none

/-! ## "app" stays down -/

theorem exec_auditWrites_fst (outcomes : List WriteOutcome) (g : Gateway P) :
    ∃ g', exec (auditWrites outcomes) g = (.ok (), g') := by
  rcases hw : g.app.auditWriter with - | w
  · exact ⟨_, exec_auditWrites_none hw outcomes⟩
  · exact ⟨_, exec_auditWrites_some outcomes hw []⟩

/-- A completed cycle ends with the shutdown's mark. -/
theorem exec_cycle (cycle : Cycle P) (g : Gateway P) : ∃ g' : Gateway P, exec cycle.run g =
    (.ok (), { g' with readiness := g'.readiness.markNotReady "application shutting down" "app" }) := by
  obtain ⟨g', hg'⟩ := exec_auditWrites_fst cycle.writes (cycle.steps.plan.run g)
  refine ⟨g', ?_⟩
  rw [Cycle.run, exec_bind_ok (exec_startup cycle.steps g), exec_bind_ok hg']
  rfl

theorem exec_cycles : ∀ (history : List (Cycle P)) (g : Gateway P), ∃ g',
    exec (forM history Cycle.run) g = (.ok (), g') ∧
      (history ≠ [] → g'.readiness.components.get? "app" = some false)
  | [], g => ⟨g, rfl, fun h => absurd rfl h⟩
  | [cycle], g => by
    obtain ⟨g', hg'⟩ := exec_cycle cycle g
    rw [List.forM_cons, exec_bind_ok hg']
    exact ⟨_, rfl, fun _ => by simp⟩
  | cycle :: next :: history, g => by
    obtain ⟨g', hg'⟩ := exec_cycle cycle g
    rw [List.forM_cons, exec_bind_ok hg']
    obtain ⟨g'', hg'', happ⟩ := exec_cycles (next :: history) _
    exact ⟨g'', hg'', fun _ => happ (by simp)⟩

/-- After a shutdown "app" is down. -/
theorem app_afterCycles {history : List (Cycle P)} (h : history ≠ []) :
    (afterCycles history).readiness.components.get? "app" = some false := by
  obtain ⟨g', hg', happ⟩ := exec_cycles history (.fresh P)
  rw [afterCycles, hg']
  exact happ h

/-- No startup puts "app" up. -/
theorem app_run (plan : StartupPlan P) {g : Gateway P} (h : g.readiness.components.get? "app" = some false) :
    (plan.run g).readiness.components.get? "app" = some false := by
  have hrun : (plan.runStages Stage.all g).2.readiness.components.get? "app" = some false := by
    rw [StartupPlan.get?_runStages]
    split
    · rfl
    · rw [Stage.foldl_status_of_not_mem _ fun n _ => ⟨n.app_not_provided.1, n.app_not_provided.2.1⟩]
      exact h
  rw [StartupPlan.run]
  rcases hr : plan.runStages Stage.all g with ⟨_ | _, g'⟩
  · rw [hr] at hrun
    simp only [StartupPlan.settle]
    split
    · simp
    · exact hrun
  · rwa [hr] at hrun

/-- After one completed cycle no startup makes the gateway ready. -/
theorem not_ready_after_cycle {history : List (Cycle P)} (h : history ≠ []) (next : StartupSteps P) :
    (restart history next).readiness.isReady = false := by
  rw [restart, exec_startup]
  exact ReadinessState.isReady_eq_false (app_run next.plan (app_afterCycles h))

/-! ## When the past is forgotten -/

/-- A startup with nothing enabled, which always succeeds. -/
def bareStartup (P : Parts) : StartupSteps P where
  loadConfig := .ok {}
  verifierFromConfig := .error { cls := .runtimeError, msg := "" }
  verifierInitialize := .error { cls := .runtimeError, msg := "" }
  buildBasisLocalTokenTrustConfig := .error { cls := .runtimeError, msg := "" }
  loadPolicyEngine := .error { cls := .runtimeError, msg := "" }
  buildEvaluator := .error { cls := .runtimeError, msg := "" }
  loadOperationAwarePolicyBundle := .error { cls := .runtimeError, msg := "" }
  constructOperationAwareEvaluator := .error { cls := .runtimeError, msg := "" }
  preflightOperationAwareEvaluator := .error { cls := .runtimeError, msg := "" }

theorem bareStartup_allSucceed (P : Parts) : (bareStartup P).AllSucceed :=
  ⟨{}, rfl, rfl, by simp, by simp, by simp, by simp⟩

theorem forgetsPast_nil (next : StartupSteps P) : ForgetsPast [] next where
  same := rfl
  ready h := by
    have hready := (isReady_freshStartup next).2 h
    refine ⟨hready, fun correlationId => ?_⟩
    rw [ready_statusCode]
    exact if_pos hready
  registered c hc := by
    change (freshStartup next).readiness.components.get? c = none
    rw [freshStartup_eq]
    exact StartupPlan.unregistered next.plan_sound hc.1 hc.2.2

theorem forgetsPast_iff {history : List (Cycle P)} {next : StartupSteps P} (hs : next.AllSucceed) :
    ForgetsPast history next ↔ history = [] := by
  constructor
  · intro h
    by_contra hne
    have := (h.ready hs).1
    rw [not_ready_after_cycle hne] at this
    cases this
  · rintro rfl
    exact forgetsPast_nil next

/-- **A restart forgets the past exactly when there is none.** A history of completed cycles is
forgotten by every next startup if and only if it is empty; and a next startup whose steps all
succeed forgets no history but the empty one. -/
theorem restart_forgets_iff (history : List (Cycle P)) :
    ((∀ next : StartupSteps P, ForgetsPast history next) ↔ history = []) ∧
      ∀ next : StartupSteps P, next.AllSucceed → (ForgetsPast history next ↔ history = []) := by
  refine ⟨⟨fun h => (forgetsPast_iff (bareStartup_allSucceed P)).1 (h _), ?_⟩, fun _ => forgetsPast_iff⟩
  rintro rfl
  exact forgetsPast_nil

/-! ## A restart that is not ready -/

/-- One object of each kind. -/
def unitParts : Parts := ⟨Unit, Unit, Unit, Unit, Unit, Unit⟩

/-- A successful startup with local tokens, a policy and the operation-aware feature. -/
def fullStartup : StartupSteps unitParts where
  loadConfig := .ok {
    authMode := .basisLocalToken
    basisLocalTokenIssuer := some "issuer"
    basisLocalTokenAudience := some "audience"
    basisLocalTokenPublicKeysJson := some "{}"
    policyPath := some "policy.json"
    operationAwareEnabled := true
    operationAwarePolicyBundlePath := some "bundle.json" }
  verifierFromConfig := .ok ()
  verifierInitialize := .ok ()
  buildBasisLocalTokenTrustConfig := .ok ()
  loadPolicyEngine := .ok ()
  buildEvaluator := .ok ()
  loadOperationAwarePolicyBundle := .ok ()
  constructOperationAwareEvaluator := .ok ()
  preflightOperationAwareEvaluator := .ok ()

/-- After one full cycle, a bare startup that succeeds throughout is not ready, answers 503 on
`/ready`, and still has the other mode's component. -/
theorem bare_restart_after_full_cycle :
    let history : List (Cycle unitParts) := [⟨fullStartup, []⟩]
    let next := bareStartup unitParts
    next.AllSucceed ∧
    (restart history next).readiness.isReady = false ∧
    (ready (restart history next).readiness "c").statusCode = 503 ∧
    (restart history next).readiness.components.get? "basis_local_token_configured" = some true ∧
    next.Stale "basis_local_token_configured" ∧
    ¬ ForgetsPast history next := by
  have hready : (restart [⟨fullStartup, []⟩] (bareStartup unitParts)).readiness.isReady = false := by
    decide
  have hstale : (restart [⟨fullStartup, []⟩] (bareStartup unitParts)).readiness.components.get?
      "basis_local_token_configured" = some true := by decide
  refine ⟨bareStartup_allSucceed _, hready, ?_, hstale, ⟨by decide, ⟨.basisLocalToken, by decide⟩, ?_⟩,
    fun h => ?_⟩
  · rw [ready_statusCode, hready]
    rfl
  · intro n hen
    cases n <;> (revert hen; decide)
  · have := (h.ready (bareStartup_allSucceed _)).1
    rw [hready] at this
    cases this

end BasisGateway
