/-
Startup follows its plan. Each step of the lifespan is one or a few stages
of the plan that its configuration and its outcomes determine; run one after
another inside the catch-all they leave what the plan leaves, and raise
nothing.
-/
import BasisGateway.StartupPlanFacts

namespace BasisGateway

open Prog

variable {P : Parts}

/-! ## The plan of a startup -/

namespace StartupSteps

/-- The stage that does `r`: blamed by these clauses, or updating `app.state`. -/
def stageOf {α : Type} (r : Except PyExc α) (blames : PyExc → Option String)
    (update : α → AppState P → AppState P) : Except StageFailure (AppState P → AppState P) :=
  match r with
  | .ok a => .ok (update a)
  | .error exc => .error ⟨exc, blames exc⟩

/-- What each stage does under a configuration that loaded. -/
def outcomeOf (steps : StartupSteps P) (config : GatewayConfig) :
    Stage → Except StageFailure (AppState P → AppState P)
  | .configuration => .ok fun app => { app with
      config := some config
      verifier := none
      basisLocalTokenTrustConfig := none
      evaluator := none
      auditWriter := none
      operationAwareEvaluator := none }
  | .router => .ok fun app => { app with
      operationAwareRouterRegistered := app.operationAwareRouterRegistered || config.operationAwareEnabled }
  | .auditWriter => .ok fun app => { app with
      auditWriter := some (.init config.auditFailureThreshold) }
  | .operationAwareMode => .ok id
  | .evaluationConfig =>
    stageOf (checkedWith steps.evaluationConfigFault config.validateEvaluationConfig)
      (clause [.evaluationConfigError] "configuration_loaded") fun _ => id
  | .oidc =>
    match steps.verifierFromConfig with
    | .error exc => .error ⟨exc, none⟩
    | .ok verifier =>
      stageOf steps.verifierInitialize oidcClauses fun _ app => { app with verifier := some verifier }
  | .basisLocalToken =>
    stageOf steps.buildBasisLocalTokenTrustConfig
      (clause [.evaluationConfigError, .basisLocalTokenConfigError] "basis_local_token_configured")
      fun trustConfig app => { app with basisLocalTokenTrustConfig := some trustConfig }
  | .policy => stageOf steps.loadPolicyEngine (clause [.policyLoadError] "policy_loaded") fun _ => id
  | .evaluator =>
    stageOf steps.buildEvaluator (fun _ => none) fun evaluator app => { app with evaluator := some evaluator }
  | .operationAwareConfig =>
    stageOf (checkedWith steps.operationAwareConfigFault config.validateOperationAwareConfig)
      (clause [.operationAwareConfigError] "operation_aware_bundle_loaded") fun _ => id
  | .bundle =>
    stageOf steps.loadOperationAwarePolicyBundle
      (clause [.operationAwarePolicyLoadError] "operation_aware_bundle_loaded") fun _ => id
  | .operationAwareEvaluator =>
    stageOf steps.constructOperationAwareEvaluator
      (fun _ => some "operation_aware_evaluator_initialized") fun _ => id
  | .preflight =>
    match steps.constructOperationAwareEvaluator with
    | .error exc => .error ⟨exc, none⟩
    | .ok evaluator =>
      stageOf steps.preflightOperationAwareEvaluator
        (clause [.operationAwarePreflightError] "operation_aware_policy_semantically_valid")
        fun _ app => { app with operationAwareEvaluator := some evaluator }

def plan (steps : StartupSteps P) : StartupPlan P :=
  match steps.loadConfig with
  | .ok config => { enabled := Stage.neededBy config, outcome := steps.outcomeOf config }
  | .error exc => { enabled n := n = .configuration, outcome _ := .error ⟨exc, none⟩ }

variable {steps : StartupSteps P} {config : GatewayConfig}

theorem plan_of_ok (h : steps.loadConfig = .ok config) :
    steps.plan = { enabled := Stage.neededBy config, outcome := steps.outcomeOf config } := by
  rw [plan, h]

theorem plan_of_error {exc : PyExc} (h : steps.loadConfig = .error exc) :
    steps.plan = { enabled n := n = .configuration, outcome _ := .error ⟨exc, none⟩ } := by
  rw [plan, h]

theorem blames_of_stageOf {α : Type} {r : Except PyExc α} {blames : PyExc → Option String}
    {update : α → AppState P → AppState P} {fl : StageFailure}
    (h : stageOf r blames update = .error fl) : fl.blames = blames fl.exc := by
  rcases r with exc | a
  · cases h; rfl
  · cases h

theorem ok_of_stageOf {α : Type} {r : Except PyExc α} {blames : PyExc → Option String}
    {update : α → AppState P → AppState P} {u : AppState P → AppState P}
    (h : stageOf r blames update = .ok u) : ∃ a, r = .ok a ∧ u = update a := by
  rcases r with exc | a
  · cases h
  · cases h
    exact ⟨a, rfl, rfl⟩

theorem eq_of_clause {classes : List ExcClass} {component c : String} {exc : PyExc}
    (h : clause classes component exc = some c) : c = component := by
  rw [clause] at h
  split at h
  next => exact (Option.some.inj h).symm
  next => cases h

theorem mem_of_oidcClauses {exc : PyExc} {c : String} (h : oidcClauses exc = some c) :
    c = "oidc_configured" ∨ c = "jwks_available" := by
  rw [oidcClauses] at h
  rcases hd : clause [.oidcDiscoveryError] "oidc_configured" exc with - | d
  · rw [hd] at h
    exact .inr (eq_of_clause h)
  · rw [hd] at h
    cases h
    exact .inl (eq_of_clause hd)

theorem blamable_of_outcomeOf {n : Stage} {fl : StageFailure} {c : String}
    (h : steps.outcomeOf config n = .error fl) (hc : fl.blames = some c) : c ∈ n.blamable := by
  have hclause : ∀ {classes component}, fl.blames = clause classes component fl.exc → c = component :=
    fun hb => eq_of_clause (hb ▸ hc)
  cases n with
  | configuration | router | auditWriter | operationAwareMode => cases h
  | evaluationConfig | basisLocalToken | policy | operationAwareConfig | bundle =>
    exact List.mem_singleton.2 (hclause (blames_of_stageOf h))
  | preflight =>
    simp only [outcomeOf] at h
    split at h
    next => cases h; cases hc
    next => exact List.mem_singleton.2 (hclause (blames_of_stageOf h))
  | evaluator =>
    rw [blames_of_stageOf h] at hc
    cases hc
  | operationAwareEvaluator =>
    rw [blames_of_stageOf h] at hc
    cases hc
    exact List.mem_singleton.2 rfl
  | oidc =>
    simp only [outcomeOf] at h
    split at h
    next => cases h; cases hc
    next =>
      rw [blames_of_stageOf h] at hc
      simpa [Stage.blamable, Stage.provides] using mem_of_oidcClauses hc

/-- What each stage that completes does to the writer and the two evaluators. -/
theorem attributes_of_outcomeOf {n : Stage} {u : AppState P → AppState P}
    (h : steps.outcomeOf config n = .ok u) (app : AppState P) :
    (u app).auditWriter = (if n = .configuration then none
      else if n = .auditWriter then some (.init config.auditFailureThreshold) else app.auditWriter) ∧
    (u app).evaluator = (if n = .configuration then none
      else if n = .evaluator then steps.buildEvaluator.toOption else app.evaluator) ∧
    (u app).operationAwareEvaluator = (if n = .configuration then none
      else if n = .preflight then steps.constructOperationAwareEvaluator.toOption
      else app.operationAwareEvaluator) := by
  cases n with
  | configuration | router | auditWriter | operationAwareMode =>
    cases h
    exact ⟨rfl, rfl, rfl⟩
  | evaluationConfig | basisLocalToken | policy | operationAwareConfig | bundle | operationAwareEvaluator =>
    obtain ⟨a, -, rfl⟩ := ok_of_stageOf h
    exact ⟨rfl, rfl, rfl⟩
  | evaluator =>
    obtain ⟨a, ha, rfl⟩ := ok_of_stageOf h
    rw [ha]
    exact ⟨rfl, rfl, rfl⟩
  | oidc =>
    simp only [outcomeOf] at h
    split at h
    next => cases h
    next =>
      obtain ⟨a, -, rfl⟩ := ok_of_stageOf h
      exact ⟨rfl, rfl, rfl⟩
  | preflight =>
    simp only [outcomeOf] at h
    split at h
    next => cases h
    next he =>
      obtain ⟨a, -, rfl⟩ := ok_of_stageOf h
      rw [he]
      exact ⟨rfl, rfl, rfl⟩

/-- The plan of every startup is sound. -/
theorem plan_sound (steps : StartupSteps P) : steps.plan.Sound := by
  rcases h : steps.loadConfig with exc | config
  · rw [plan_of_error h]
    refine ⟨by simp, fun hen hc => ?_, fun hout hb => ?_⟩
    · rw [of_decide_eq_true hen] at hc
      simp [Stage.announced, Stage.announces] at hc
    · cases hout; cases hb
  · rw [plan_of_ok h]
    refine ⟨rfl, fun {n c} hen hc => ?_, fun hout hb => blamable_of_outcomeOf hout hb⟩
    cases n with
    | operationAwareMode =>
      simp only [Stage.announced, Stage.announces, List.map_cons, List.map_nil, List.mem_cons,
        List.not_mem_nil, or_false] at hc
      rcases hc with rfl | rfl | rfl
      · exact ⟨.bundle, hen, by simp [Stage.provides]⟩
      · exact ⟨.operationAwareEvaluator, hen, by simp [Stage.provides]⟩
      · exact ⟨.preflight, hen, by simp [Stage.provides]⟩
    | _ => simp [Stage.announced, Stage.announces] at hc

end StartupSteps

/-! ## Programs that run stages -/

/-- `p` runs the stages `ns` of the plan: it raises when one of them fails, and else returns a
value that satisfies `Q`. -/
def Runs (plan : StartupPlan P) {α : Type} (p : Lifespan P α) (ns : List Stage) (Q : α → Prop) : Prop :=
  ∀ g, match plan.runStages ns g with
    | (.ok _, g') => ∃ a, Q a ∧ exec p g = (.ok a, g')
    | (.error exc, g') => exec p g = (.error exc, g')

theorem runStages_append (plan : StartupPlan P) : ∀ (ns ms : List Stage) (g : Gateway P),
    plan.runStages (ns ++ ms) g =
      match plan.runStages ns g with
      | (.ok _, g') => plan.runStages ms g'
      | (.error exc, g') => (.error exc, g')
  | [], ms, g => rfl
  | n :: ns, ms, g => by
    simp only [List.cons_append, StartupPlan.runStages]
    split
    · split
      · exact runStages_append plan ns ms _
      · rfl
    · exact runStages_append plan ns ms g

namespace Runs

variable {plan : StartupPlan P} {α β : Type} {ns ms : List Stage} {Q : α → Prop} {R : β → Prop}

theorem bind {p : Lifespan P α} {q : α → Lifespan P β} (hp : Runs plan p ns Q)
    (hq : ∀ a, Q a → Runs plan (q a) ms R) : Runs plan (p >>= q) (ns ++ ms) R := by
  intro g
  have hg := hp g
  rw [runStages_append]
  rcases hr : plan.runStages ns g with ⟨exc | _, g'⟩
  · rw [hr] at hg
    exact exec_bind_error hg
  · rw [hr] at hg
    obtain ⟨a, ha, hexec⟩ := hg
    simp only [exec_bind_ok hexec]
    exact hq a ha g'

/-- Stages that do not run do nothing. -/
theorem skips {a : α} (ha : Q a) : ∀ {ns : List Stage}, (∀ n ∈ ns, plan.enabled n = false) →
    Runs plan (pure a : Lifespan P α) ns Q
  | [], _, _ => ⟨a, ha, rfl⟩
  | n :: ns, h, g => by
    rw [StartupPlan.runStages, h n List.mem_cons_self]
    exact skips ha (fun m hm => h m (List.mem_cons_of_mem _ hm)) g

theorem skip {n : Stage} {a : α} (ha : Q a) (h : plan.enabled n = false) :
    Runs plan (pure a : Lifespan P α) [n] Q := skips ha (by simpa using h)

/-- One stage that runs. -/
theorem single {n : Stage} {p : Lifespan P α} (hen : plan.enabled n = true)
    (hok : ∀ {update}, plan.outcome n = .ok update →
      ∀ g, ∃ a, Q a ∧ exec p g = (.ok a, ⟨n.mark g.readiness, update g.app⟩))
    (herr : ∀ {fl}, plan.outcome n = .error fl →
      ∀ g, exec p g = (.error fl.exc, StartupPlan.blame fl g)) : Runs plan p [n] Q := by
  intro g
  rw [StartupPlan.runStages, if_pos hen]
  rcases hout : plan.outcome n with fl | update
  · exact herr hout g
  · exact hok hout g

end Runs

/-! ## The steps of the lifespan -/

theorem exec_liftOutcome {α : Type} (r : Except PyExc α) (g : Gateway P) :
    exec (liftOutcome r) g = (r, g) := by
  cases r <;> rfl

theorem exec_attributing_ok {α : Type} (a : α) (blames : PyExc → Option String) (g : Gateway P) :
    exec (attributing (.ok a) blames) g = (.ok a, g) := by
  rw [attributing, exec_tryCatch, exec_liftOutcome]

theorem exec_attributing_error {α : Type} (exc : PyExc) (blames : PyExc → Option String) (g : Gateway P) :
    exec (attributing (.error exc : Except PyExc α) blames) g =
      (.error exc, StartupPlan.blame ⟨exc, blames exc⟩ g) := by
  rw [attributing, exec_tryCatch, exec_liftOutcome]
  simp only [StartupPlan.blame]
  cases blames exc <;> rfl

/-- A stage that is one attributed call, followed by what it marks. -/
theorem runs_attributing {plan : StartupPlan P} {α β : Type} {n : Stage} {r : Except PyExc α}
    {blames : PyExc → Option String} {update : α → AppState P → AppState P} {q : α → Lifespan P β}
    {Q : β → Prop} (hen : plan.enabled n = true)
    (hout : plan.outcome n = StartupSteps.stageOf r blames update)
    (hq : ∀ a, r = .ok a → ∀ g, ∃ b, Q b ∧ exec (q a) g = (.ok b, ⟨n.mark g.readiness, update a g.app⟩)) :
    Runs plan (attributing r blames >>= q) [n] Q := by
  refine Runs.single hen (fun hup g => ?_) (fun hfl g => ?_)
  · rw [hout] at hup
    rcases r with exc | a
    · cases hup
    · cases hup
      rw [exec_bind_ok (exec_attributing_ok a blames g)]
      exact hq a rfl g
  · rw [hout] at hfl
    rcases r with exc | a
    · cases hfl
      exact exec_bind_error (exec_attributing_error exc blames g)
    · cases hfl

/-- A check that is one stage of its own. -/
theorem runs_check {plan : StartupPlan P} {n : Stage} {r : Except PyExc Unit}
    {blames : PyExc → Option String} (hen : plan.enabled n = true)
    (hout : plan.outcome n = StartupSteps.stageOf r blames fun _ => id) (hmark : ∀ rs, n.mark rs = rs) :
    Runs plan (attributing r blames) [n] fun _ => r = .ok () := by
  rw [← bind_pure (attributing r blames)]
  refine runs_attributing hen hout fun u hr g => ⟨u, hr, ?_⟩
  rw [hmark]
  rfl

section Steps

variable {steps : StartupSteps P} {config : GatewayConfig} (h : steps.loadConfig = .ok config)
include h

theorem enabled_plan (n : Stage) : steps.plan.enabled n = n.neededBy config := by
  rw [StartupSteps.plan_of_ok h]

theorem outcome_plan (n : Stage) : steps.plan.outcome n = steps.outcomeOf config n := by
  rw [StartupSteps.plan_of_ok h]

theorem runs_loadConfiguration :
    Runs steps.plan (loadConfiguration steps) [.configuration] (· = config) := by
  refine Runs.single (enabled_plan h _) (fun hup g => ⟨config, rfl, ?_⟩) (fun hfl => ?_)
  · rw [outcome_plan h] at hup
    cases hup
    rw [loadConfiguration, h]
    rfl
  · rw [outcome_plan h] at hfl
    cases hfl

theorem runs_registerOperationAwareRouter :
    Runs steps.plan (registerOperationAwareRouter config) [.router] fun _ => True := by
  refine Runs.single (enabled_plan h _) (fun hup g => ⟨(), trivial, ?_⟩) (fun hfl => ?_)
  · rw [outcome_plan h] at hup
    cases hup
    rw [registerOperationAwareRouter, exec_bind_ok (exec_get _)]
    rcases g with ⟨rs, ⟨_, _, _, _, _, _, registered⟩⟩
    cases registered <;> cases config.operationAwareEnabled <;> rfl
  · rw [outcome_plan h] at hfl
    cases hfl

theorem runs_constructAuditWriter :
    Runs steps.plan (constructAuditWriter config) [.auditWriter]
      fun w => config.needsAuditWriter = true → w.isSome = true := by
  rw [constructAuditWriter]
  cases hn : config.needsAuditWriter with
  | true =>
    refine Runs.single ((enabled_plan h _).trans hn) (fun hup g =>
      ⟨some (.init config.auditFailureThreshold), fun _ => rfl, ?_⟩) (fun hfl => ?_)
    · rw [outcome_plan h] at hup
      cases hup
      rfl
    · rw [outcome_plan h] at hfl
      cases hfl
  | false => exact Runs.skip (by simp) ((enabled_plan h _).trans hn)

theorem runs_registerOperationAwareReadiness :
    Runs steps.plan (registerOperationAwareReadiness config) [.operationAwareMode] fun _ => True := by
  rw [registerOperationAwareReadiness]
  cases hn : config.operationAwareEnabled with
  | true =>
    refine Runs.single ((enabled_plan h _).trans hn) (fun hup g => ⟨(), trivial, ?_⟩) (fun hfl => ?_)
    · rw [outcome_plan h] at hup
      cases hup
      rfl
    · rw [outcome_plan h] at hfl
      cases hfl
  | false => exact Runs.skip trivial ((enabled_plan h _).trans hn)

theorem runs_validateEvaluation :
    Runs steps.plan (validateEvaluation steps config) [.evaluationConfig] fun _ => True := fun g => by
  have hcheck : Runs steps.plan (validateEvaluation steps config) [.evaluationConfig] _ :=
    runs_check (enabled_plan h _) (outcome_plan h _) fun _ => rfl
  have := hcheck g
  split at this
  next hr =>
    obtain ⟨a, -, ha⟩ := this
    exact ⟨a, trivial, ha⟩
  next => exact this

theorem runs_oidc (hm : config.authMode = .oidc) :
    Runs steps.plan (initializeAuthentication steps config) [.oidc] fun _ => True := by
  rw [initializeAuthentication, hm]
  simp only
  cases hi : truthy config.oidcIssuer with
  | false => exact Runs.skip trivial (by simp [enabled_plan h, Stage.neededBy, hi])
  | true =>
    have hen : steps.plan.enabled .oidc = true := by simp [enabled_plan h, Stage.neededBy, hm, hi]
    rcases hv : steps.verifierFromConfig with exc | verifier
    · refine Runs.single hen (fun hup => ?_) fun hfl g => ?_ <;>
        rw [outcome_plan h, StartupSteps.outcomeOf, hv] at *
      · cases hup
      · cases hfl
        rfl
    · have hstage : Runs steps.plan (attributing steps.verifierInitialize oidcClauses >>= fun _ => _)
          [.oidc] fun _ => True :=
        runs_attributing hen (by rw [outcome_plan h, StartupSteps.outcomeOf, hv])
          fun _ _ g => ⟨(), trivial, (rfl : exec (do
            setApp fun app => { app with verifier := some verifier }
            markReady "oidc_configured"
            markReady "jwks_available") g = _)⟩
      exact hstage

theorem runs_basisLocalToken (hm : config.authMode = .basisLocalToken) :
    Runs steps.plan (initializeAuthentication steps config) [.basisLocalToken] fun _ => True := by
  rw [initializeAuthentication, hm]
  exact runs_attributing (by simp [enabled_plan h, Stage.neededBy, hm]) (outcome_plan h _)
    fun _ _ _ => ⟨(), trivial, rfl⟩

theorem runs_initializeAuthentication :
    Runs steps.plan (initializeAuthentication steps config) [.oidc, .basisLocalToken] fun _ => True := by
  cases hm : config.authMode with
  | oidc =>
    have hoff : steps.plan.enabled .basisLocalToken = false := by simp [enabled_plan h, Stage.neededBy, hm]
    rw [← bind_pure (initializeAuthentication steps config)]
    exact (runs_oidc h hm).bind fun _ _ => Runs.skip trivial hoff
  | basisLocalToken =>
    have hoff : steps.plan.enabled .oidc = false := by simp [enabled_plan h, Stage.neededBy, hm]
    have hskip : Runs steps.plan (pure () : Lifespan P Unit) [.oidc] fun _ => True := Runs.skip trivial hoff
    rw [← pure_bind () fun _ => initializeAuthentication steps config]
    exact hskip.bind fun _ _ => runs_basisLocalToken h hm

theorem runs_loadPolicy :
    Runs steps.plan (loadPolicy steps config) [.policy]
      fun engine => truthy config.policyPath = true → engine.isSome = true := by
  rw [loadPolicy]
  cases hn : truthy config.policyPath with
  | true =>
    exact runs_attributing ((enabled_plan h _).trans hn) (outcome_plan h _)
      fun engine _ g => ⟨some engine, fun _ => rfl, rfl⟩
  | false => exact Runs.skip (by simp) ((enabled_plan h _).trans hn)

/-- The two assertions of step 5 hold: what steps 4 and 1b return is there when the policy is. -/
theorem runs_initializeEvaluator {engine : Option P.Engine} {auditWriter : Option GatewayAuditWriter}
    (he : truthy config.policyPath = true → engine.isSome = true)
    (hw : config.needsAuditWriter = true → auditWriter.isSome = true) :
    Runs steps.plan (initializeEvaluator steps config engine auditWriter) [.evaluator] fun _ => True := by
  rw [initializeEvaluator]
  cases hp : truthy config.policyPath with
  | false => exact Runs.skip trivial ((enabled_plan h _).trans hp)
  | true =>
    have hw := hw (by simp [GatewayConfig.needsAuditWriter, hp])
    rw [if_pos rfl, assertThat, assertThat, if_pos (he hp), if_pos hw, pure_bind, pure_bind]
    refine Runs.single ((enabled_plan h _).trans hp) (fun hup g => ⟨(), trivial, ?_⟩) fun hfl g => ?_ <;>
      rcases hb : steps.buildEvaluator with exc | evaluator <;>
      simp only [outcome_plan h, StartupSteps.outcomeOf, StartupSteps.stageOf, hb] at *
    · cases hup
    · cases hup
      rfl
    · cases hfl
      rfl
    · cases hfl

/-- The assertion of step 6a holds: the check before it wants a bundle path. -/
theorem runs_loadOperationAwareBundle (hen : config.operationAwareEnabled = true) :
    Runs steps.plan (loadOperationAwareBundle steps config) [.operationAwareConfig, .bundle]
      fun _ => True := by
  have hcheck : Runs steps.plan _ [.operationAwareConfig] _ :=
    runs_check ((enabled_plan h .operationAwareConfig).trans hen) (outcome_plan h _) fun _ => rfl
  refine hcheck.bind fun _ hc => ?_
  have hpath : config.operationAwarePolicyBundlePath.isSome = true := by
    unfold checkedWith at hc
    split at hc
    next => cases hc
    next => exact config.bundlePath_of_validateOperationAwareConfig hen hc
  rw [assertThat, if_pos hpath, pure_bind]
  exact runs_attributing ((enabled_plan h .bundle).trans hen) (outcome_plan h _)
    fun bundle _ _ => ⟨bundle, trivial, rfl⟩

theorem runs_constructOperationAware (hen : config.operationAwareEnabled = true) :
    Runs steps.plan (constructOperationAware steps) [.operationAwareEvaluator]
      fun evaluator => steps.constructOperationAwareEvaluator = .ok evaluator :=
  runs_attributing ((enabled_plan h _).trans hen) (outcome_plan h _) fun evaluator he _ =>
    ⟨evaluator, he, rfl⟩

theorem runs_preflightOperationAware (hen : config.operationAwareEnabled = true)
    {evaluator : P.OperationAwareEvaluator} (he : steps.constructOperationAwareEvaluator = .ok evaluator) :
    Runs steps.plan (preflightOperationAware steps evaluator) [.preflight] fun _ => True := by
  have hout := outcome_plan h .preflight
  rw [StartupSteps.outcomeOf, he] at hout
  exact runs_attributing ((enabled_plan h _).trans hen) hout fun _ _ _ => ⟨(), trivial, rfl⟩

theorem runs_initializeOperationAware :
    Runs steps.plan (initializeOperationAware steps config)
      [.operationAwareConfig, .bundle, .operationAwareEvaluator, .preflight] fun _ => True := by
  rw [initializeOperationAware]
  cases hn : config.operationAwareEnabled with
  | true =>
    exact (runs_loadOperationAwareBundle h hn).bind fun _ _ =>
      (runs_constructOperationAware h hn).bind fun _ he => runs_preflightOperationAware h hn he
  | false =>
    refine Runs.skips trivial fun n hm => ?_
    simp only [List.mem_cons, List.not_mem_nil, or_false] at hm
    rw [enabled_plan h]
    rcases hm with rfl | rfl | rfl | rfl <;> exact hn

/-- The whole body, once the configuration loads. -/
theorem runs_startupBody : Runs steps.plan (startupBody steps) Stage.all fun _ => True := by
  refine (runs_loadConfiguration h).bind fun _ hc => ?_
  subst hc
  exact (runs_registerOperationAwareRouter h).bind fun _ _ =>
    (runs_constructAuditWriter h).bind fun _ hw =>
    (runs_registerOperationAwareReadiness h).bind fun _ _ =>
    (runs_validateEvaluation h).bind fun _ _ =>
    (runs_initializeAuthentication h).bind fun _ _ =>
    (runs_loadPolicy h).bind fun _ he =>
    (runs_initializeEvaluator h he hw).bind fun _ _ => runs_initializeOperationAware h

end Steps

/-- A configuration that does not load stops startup at its first stage. -/
theorem exec_startupBody_error {steps : StartupSteps P} {exc : PyExc} (h : steps.loadConfig = .error exc)
    (g : Gateway P) : exec (startupBody steps) g = (.error exc, g) := by
  rw [startupBody, loadConfiguration, h]
  rfl

theorem exec_onStartupFailure (exc : PyExc) (g : Gateway P) :
    exec (onStartupFailure exc) g = (.ok (), StartupPlan.settle (.error exc, g)) := by
  rw [onStartupFailure, exec_bind_ok (exec_get g), exec_ite]
  simp only [StartupPlan.settle]
  by_cases hall : g.readiness.components.all id = true
  · rw [if_pos hall, if_pos hall]
    rfl
  · rw [if_neg hall, if_neg hall, exec_pure]

/-- **Startup never raises, and leaves what its plan leaves.** -/
theorem exec_startup (steps : StartupSteps P) (g : Gateway P) :
    exec (startup steps) g = (.ok (), steps.plan.run g) := by
  rw [startup, exec_tryCatch]
  rcases h : steps.loadConfig with exc | config
  · rw [exec_startupBody_error h]
    simp only [exec_onStartupFailure, StartupSteps.plan_of_error h]
    rfl
  · have hbody := runs_startupBody h g
    rw [StartupPlan.run]
    rcases hr : steps.plan.runStages Stage.all g with ⟨exc | _, g'⟩
    · rw [hr] at hbody
      simp only [hbody, exec_onStartupFailure]
    · rw [hr] at hbody
      obtain ⟨a, -, ha⟩ := hbody
      rw [ha]
      rfl

end BasisGateway
