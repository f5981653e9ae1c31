/-
Staged readiness on a fresh process: what one startup leaves on an empty
tracker and an empty `app.state`, read off its plan, and what the audit
writes after it can still change.
-/
import BasisGateway.MainFacts

namespace BasisGateway

open Prog

variable {P : Parts}

/-! ## Success, spelled out -/

/-- Every step that `config` enables returns. -/
structure StartupSteps.Succeed (steps : StartupSteps P) (config : GatewayConfig) : Prop where
  loaded : steps.loadConfig = .ok config
  evaluationConfig :
    checkedWith steps.evaluationConfigFault config.validateEvaluationConfig = .ok ()
  oidc : config.authMode = .oidc → truthy config.oidcIssuer = true →
    steps.verifierFromConfig.isOk = true ∧ steps.verifierInitialize.isOk = true
  basisLocalToken : config.authMode = .basisLocalToken →
    steps.buildBasisLocalTokenTrustConfig.isOk = true
  policy : truthy config.policyPath = true →
    steps.loadPolicyEngine.isOk = true ∧ steps.buildEvaluator.isOk = true
  operationAware : config.operationAwareEnabled = true →
    checkedWith steps.operationAwareConfigFault config.validateOperationAwareConfig = .ok () ∧
      steps.loadOperationAwarePolicyBundle.isOk = true ∧
      steps.constructOperationAwareEvaluator.isOk = true ∧
      steps.preflightOperationAwareEvaluator.isOk = true

/-- Every step the configuration of this startup enables returns. -/
def StartupSteps.AllSucceed (steps : StartupSteps P) : Prop := ∃ config, steps.Succeed config

theorem isOk_stageOf {α : Type} (r : Except PyExc α) (blames : PyExc → Option String)
    (update : α → AppState P → AppState P) :
    (StartupSteps.stageOf r blames update).isOk = r.isOk := by
  cases r <;> rfl

theorem eq_ok_iff_isOk (r : Except PyExc Unit) : r = .ok () ↔ r.isOk = true := by
  rcases r with exc | u
  · simp [Except.isOk, Except.toBool]
  · simp [Except.isOk, Except.toBool]

theorem isOk_iff_exists {α : Type} {r : Except PyExc α} : r.isOk = true ↔ ∃ a, r = .ok a := by
  rcases r with exc | a
  · simp [Except.isOk, Except.toBool]
  · simp [Except.isOk, Except.toBool]

/-- The plan completes when the startup's own steps return. -/
theorem allComplete_plan_iff (steps : StartupSteps P) : steps.plan.AllComplete ↔ steps.AllSucceed := by
  rcases h : steps.loadConfig with exc | config
  · refine iff_of_false (fun hall => ?_) fun ⟨_, hs⟩ => ?_
    · have := hall .configuration (by rw [StartupSteps.plan_of_error h]; rfl)
      rw [StartupSteps.plan_of_error h] at this
      cases this
    · have := hs.loaded
      rw [h] at this
      cases this
  constructor
  · intro hall
    have hok : ∀ n : Stage, n.neededBy config = true → (steps.outcomeOf config n).isOk = true :=
      fun n hn => by
      rw [← outcome_plan h]
      exact hall n ((enabled_plan h n).trans hn)
    refine ⟨config, h, ?_, fun hm hi => ?_, fun hm => ?_, fun hp => ?_, fun hen => ?_⟩
    · have := hok .evaluationConfig rfl
      rwa [StartupSteps.outcomeOf, isOk_stageOf, ← eq_ok_iff_isOk] at this
    · have := hok .oidc (by simp [Stage.neededBy, hm, hi])
      rw [StartupSteps.outcomeOf] at this
      rcases hv : steps.verifierFromConfig with exc | verifier
      · rw [hv] at this
        cases this
      · rw [hv, isOk_stageOf] at this
        exact ⟨rfl, this⟩
    · have := hok .basisLocalToken (by simp [Stage.neededBy, hm])
      rwa [StartupSteps.outcomeOf, isOk_stageOf] at this
    · have h₁ := hok .policy hp
      have h₂ := hok .evaluator hp
      simp only [StartupSteps.outcomeOf, isOk_stageOf] at h₁ h₂
      exact ⟨h₁, h₂⟩
    · have h₁ := hok .operationAwareConfig hen
      have h₂ := hok .bundle hen
      have h₃ := hok .operationAwareEvaluator hen
      have h₄ := hok .preflight hen
      simp only [StartupSteps.outcomeOf, isOk_stageOf] at h₁ h₂ h₃
      obtain ⟨evaluator, he⟩ := isOk_iff_exists.1 h₃
      rw [StartupSteps.outcomeOf, he, isOk_stageOf] at h₄
      exact ⟨(eq_ok_iff_isOk _).2 h₁, h₂, h₃, h₄⟩
  · rintro ⟨config', hs⟩ n hen
    obtain rfl : config = config' := Except.ok.inj (h.symm.trans hs.loaded)
    rw [enabled_plan h] at hen
    rw [outcome_plan h]
    cases n with
    | configuration | router | auditWriter | operationAwareMode => rfl
    | evaluationConfig =>
      rw [StartupSteps.outcomeOf, isOk_stageOf, ← eq_ok_iff_isOk]
      exact hs.evaluationConfig
    | oidc =>
      simp only [Stage.neededBy, Bool.and_eq_true, decide_eq_true_eq] at hen
      obtain ⟨h₁, h₂⟩ := hs.oidc hen.1 hen.2
      rw [StartupSteps.outcomeOf]
      obtain ⟨verifier, hv⟩ := isOk_iff_exists.1 h₁
      rw [hv]
      exact (isOk_stageOf _ _ _).trans h₂
    | basisLocalToken =>
      rw [StartupSteps.outcomeOf, isOk_stageOf]
      exact hs.basisLocalToken (of_decide_eq_true hen)
    | policy => exact (isOk_stageOf _ _ _).trans (hs.policy hen).1
    | evaluator => exact (isOk_stageOf _ _ _).trans (hs.policy hen).2
    | operationAwareConfig =>
      exact (isOk_stageOf _ _ _).trans ((eq_ok_iff_isOk _).1 (hs.operationAware hen).1)
    | bundle => exact (isOk_stageOf _ _ _).trans (hs.operationAware hen).2.1
    | operationAwareEvaluator => exact (isOk_stageOf _ _ _).trans (hs.operationAware hen).2.2.1
    | preflight =>
      obtain ⟨-, -, h₁, h₂⟩ := hs.operationAware hen
      obtain ⟨evaluator, he⟩ := isOk_iff_exists.1 h₁
      rw [StartupSteps.outcomeOf, he]
      exact (isOk_stageOf _ _ _).trans h₂

/-! ## Components and attributes -/

/-- The gateway after a startup on a fresh process. -/
def freshStartup (steps : StartupSteps P) : Gateway P := (exec (startup steps) (.fresh P)).2

theorem freshStartup_eq (steps : StartupSteps P) : freshStartup steps = steps.plan.run (.fresh P) := by
  rw [freshStartup, exec_startup]

theorem isReady_freshStartup (steps : StartupSteps P) :
    (freshStartup steps).readiness.isReady = true ↔ steps.AllSucceed := by
  rw [freshStartup_eq, StartupPlan.isReady_run steps.plan_sound, allComplete_plan_iff]

def componentReady (g : Gateway P) (c : String) : Prop := g.readiness.components.get? c = some true

/-- The components of operation-aware startup. -/
def operationAwareComponents : List String :=
  ["operation_aware_mode_enabled", "operation_aware_bundle_loaded",
    "operation_aware_evaluator_initialized", "operation_aware_policy_semantically_valid"]

/-- A component other than `configuration_loaded` is ready when its stage completed. -/
theorem componentReady_iff (steps : StartupSteps P) {n : Stage} {c : String} (hn : c ∈ n.provides)
    (hc : c ≠ "configuration_loaded") :
    componentReady (freshStartup steps) c ↔ n ∈ steps.plan.reachedStages := by
  rw [componentReady, freshStartup_eq, StartupPlan.ready_iff_reached steps.plan_sound hc]
  refine ⟨fun ⟨m, hm, hcm⟩ => ?_, fun hm => ⟨n, hm, hn⟩⟩
  rwa [Stage.eq_of_provides hn hcm]

/-- Operation-aware stages complete in their order. -/
theorem reached_of_before (steps : StartupSteps P) {m n : Stage} (hb : m.before n)
    (hen : ∀ config, n.neededBy config = true → m.neededBy config = true)
    (h : n ∈ steps.plan.reachedStages) : m ∈ steps.plan.reachedStages := by
  have hn := (StartupPlan.enabled_of_completed h)
  refine StartupPlan.completed_of_before Stage.all_pairwise h m.mem_all hb ?_
  rcases hc : steps.loadConfig with exc | config
  · rw [StartupSteps.plan_of_error hc] at hn
    cases hn.2
  · rw [enabled_plan hc] at hn ⊢
    exact hen config hn.1

theorem operationAware_chain (steps : StartupSteps P) {m n : Stage} {c d : String} (hb : m.before n)
    (hen : ∀ config, n.neededBy config = true → m.neededBy config = true)
    (hc : c ∈ m.provides) (hd : d ∈ n.provides) (hcc : c ≠ "configuration_loaded")
    (hdc : d ≠ "configuration_loaded") :
    componentReady (freshStartup steps) d → componentReady (freshStartup steps) c := by
  rw [componentReady_iff steps hc hcc, componentReady_iff steps hd hdc]
  exact reached_of_before steps hb hen

/-- With the feature off, no operation-aware component is registered. -/
theorem operationAware_unregistered (steps : StartupSteps P)
    (hoff : ∀ config, steps.loadConfig = .ok config → config.operationAwareEnabled = false) {c : String}
    (hc : c ∈ operationAwareComponents) : (freshStartup steps).readiness.components.get? c = none := by
  have hne : c ≠ "app" := by
    rintro rfl
    simp [operationAwareComponents] at hc
  rw [freshStartup_eq]
  refine StartupPlan.unregistered steps.plan_sound hne fun n hen => ?_
  have hn : n ∉ [Stage.operationAwareMode, .operationAwareConfig, .bundle, .operationAwareEvaluator, .preflight] := by
    intro hn
    rcases h : steps.loadConfig with exc | config
    · rw [StartupSteps.plan_of_error h] at hen
      obtain rfl := of_decide_eq_true hen
      simp at hn
    · rw [enabled_plan h] at hen
      have hfalse : n.neededBy config = config.operationAwareEnabled := by
        simp only [List.mem_cons, List.not_mem_nil, or_false] at hn
        rcases hn with rfl | rfl | rfl | rfl | rfl <;> rfl
      rw [hfalse, hoff config h] at hen
      cases hen
  simp only [operationAwareComponents, List.mem_cons, List.not_mem_nil, or_false] at hc
  cases n <;> first
    | exact (hn (by decide)).elim
    | rcases hc with rfl | rfl | rfl | rfl <;>
        simp [Stage.provides, Stage.announced, Stage.announces, Stage.blamable, auditWriterComponent]

/-- An attribute is there when its stage completed: the stage sets it, configuration clears it,
and no other stage touches it. -/
theorem attribute_isSome_iff {α : Type} (steps : StartupSteps P) (read : AppState P → Option α) {n : Stage}
    (hfresh : read {} = none) (hn : n ≠ .configuration)
    (hset : ∀ {config u}, steps.outcomeOf config n = .ok u → ∀ app, (read (u app)).isSome = true)
    (hclear : ∀ {config u}, steps.outcomeOf config .configuration = .ok u → ∀ app, read (u app) = none)
    (hkeep : ∀ {config m u}, m ≠ .configuration → m ≠ n → steps.outcomeOf config m = .ok u →
      ∀ app, read (u app) = read app) :
    (read (freshStartup steps).app).isSome = true ↔ n ∈ steps.plan.reachedStages := by
  rw [freshStartup_eq]
  rcases h : steps.loadConfig with exc | config
  · rw [StartupSteps.plan_of_error h]
    refine StartupPlan.attribute_isSome read ?_ ?_ ?_ hfresh <;> intros <;> contradiction
  · refine StartupPlan.attribute_isSome read ?_ ?_ ?_ hfresh
    · intro u hu
      rw [outcome_plan h] at hu
      exact hset hu
    · intro m u hb hu app
      rw [outcome_plan h] at hu
      refine hkeep ?_ ?_ hu app
      · rintro rfl
        exact absurd hb (Nat.not_lt_zero _)
      · rintro rfl
        exact Nat.lt_irrefl _ hb
    · intro m u hmn hu app hnone
      rw [outcome_plan h] at hu
      by_cases hm : m = .configuration
      · subst hm
        exact hclear hu app
      · rw [hkeep hm hmn hu app, hnone]

theorem evaluator_isSome (steps : StartupSteps P) :
    (freshStartup steps).app.evaluator.isSome = true ↔
      componentReady (freshStartup steps) "evaluator_initialized" := by
  rw [componentReady_iff steps (by simp [Stage.provides] : _ ∈ Stage.evaluator.provides) (by simp)]
  refine attribute_isSome_iff steps (·.evaluator) rfl (by simp) (fun hu app => ?_) (fun hu app => ?_)
    fun {_ m _} hm hmn hu app => ?_
  · obtain ⟨e, he, rfl⟩ := StartupSteps.ok_of_stageOf hu
    rfl
  · exact (StartupSteps.attributes_of_outcomeOf hu app).2.1
  · rw [(StartupSteps.attributes_of_outcomeOf hu app).2.1, if_neg hm, if_neg hmn]

theorem operationAwareEvaluator_isSome (steps : StartupSteps P) :
    (freshStartup steps).app.operationAwareEvaluator.isSome = true ↔
      componentReady (freshStartup steps) "operation_aware_policy_semantically_valid" := by
  rw [componentReady_iff steps (by simp [Stage.provides] : _ ∈ Stage.preflight.provides) (by simp)]
  refine attribute_isSome_iff steps (·.operationAwareEvaluator) rfl (by simp) (fun hu app => ?_)
    (fun hu app => ?_) fun {_ m _} hm hmn hu app => ?_
  · simp only [StartupSteps.outcomeOf] at hu
    split at hu
    next => cases hu
    next =>
      obtain ⟨u, -, rfl⟩ := StartupSteps.ok_of_stageOf hu
      rfl
  · exact (StartupSteps.attributes_of_outcomeOf hu app).2.2
  · rw [(StartupSteps.attributes_of_outcomeOf hu app).2.2, if_neg hm, if_neg hmn]

/-! ## The audit writer -/

/-- The two stages before the writer's cannot fail. -/
theorem auditWriter_reached (steps : StartupSteps P) :
    .auditWriter ∈ steps.plan.reachedStages ↔
      ∃ config, steps.loadConfig = .ok config ∧ config.needsAuditWriter = true := by
  constructor
  · intro h
    have hen := (StartupPlan.enabled_of_completed h)
    rcases hc : steps.loadConfig with exc | config
    · rw [StartupSteps.plan_of_error hc] at hen
      cases hen.2
    · rw [enabled_plan hc] at hen
      exact ⟨config, rfl, hen.1⟩
  · rintro ⟨config, hc, hw⟩
    have hw' : steps.plan.enabled .auditWriter = true := (enabled_plan hc _).trans hw
    rw [StartupSteps.plan_of_ok hc] at hw' ⊢
    simp [StartupPlan.reachedStages, Stage.all, StartupPlan.completed, Stage.neededBy,
      StartupSteps.outcomeOf, hw]

theorem auditWriter_isSome (steps : StartupSteps P) :
    (freshStartup steps).app.auditWriter.isSome = true ↔ .auditWriter ∈ steps.plan.reachedStages := by
  refine attribute_isSome_iff steps (·.auditWriter) rfl (by simp) (fun hu app => ?_) (fun hu app => ?_)
    fun {_ m _} hm hmn hu app => ?_
  · cases hu
    rfl
  · exact (StartupSteps.attributes_of_outcomeOf hu app).1
  · rw [(StartupSteps.attributes_of_outcomeOf hu app).1, if_neg hm, if_neg hmn]

/-- What every stage that completes keeps of `app.state`, startup keeps. -/
theorem app_run_invariant {plan : StartupPlan P} {I : AppState P → Prop} (hfresh : I {})
    (hstep : ∀ {n u}, plan.outcome n = .ok u → ∀ app, I app → I (u app)) :
    I (plan.run (.fresh P)).app := by
  rw [StartupPlan.run, StartupPlan.app_settle, StartupPlan.app_runStages]
  refine List.foldlRecOn _ _ hfresh fun app happ n _ => ?_
  rw [StartupPlan.updateApp]
  split
  next hout => exact hstep hout app happ
  next => exact happ

/-- The writer of a fresh startup has written nothing yet. -/
theorem auditWriter_eq_init {steps : StartupSteps P} {w : GatewayAuditWriter}
    (hw : (freshStartup steps).app.auditWriter = some w) : ∃ threshold, w = .init threshold := by
  rw [freshStartup_eq] at hw
  refine app_run_invariant (I := fun app => ∀ w, app.auditWriter = some w → ∃ threshold, w = .init threshold)
    (fun w h => by cases h) (fun {n u} hout app happ w h => ?_) w hw
  rcases hc : steps.loadConfig with exc | config
  · rw [StartupSteps.plan_of_error hc] at hout
    cases hout
  · rw [outcome_plan hc] at hout
    rw [(StartupSteps.attributes_of_outcomeOf hout app).1] at h
    split at h
    next => cases h
    next =>
      split at h
      next => exact ⟨_, (Option.some.inj h).symm⟩
      next => exact happ w h

theorem reasons_mark (n : Stage) {rs : ReadinessState} (h : rs.reasons.get? auditWriterComponent = none) :
    (n.mark rs).reasons.get? auditWriterComponent = none := by
  cases n <;>
    simp_all [Stage.mark, Stage.provides, Stage.announces, OrderedDict.get?_set, OrderedDict.get?_erase,
      auditWriterComponent]

theorem auditWriter_not_blamable (n : Stage) (h : auditWriterComponent ∈ n.blamable) : n = .auditWriter := by
  cases n <;> simp_all [Stage.blamable, Stage.provides, auditWriterComponent]

/-- No stage gives a reason for `audit_writer`. -/
theorem reasons_freshStartup (steps : StartupSteps P) :
    (freshStartup steps).readiness.reasons.get? auditWriterComponent = none := by
  have hrun : ∀ (ns : List Stage) (g : Gateway P), g.readiness.reasons.get? auditWriterComponent = none →
      (steps.plan.runStages ns g).2.readiness.reasons.get? auditWriterComponent = none := by
    intro ns
    induction ns with
    | nil => exact fun g h => h
    | cons n ns ih =>
      intro g h
      rw [StartupPlan.runStages]
      split
      · split
        next u hout => exact ih _ (reasons_mark n h)
        next fl hout =>
          simp only [StartupPlan.blame]
          split
          next c hc =>
            have hne : auditWriterComponent ≠ c := by
              rintro rfl
              obtain rfl := auditWriter_not_blamable n (steps.plan_sound.blames hout hc)
              rcases hl : steps.loadConfig with exc | config
              · rw [StartupSteps.plan_of_error hl] at hout
                cases hout
                cases hc
              · rw [outcome_plan hl] at hout
                cases hout
            simpa [OrderedDict.get?_set, hne] using h
          next => exact h
      · exact ih g h
  have h := hrun Stage.all (.fresh P) (by simp [Gateway.fresh])
  rw [freshStartup_eq, StartupPlan.run]
  rcases hr : steps.plan.runStages Stage.all (.fresh P) with ⟨exc | _, g⟩
  · rw [hr] at h
    simp only [StartupPlan.settle]
    split
    · simpa [OrderedDict.get?_set, auditWriterComponent] using h
    · exact h
  · rwa [hr] at h

theorem auditWriter_ready {steps : StartupSteps P} (h : (freshStartup steps).app.auditWriter.isSome = true) :
    (freshStartup steps).readiness.markReady auditWriterComponent = (freshStartup steps).readiness := by
  have hready : componentReady (freshStartup steps) auditWriterComponent :=
    (componentReady_iff steps (by simp [Stage.provides] : _ ∈ Stage.auditWriter.provides)
      (by simp [auditWriterComponent])).2 ((auditWriter_isSome steps).1 h)
  exact ReadinessState.markReady_of_ready hready (reasons_freshStartup steps)

/-! ## Audit writes after startup -/

theorem exec_auditWrites_none {g : Gateway P} (h : g.app.auditWriter = none) :
    ∀ outcomes : List WriteOutcome, exec (auditWrites outcomes) g = (.ok (), g)
  | [] => rfl
  | outcome :: outcomes => by
    have hone : exec (auditWrite outcome) g = (.ok (), g) := by
      rw [auditWrite, exec_bind_ok (exec_get g), h]
      rfl
    rw [auditWrites, List.forM_cons, exec_bind_ok hone]
    exact exec_auditWrites_none h outcomes

/-- Writes while the gateway serves are the writer's own. -/
theorem exec_auditWrites_some : ∀ (outcomes : List WriteOutcome) {g : Gateway P} {w : GatewayAuditWriter},
    g.app.auditWriter = some w → ∀ calls, exec (auditWrites outcomes) g =
      (.ok (), g.withAudit (GatewayAuditWriter.afterWrites outcomes ⟨w, g.readiness, calls⟩))
  | [], ⟨_, ⟨_, _, _, _, _, _, _⟩⟩, w, h, calls => by
    cases h
    rfl
  | outcome :: outcomes, g, w, h, calls => by
    obtain ⟨hw, hr⟩ := GatewayAuditWriter.afterWrite_calls outcome w g.readiness [] calls
    have hone : exec (auditWrite outcome) g =
        (.ok (), g.withAudit (GatewayAuditWriter.afterWrite outcome ⟨w, g.readiness, calls⟩)) := by
      rw [auditWrite, exec_bind_ok (exec_get g), h]
      simp only [GatewayAuditWriter.write_settles outcome ⟨w, g.readiness, []⟩, exec_set,
        Gateway.withAudit, hw, hr]
    rw [auditWrites, List.forM_cons, exec_bind_ok hone]
    exact exec_auditWrites_some outcomes rfl
      (GatewayAuditWriter.afterWrite outcome ⟨w, g.readiness, calls⟩).calls

/-- While the gateway serves it is ready when startup succeeded and the writer is not degraded. -/
theorem isReady_auditWrites (steps : StartupSteps P) (outcomes : List WriteOutcome) :
    let g := (exec (auditWrites outcomes) (freshStartup steps)).2
    g.readiness.isReady = true ↔
      steps.AllSucceed ∧ ∀ w, g.app.auditWriter = some w → w.degraded = false := by
  have hstart := isReady_freshStartup steps
  rcases hw : (freshStartup steps).app.auditWriter with - | w
  · rw [exec_auditWrites_none hw]
    simp [hstart, hw]
  · obtain ⟨threshold, rfl⟩ := auditWriter_eq_init hw
    have hready := auditWriter_ready (Option.isSome_iff_exists.2 ⟨_, hw⟩)
    have hreport := (GatewayAuditWriter.writerInv_afterWrites threshold (freshStartup steps).readiness
      outcomes).report.ready
    rw [AuditState.start, hready] at hreport
    have hcomp : (freshStartup steps).readiness.components.get? auditWriterComponent = some true := by
      rw [← hready]
      simp
    have hothers : (∀ c, c ≠ auditWriterComponent →
        (freshStartup steps).readiness.components.get? c ≠ some false) ↔ steps.AllSucceed := by
      rw [← hstart, ReadinessState.isReady_iff]
      refine ⟨fun h => ⟨⟨auditWriterComponent, by simp [hcomp]⟩, fun c => ?_⟩, fun h c _ => h.2 c⟩
      by_cases hc : c = auditWriterComponent
      · simp [hc, hcomp]
      · exact h c hc
    rw [hothers] at hreport
    rw [exec_auditWrites_some outcomes hw []]
    simpa [Gateway.withAudit] using hreport

/-! ## Staged readiness -/

/-- **Staged readiness on a fresh process.** Startup never raises. Afterwards the whole is ready
exactly when every enabled step succeeded; the operation-aware components form a chain and are
absent when the feature is off; the two evaluators are there exactly when their last component is
ready; nothing of the failing stage or a later one is ready; the audit writer is there exactly
when the configuration loaded and needs it; and from then on the whole is ready exactly when
startup succeeded and the writer is not degraded. -/
theorem staged_readiness (steps : StartupSteps P) :
    let g := freshStartup steps
    (exec (startup steps) (.fresh P)).1 = .ok () ∧
    (g.readiness.isReady = true ↔ steps.AllSucceed) ∧
    (componentReady g "operation_aware_policy_semantically_valid" →
      componentReady g "operation_aware_evaluator_initialized") ∧
    (componentReady g "operation_aware_evaluator_initialized" →
      componentReady g "operation_aware_bundle_loaded") ∧
    (componentReady g "operation_aware_bundle_loaded" → componentReady g "operation_aware_mode_enabled") ∧
    ((∀ config, steps.loadConfig = .ok config → config.operationAwareEnabled = false) →
      ∀ c ∈ operationAwareComponents, g.readiness.components.get? c = none) ∧
    (g.app.operationAwareEvaluator.isSome = true ↔
      componentReady g "operation_aware_policy_semantically_valid") ∧
    (g.app.evaluator.isSome = true ↔ componentReady g "evaluator_initialized") ∧
    (∀ m fl, steps.plan.failure Stage.all = some (m, fl) →
      ∀ n : Stage, ¬ n.before m → ∀ c ∈ n.provides, ¬ componentReady g c) ∧
    (g.app.auditWriter.isSome = true ↔ ∃ config, steps.loadConfig = .ok config ∧
      (truthy config.policyPath = true ∨ config.operationAwareEnabled = true)) ∧
    (componentReady g auditWriterComponent ↔ g.app.auditWriter.isSome = true) ∧
    ∀ outcomes, let g' := (exec (auditWrites outcomes) g).2
      g'.readiness.isReady = true ↔
        steps.AllSucceed ∧ ∀ w, g'.app.auditWriter = some w → w.degraded = false := by
  intro g
  refine ⟨by rw [exec_startup], ?_, ?_, ?_, ?_, fun hoff c hc => operationAware_unregistered steps hoff hc,
    operationAwareEvaluator_isSome steps, evaluator_isSome steps, fun m fl hf n hn c hc => ?_, ?_, ?_,
    isReady_auditWrites steps⟩
  · exact isReady_freshStartup steps
  · exact operationAware_chain steps (m := .operationAwareEvaluator) (n := .preflight) (by decide)
      (fun _ h => h) (by simp [Stage.provides]) (by simp [Stage.provides]) (by simp) (by simp)
  · exact operationAware_chain steps (m := .bundle) (n := .operationAwareEvaluator) (by decide)
      (fun _ h => h) (by simp [Stage.provides]) (by simp [Stage.provides]) (by simp) (by simp)
  · exact operationAware_chain steps (m := .operationAwareMode) (n := .bundle) (by decide)
      (fun _ h => h) (by simp [Stage.provides]) (by simp [Stage.provides]) (by simp) (by simp)
  · have hnot := StartupPlan.not_ready_after_failure hf hn hc
    rwa [← freshStartup_eq] at hnot
  · rw [auditWriter_isSome, auditWriter_reached]
    simp [GatewayConfig.needsAuditWriter]
  · rw [auditWriter_isSome, componentReady_iff steps (by simp [Stage.provides] : _ ∈ Stage.auditWriter.provides)
      (by simp [auditWriterComponent])]

end BasisGateway
