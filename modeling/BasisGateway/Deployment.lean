/-
A deployment: what a process finds when it starts, in its settings, on the
network, in its files and in the kernel library. Its startup is the
lifespan's with these as the outcomes of its steps, and the gateway is ready
afterwards exactly when the deployment is well formed: each thing that its
settings ask for is there.
-/
import BasisGateway.Auth.Discovery
import BasisGateway.Availability
import BasisGateway.Core.OperationAwareStartup
import BasisGateway.PolicyLoading

namespace BasisGateway

/-! ## What startup leaves on `app.state` -/

/-- What an attribute holds after startup was put there by its stage, which the configuration needs. The other
stages leave the attribute alone, or clear it. -/
theorem set_by_stage {P : Parts} {steps : StartupSteps P} {α : Type} (read : AppState P → Option α) {n : Stage}
    (hfresh : read {} = none)
    (hother : ∀ {config m u}, m ≠ n → steps.outcomeOf config m = .ok u →
      ∀ app, read (u app) = none ∨ read (u app) = read app)
    {x : α} (h : read (freshStartup steps).app = some x) :
    ∃ config u app, steps.loadConfig = .ok config ∧ n.neededBy config = true ∧
      steps.outcomeOf config n = .ok u ∧ read (u app) = some x := by
  rw [freshStartup_eq, StartupPlan.run, StartupPlan.app_settle, StartupPlan.app_runStages] at h
  revert h
  refine List.foldlRecOn (motive := fun app => read app = some x → _) _ _ (fun h => ?_) fun app happ m hm h => ?_
  · rw [Gateway.fresh, hfresh] at h
    cases h
  · obtain ⟨hen, -⟩ := StartupPlan.enabled_of_completed hm
    rw [StartupPlan.updateApp] at h
    cases hout : steps.plan.outcome m with
    | error fl =>
      rw [hout] at h
      exact happ h
    | ok u =>
      rw [hout] at h
      obtain ⟨config, hconfig⟩ : ∃ config, steps.loadConfig = .ok config := by
        cases hconfig : steps.loadConfig with
        | error exc =>
          rw [StartupSteps.plan_of_error hconfig] at hout
          cases hout
        | ok config => exact ⟨config, rfl⟩
      rw [outcome_plan hconfig] at hout
      rw [enabled_plan hconfig] at hen
      by_cases hmn : m = n
      · subst hmn
        exact ⟨config, u, app, hconfig, hen, hout, h⟩
      · rcases hother hmn hout app with hnone | hsame
        · rw [hnone] at h
          cases h
        · exact happ (hsame.symm.trans h)

/-- What a process finds at its startup. -/
structure Deployment (JWK Bundle : Type) (tables : UnicodeTables) where
  /-- `load_config()` and `configure_logging`. -/
  loadConfig : Except PyExc Settings
  network : Network JWK
  jsonLoads : String → Except PyExc Json
  /-- The file system: what is at a path. -/
  file : String → PolicyFile
  /-- `PolicyBundle.model_validate`. -/
  modelValidate : List (String × Json) → Except PyExc Bundle
  /-- `EnforcementPoint(engine=…, audit_writer=…, policy_version=…)`. -/
  enforcementPoint : PolicyEngine → Option String → Except PyExc (KernelCall → KernelRun)
  /-- `OperationAwareEnforcementPoint.for_bundle`. -/
  forBundle : Bundle → Except PyExc OperationAwareEnforcementPoint
  /-- `datetime.now` in the preflight. -/
  preflightTime : Int

namespace Deployment

variable {JWK Bundle : Type} {tables : UnicodeTables} (d : Deployment JWK Bundle tables) (settings : Settings)

/-! ## The steps of its startup -/

/-- `OIDCVerifier.from_config(…)`. -/
def verifierFromConfig : OIDCVerifierConfig where
  issuer := settings.oidcIssuer.getD ""
  audience := settings.oidcAudience
  jwksUriOverride := settings.oidcJwksUri
  cacheTtlSeconds := settings.jwksCacheTtlSeconds

/-- `verifier.initialize()`, and the verifier after it. -/
def initializedVerifier : Except PyExc (OIDCVerifier JWK) :=
  (verifierFromConfig settings).initialized d.network tables.printable

/-- The verifier as the lifespan holds it: without keys, if `initialize()` raised. -/
def verifier : OIDCVerifier JWK :=
  match d.initializedVerifier settings with
  | .ok verifier => verifier
  | .error _ => { issuer := (verifierFromConfig settings).issuer, audience := settings.oidcAudience, cache := none }

def policyFile : PolicyFile := d.file (settings.policyPath.getD "")

def engine : Except PyExc PolicyEngine := loadPolicyEngine tables.printable d.jsonLoads (d.policyFile settings)

/-- `build_evaluator`. -/
def buildEvaluator (engine : PolicyEngine) (policyVersion : Option String) : Except PyExc GatewayEvaluator := do
  return { policyVersion, enforcementPoint := ← d.enforcementPoint engine policyVersion }

def bundleFile : PolicyFile := d.file (settings.operationAwarePolicyBundlePath.getD "")

def bundle : Except PyExc Bundle :=
  (loadOperationAwarePolicyBundle tables.printable d.jsonLoads d.modelValidate (d.bundleFile settings)).mapError
    BundleLoadFault.exc

/-- The enforcement point of the bundle. -/
def point : Except PyExc OperationAwareEnforcementPoint := do
  constructOperationAwareEvaluator d.forBundle (← d.bundle settings)

def preflight : Except PyExc OperationAwareEnforcementResult := do
  (preflightOperationAwareEvaluator tables.printable d.preflightTime (← d.point settings)).mapError
    PreflightFault.exc

/-- The steps, with these settings. -/
def stepsOf : StartupSteps (gatewayParts JWK tables PolicyEngine Bundle) where
  loadConfig := .ok settings.toGatewayConfig
  verifierFromConfig := .ok (d.verifier settings)
  verifierInitialize := (d.initializedVerifier settings).map fun _ => ()
  buildBasisLocalTokenTrustConfig := buildBasisLocalTokenTrustConfig tables d.jsonLoads settings
  loadPolicyEngine := d.engine settings
  buildEvaluator := do d.buildEvaluator (← d.engine settings) settings.policyVersion
  loadOperationAwarePolicyBundle := d.bundle settings
  constructOperationAwareEvaluator := (d.point settings).map (·.evaluator)
  preflightOperationAwareEvaluator := (d.preflight settings).map fun _ => ()

/-- The steps. Without settings none of the others is taken. -/
def steps : StartupSteps (gatewayParts JWK tables PolicyEngine Bundle) :=
  match d.loadConfig with
  | .ok settings => d.stepsOf settings
  | .error exc => { d.stepsOf {} with loadConfig := .error exc }

theorem steps_of_ok {d : Deployment JWK Bundle tables} {settings : Settings} (h : d.loadConfig = .ok settings) :
    d.steps = d.stepsOf settings := by
  rw [steps, h]

theorem steps_loadConfig : d.steps.loadConfig = d.loadConfig.map (·.toGatewayConfig) := by
  unfold steps
  cases d.loadConfig with
  | ok settings => rfl
  | error exc => rfl

/-- The three stages of operation-aware startup make what `load_and_build_operation_aware_evaluator` makes. -/
theorem preflight_bind_point :
    (d.preflight settings >>= fun _ => (d.point settings).map (·.evaluator)) =
      loadAndBuildOperationAwareEvaluator tables.printable d.forBundle d.jsonLoads d.modelValidate d.preflightTime
        (d.bundleFile settings) := by
  unfold preflight point loadAndBuildOperationAwareEvaluator buildOperationAwareEvaluator bundle
  cases (loadOperationAwarePolicyBundle tables.printable d.jsonLoads d.modelValidate
      (d.bundleFile settings)).mapError BundleLoadFault.exc with
  | error exc => rfl
  | ok bundle =>
    simp only [bind, Except.bind]
    cases constructOperationAwareEvaluator d.forBundle bundle with
    | error exc => rfl
    | ok point => rfl

/-! ## What serves, and what it was made of -/

variable {d}

theorem settings_of_steps {config : GatewayConfig} (h : d.steps.loadConfig = .ok config) :
    ∃ settings, d.loadConfig = .ok settings ∧ settings.toGatewayConfig = config ∧ d.steps = d.stepsOf settings := by
  rw [steps_loadConfig, Except.map_eq_ok] at h
  obtain ⟨settings, hsettings, hconfig⟩ := h
  exact ⟨settings, hsettings, hconfig, steps_of_ok hsettings⟩

/-- The verifier that serves was initialized, for the issuer of the settings. -/
theorem verifier_of_started {verifier : OIDCVerifier JWK} (h : (freshStartup d.steps).app.verifier = some verifier) :
    ∃ settings, d.loadConfig = .ok settings ∧ settings.authMode = .oidc ∧ truthy settings.oidcIssuer = true ∧
      d.initializedVerifier settings = .ok verifier := by
  have hother {config : GatewayConfig} {m : Stage} {u} (hm : m ≠ .oidc) (hu : d.steps.outcomeOf config m = .ok u)
      (app : AppState (gatewayParts JWK tables PolicyEngine Bundle)) :
      (u app).verifier = none ∨ (u app).verifier = app.verifier := by
    rw [(StartupSteps.verifiers_of_outcomeOf hu app).2.1, if_neg hm]
    exact ite_eq_or_eq ..
  obtain ⟨config, u, app, hload, hneeded, hout, hset⟩ := set_by_stage (·.verifier) rfl hother h
  obtain ⟨settings, hsettings, rfl, hsteps⟩ := settings_of_steps hload
  simp only [Stage.neededBy, Bool.and_eq_true, decide_eq_true_eq] at hneeded
  rw [hsteps] at hout
  obtain ⟨_, hinit, rfl⟩ := StartupSteps.ok_of_stageOf hout
  obtain ⟨initialized, hinitialized, -⟩ : ∃ initialized, d.initializedVerifier settings = .ok initialized ∧ () = () :=
    Except.map_eq_ok.1 hinit
  have hverifier : d.verifier settings = initialized := by rw [Deployment.verifier, hinitialized]
  cases hset
  exact ⟨settings, hsettings, hneeded.1, hneeded.2, by rw [hinitialized, ← hverifier]⟩

/-- The trust configuration that serves was built from the settings. -/
theorem trust_of_started {trust : BasisLocalTokenTrustConfig tables}
    (h : (freshStartup d.steps).app.basisLocalTokenTrustConfig = some trust) :
    ∃ settings, d.loadConfig = .ok settings ∧ settings.authMode = .basisLocalToken ∧
      buildBasisLocalTokenTrustConfig tables d.jsonLoads settings = .ok trust := by
  have hother {config : GatewayConfig} {m : Stage} {u} (hm : m ≠ .basisLocalToken)
      (hu : d.steps.outcomeOf config m = .ok u) (app : AppState (gatewayParts JWK tables PolicyEngine Bundle)) :
      (u app).basisLocalTokenTrustConfig = none ∨
        (u app).basisLocalTokenTrustConfig = app.basisLocalTokenTrustConfig := by
    rw [(StartupSteps.verifiers_of_outcomeOf hu app).2.2, if_neg hm]
    exact ite_eq_or_eq ..
  obtain ⟨config, u, app, hload, hneeded, hout, hset⟩ := set_by_stage (·.basisLocalTokenTrustConfig) rfl hother h
  obtain ⟨settings, hsettings, rfl, hsteps⟩ := settings_of_steps hload
  rw [hsteps] at hout
  obtain ⟨built, hbuilt, rfl⟩ := StartupSteps.ok_of_stageOf hout
  cases hset
  exact ⟨settings, hsettings, of_decide_eq_true hneeded, hbuilt⟩

/-- The evaluator that serves was built from the policy of the settings. -/
theorem evaluator_of_started {evaluator : GatewayEvaluator}
    (h : (freshStartup d.steps).app.evaluator = some evaluator) :
    ∃ settings engine, d.loadConfig = .ok settings ∧ truthy settings.policyPath = true ∧
      d.engine settings = .ok engine ∧ d.buildEvaluator engine settings.policyVersion = .ok evaluator := by
  have hother {config : GatewayConfig} {m : Stage} {u} (hm : m ≠ .evaluator) (hu : d.steps.outcomeOf config m = .ok u)
      (app : AppState (gatewayParts JWK tables PolicyEngine Bundle)) :
      (u app).evaluator = none ∨ (u app).evaluator = app.evaluator := by
    rw [(StartupSteps.attributes_of_outcomeOf hu app).2.1, if_neg hm]
    exact ite_eq_or_eq ..
  obtain ⟨config, u, app, hload, hneeded, hout, hset⟩ := set_by_stage (·.evaluator) rfl hother h
  obtain ⟨settings, hsettings, rfl, hsteps⟩ := settings_of_steps hload
  rw [hsteps] at hout
  obtain ⟨built, hbuilt, rfl⟩ := StartupSteps.ok_of_stageOf hout
  cases hset
  obtain ⟨engine, hengine, hbuild⟩ := Except.bind_eq_ok.1 hbuilt
  exact ⟨settings, engine, hsettings, hneeded, hengine, hbuild⟩

/-- The operation-aware evaluator that serves was constructed from the bundle of the settings, and passed its
preflight. -/
theorem operationAwareEvaluator_of_started {evaluator : OperationAwareGatewayEvaluator}
    (h : (freshStartup d.steps).app.operationAwareEvaluator = some evaluator) :
    ∃ settings point completed, d.loadConfig = .ok settings ∧ settings.operationAwareEnabled = true ∧
      d.point settings = .ok point ∧ point.evaluator = evaluator ∧
      preflightOperationAwareEvaluator tables.printable d.preflightTime point = .ok completed := by
  have hother {config : GatewayConfig} {m : Stage} {u} (hm : m ≠ .preflight) (hu : d.steps.outcomeOf config m = .ok u)
      (app : AppState (gatewayParts JWK tables PolicyEngine Bundle)) :
      (u app).operationAwareEvaluator = none ∨ (u app).operationAwareEvaluator = app.operationAwareEvaluator := by
    rw [(StartupSteps.attributes_of_outcomeOf hu app).2.2, if_neg hm]
    exact ite_eq_or_eq ..
  obtain ⟨config, u, app, hload, hneeded, hout, hset⟩ := set_by_stage (·.operationAwareEvaluator) rfl hother h
  obtain ⟨settings, hsettings, rfl, hsteps⟩ := settings_of_steps hload
  rw [hsteps] at hout
  cases hpoint : d.point settings with
  | error exc =>
    simp only [StartupSteps.outcomeOf, stepsOf, hpoint] at hout
    cases hout
  | ok point =>
    simp only [StartupSteps.outcomeOf, stepsOf, hpoint] at hout
    obtain ⟨_, hran, rfl⟩ := StartupSteps.ok_of_stageOf hout
    obtain ⟨completed, hcompleted, -⟩ : ∃ completed, d.preflight settings = .ok completed ∧ () = () :=
      Except.map_eq_ok.1 hran
    rw [preflight, hpoint] at hcompleted
    cases hset
    exact ⟨settings, point, completed, hsettings, hneeded, hpoint, rfl, Except.mapError_eq_ok.1 hcompleted⟩

variable (d)

/-! ## Well-formed deployments -/

/-- The file is there, and holds this JSON value. -/
def FileHolds (jsonLoads : String → Except PyExc Json) (file : PolicyFile) (data : Json) : Prop :=
  file.present = true ∧ file.isFile = true ∧ ∃ text, file.readText = .ok text ∧ jsonLoads text = .ok data

/-- The keys of the issuer can be fetched. -/
def KeysAvailable : Prop :=
  ∃ uri lifespan client,
    Discovers d.network tables.printable (settings.oidcIssuer.getD "") settings.oidcJwksUri uri ∧
      settings.jwksCacheTtlSeconds.toInt = .ok lifespan ∧ d.network.pyJWKClient uri lifespan = .ok client ∧
      d.network.fetchData uri = .ok ()

/-- The trust configuration is given, and valid. -/
def TrustGiven : Prop :=
  ∃ audienceText keysText keys fields,
    TrustSettings d.jsonLoads settings audienceText keysText keys fields ∧ fields.Valid tables

/-- The policy file holds a policy, and the kernel takes it. -/
def PolicyGiven : Prop :=
  ∃ data engine evaluate, FileHolds d.jsonLoads (d.policyFile settings) data ∧ PolicyGrammar data ∧
    policyEngineOf tables.printable (d.policyFile settings).path data = .ok engine ∧
    d.enforcementPoint engine settings.policyVersion = .ok evaluate

/-- The bundle file holds a bundle, the kernel takes it, and the synthetic evaluation completes. -/
def BundleGiven : Prop :=
  ∃ fields bundle point result, FileHolds d.jsonLoads (d.bundleFile settings) (.obj fields) ∧
    d.modelValidate fields = .ok bundle ∧ d.forBundle bundle = .ok point ∧
    point.evaluatePreflight (preflightCall (.utc d.preflightTime)) = .ok result ∧
    result.response.evaluationStatus = .completed

/-- Everything the settings ask for is there. -/
structure WellFormed : Prop where
  issuer : settings.authMode = .oidc → settings.oidcIssuer.isSome = true → truthy settings.policyPath = true
  oidc : settings.authMode = .oidc → truthy settings.oidcIssuer = true → d.KeysAvailable settings
  basisLocalToken : settings.authMode = .basisLocalToken →
    truthy settings.policyPath = true ∧ d.TrustGiven settings
  policy : truthy settings.policyPath = true → d.PolicyGiven settings
  operationAware : settings.operationAwareEnabled = true →
    truthy settings.operationAwarePolicyBundlePath = true ∧ d.BundleGiven settings

/-! ## Each step and its part of the deployment -/

theorem validateEvaluationConfig_basisLocalToken {config : GatewayConfig}
    (hmode : config.authMode = .basisLocalToken) :
    config.validateEvaluationConfig = .ok () ↔
      (truthy config.basisLocalTokenIssuer = true ∧ truthy config.basisLocalTokenAudience = true ∧
        truthy config.basisLocalTokenPublicKeysJson = true) ∧ truthy config.policyPath = true := by
  have hmissing : config.missingBasisLocalSettings = [] ↔ truthy config.basisLocalTokenIssuer = true ∧
      truthy config.basisLocalTokenAudience = true ∧ truthy config.basisLocalTokenPublicKeysJson = true := by
    simp [GatewayConfig.missingBasisLocalSettings, List.filterMap_eq_nil_iff]
  simp only [GatewayConfig.validateEvaluationConfig, hmode, Except.guard_eq_ok, not_not, hmissing,
    Bool.not_eq_false, and_true]

theorem validateEvaluationConfig_oidc {config : GatewayConfig} (hmode : config.authMode = .oidc) :
    config.validateEvaluationConfig = .ok () ↔
      (config.oidcIssuer.isSome = true → truthy config.policyPath = true) := by
  simp only [GatewayConfig.validateEvaluationConfig, hmode, Except.guard_eq_ok, and_true, not_and,
    Bool.not_eq_false]

theorem validateOperationAwareConfig_eq_ok {config : GatewayConfig} (hen : config.operationAwareEnabled = true) :
    config.validateOperationAwareConfig = .ok () ↔ truthy config.operationAwarePolicyBundlePath = true := by
  simp only [GatewayConfig.validateOperationAwareConfig, hen, Bool.true_eq_false, if_false, Except.guard_eq_ok,
    Bool.not_eq_false, and_true]

theorem loadPolicyEngine_eq_ok {printable : Char → Bool} {jsonLoads : String → Except PyExc Json}
    {file : PolicyFile} {engine : PolicyEngine} :
    loadPolicyEngine printable jsonLoads file = .ok engine ↔
      ∃ data, FileHolds jsonLoads file data ∧ policyEngineOf printable file.path data = .ok engine := by
  simp only [loadPolicyEngine, Except.guard_eq_ok, Bool.not_eq_false, Except.bind_eq_ok, Except.mapError_eq_ok]
  constructor
  · rintro ⟨hpresent, hfile, text, htext, data, hdata, hengine⟩
    exact ⟨data, ⟨hpresent, hfile, text, htext, hdata⟩, hengine⟩
  · rintro ⟨data, ⟨hpresent, hfile, text, htext, hdata⟩, hengine⟩
    exact ⟨hpresent, hfile, text, htext, data, hdata, hengine⟩

theorem loadOperationAwarePolicyBundle_eq_ok {printable : Char → Bool} {jsonLoads : String → Except PyExc Json}
    {modelValidate : List (String × Json) → Except PyExc Bundle} {file : PolicyFile} {bundle : Bundle} :
    loadOperationAwarePolicyBundle printable jsonLoads modelValidate file = .ok bundle ↔
      ∃ fields, FileHolds jsonLoads file (.obj fields) ∧ modelValidate fields = .ok bundle := by
  have hbundle (data : Json) : bundleOf printable modelValidate file.path data = .ok bundle ↔
      ∃ fields, data = .obj fields ∧ modelValidate fields = .ok bundle := by
    cases data with
    | obj fields => simp [bundleOf, Except.mapError_eq_ok]
    | _ => simp [bundleOf]
  simp only [loadOperationAwarePolicyBundle, Except.guard_eq_ok, Bool.not_eq_false, Except.bind_eq_ok,
    Except.mapError_eq_ok, hbundle]
  constructor
  · rintro ⟨hpresent, hfile, text, htext, data, hdata, fields, rfl, hvalidate⟩
    exact ⟨fields, ⟨hpresent, hfile, text, htext, hdata⟩, hvalidate⟩
  · rintro ⟨fields, ⟨hpresent, hfile, text, htext, hdata⟩, hvalidate⟩
    exact ⟨hpresent, hfile, text, htext, _, hdata, fields, rfl, hvalidate⟩

section

variable {d settings}

/-- The verifier after `initialize()`, by what was found. -/
theorem initializedVerifier_eq_ok {verifier : OIDCVerifier JWK} :
    d.initializedVerifier settings = .ok verifier ↔ ∃ uri lifespan client,
      Discovers d.network tables.printable (settings.oidcIssuer.getD "") settings.oidcJwksUri uri ∧
      settings.jwksCacheTtlSeconds.toInt = .ok lifespan ∧ d.network.pyJWKClient uri lifespan = .ok client ∧
      d.network.fetchData uri = .ok () ∧
      verifier = ⟨settings.oidcIssuer.getD "", settings.oidcAudience, some client⟩ := by
  simp only [initializedVerifier, OIDCVerifierConfig.initialized, fetchKeys, Except.bind_eq_ok, Except.mapError_eq_ok,
    discoverJwksUri_eq_ok, verifierFromConfig, Except.pure_eq_ok]
  constructor
  · rintro ⟨uri, hdiscovers, _, ⟨lifespan, hlifespan, client, hclient, ⟨⟩, hfetch, rfl⟩, rfl⟩
    exact ⟨uri, lifespan, client, hdiscovers, hlifespan, hclient, hfetch, rfl⟩
  · rintro ⟨uri, lifespan, client, hdiscovers, hlifespan, hclient, hfetch, rfl⟩
    exact ⟨uri, hdiscovers, client, ⟨lifespan, hlifespan, client, hclient, (), hfetch, rfl⟩, rfl⟩

theorem keysAvailable_iff :
    (∃ verifier, d.initializedVerifier settings = .ok verifier) ↔ d.KeysAvailable settings := by
  constructor
  · rintro ⟨verifier, h⟩
    obtain ⟨uri, lifespan, client, hdiscovers, hlifespan, hclient, hfetch, -⟩ := initializedVerifier_eq_ok.1 h
    exact ⟨uri, lifespan, client, hdiscovers, hlifespan, hclient, hfetch⟩
  · rintro ⟨uri, lifespan, client, hdiscovers, hlifespan, hclient, hfetch⟩
    exact ⟨_, initializedVerifier_eq_ok.2 ⟨uri, lifespan, client, hdiscovers, hlifespan, hclient, hfetch, rfl⟩⟩

theorem trustGiven_iff :
    (∃ trust, buildBasisLocalTokenTrustConfig tables d.jsonLoads settings = .ok trust) ↔ d.TrustGiven settings := by
  simp only [buildBasisLocalTokenTrustConfig_eq_ok, TrustGiven]
  constructor
  · rintro ⟨trust, audienceText, keysText, keys, h⟩
    exact ⟨audienceText, keysText, keys, _, h, trust.valid⟩
  · rintro ⟨audienceText, keysText, keys, fields, h, hvalid⟩
    exact ⟨{ fields with valid := hvalid }, audienceText, keysText, keys, h⟩

theorem policyGiven_iff : ((∃ engine, d.engine settings = .ok engine) ∧
      ∃ evaluator, (do d.buildEvaluator (← d.engine settings) settings.policyVersion) = .ok evaluator) ↔
    d.PolicyGiven settings := by
  simp only [engine, buildEvaluator, Except.bind_eq_ok, loadPolicyEngine_eq_ok, Except.pure_eq_ok, PolicyGiven]
  constructor
  · rintro ⟨-, _, engine, ⟨data, hholds, hengine⟩, evaluate, hevaluate, rfl⟩
    exact ⟨data, engine, evaluate, hholds, exists_policyEngineOf_iff.1 ⟨engine, hengine⟩, hengine, hevaluate⟩
  · rintro ⟨data, engine, evaluate, hholds, -, hengine, hevaluate⟩
    exact ⟨⟨engine, data, hholds, hengine⟩, _, engine, ⟨data, hholds, hengine⟩, evaluate, hevaluate, rfl⟩

theorem bundleGiven_iff : ((∃ bundle, d.bundle settings = .ok bundle) ∧ (∃ point, d.point settings = .ok point) ∧
      ∃ result, d.preflight settings = .ok result) ↔ d.BundleGiven settings := by
  simp only [preflight, point, bundle, constructOperationAwareEvaluator, Except.bind_eq_ok, Except.mapError_eq_ok,
    loadOperationAwarePolicyBundle_eq_ok, preflight_eq_ok, BundleGiven]
  constructor
  · rintro ⟨-, -, result, point, ⟨bundle, ⟨fields, hholds, hvalidate⟩, hpoint⟩, hresult, hcompleted⟩
    exact ⟨fields, bundle, point, result, hholds, hvalidate, hpoint, hresult, hcompleted⟩
  · rintro ⟨fields, bundle, point, result, hholds, hvalidate, hpoint, hresult, hcompleted⟩
    exact ⟨⟨bundle, fields, hholds, hvalidate⟩, ⟨point, bundle, ⟨fields, hholds, hvalidate⟩, hpoint⟩, result, point,
      ⟨bundle, ⟨fields, hholds, hvalidate⟩, hpoint⟩, hresult, hcompleted⟩

/-- The steps all succeed in a well-formed deployment, and in no other. -/
theorem succeed_iff : (d.stepsOf settings).Succeed settings.toGatewayConfig ↔ d.WellFormed settings := by
  have hmap {α β : Type} (r : Except PyExc α) (f : α → β) : (r.map f).isOk = true ↔ ∃ a, r = .ok a := by
    rw [isOk_iff_exists]
    simp only [Except.map_eq_ok]
    constructor
    · rintro ⟨_, a, ha, -⟩
      exact ⟨a, ha⟩
    · rintro ⟨a, ha⟩
      exact ⟨f a, a, ha, rfl⟩
  constructor
  · intro h
    have hconfig : settings.validateEvaluationConfig = .ok () := h.evaluationConfig
    refine { issuer := ?_, oidc := ?_, basisLocalToken := ?_, policy := ?_, operationAware := ?_ }
    · intro hmode
      exact (validateEvaluationConfig_oidc hmode).1 hconfig
    · intro hmode hissuer
      exact keysAvailable_iff.1 ((hmap _ _).1 (h.oidc hmode hissuer).2)
    · intro hmode
      exact ⟨((validateEvaluationConfig_basisLocalToken hmode).1 hconfig).2,
        trustGiven_iff.1 (isOk_iff_exists.1 (h.basisLocalToken hmode))⟩
    · intro hpath
      obtain ⟨hengine, hevaluator⟩ := h.policy hpath
      exact policyGiven_iff.1 ⟨isOk_iff_exists.1 hengine, isOk_iff_exists.1 hevaluator⟩
    · intro hen
      obtain ⟨hpath, hbundle, hpoint, hpreflight⟩ := h.operationAware hen
      exact ⟨(validateOperationAwareConfig_eq_ok hen).1 hpath, bundleGiven_iff.1
        ⟨isOk_iff_exists.1 hbundle, (hmap _ _).1 hpoint, (hmap _ _).1 hpreflight⟩⟩
  · intro h
    refine { loaded := rfl, evaluationConfig := ?_, oidc := ?_, basisLocalToken := ?_, policy := ?_
             operationAware := ?_ }
    · show settings.validateEvaluationConfig = .ok ()
      cases hmode : settings.authMode with
      | oidc => exact (validateEvaluationConfig_oidc hmode).2 (h.issuer hmode)
      | basisLocalToken =>
        obtain ⟨hpath, audienceText, keysText, keys, fields, htrust, -⟩ := h.basisLocalToken hmode
        rw [validateEvaluationConfig_basisLocalToken hmode, htrust.issuer, htrust.audience, htrust.publicKeys]
        simp [htrust.issuer_ne, htrust.audience_ne, htrust.publicKeys_ne, hpath]
    · intro hmode hissuer
      exact ⟨rfl, (hmap _ _).2 (keysAvailable_iff.2 (h.oidc hmode hissuer))⟩
    · intro hmode
      exact isOk_iff_exists.2 (trustGiven_iff.2 (h.basisLocalToken hmode).2)
    · intro hpath
      obtain ⟨hengine, hevaluator⟩ := policyGiven_iff.2 (h.policy hpath)
      exact ⟨isOk_iff_exists.2 hengine, isOk_iff_exists.2 hevaluator⟩
    · intro hen
      obtain ⟨hpath, hgiven⟩ := h.operationAware hen
      obtain ⟨hbundle, hpoint, hpreflight⟩ := bundleGiven_iff.2 hgiven
      exact ⟨(validateOperationAwareConfig_eq_ok hen).2 hpath, isOk_iff_exists.2 hbundle, (hmap _ _).2 hpoint,
        (hmap _ _).2 hpreflight⟩

end

/-- **Ready means well formed**: after its first startup a process answers 200 on `/ready` exactly when its
settings load and everything they ask for is there. -/
theorem ready_iff_wellFormed (correlationId : String) :
    (ready (freshStartup d.steps).readiness correlationId).statusCode = 200 ↔
      ∃ settings, d.loadConfig = .ok settings ∧ d.WellFormed settings := by
  have hstatus : (ready (freshStartup d.steps).readiness correlationId).statusCode = 200 ↔
      d.steps.AllSucceed := by
    rw [ready_statusCode, ← isReady_freshStartup]
    split <;> simp_all
  rw [hstatus]
  constructor
  · rintro ⟨config, hs⟩
    have hloaded := hs.loaded
    rw [steps_loadConfig, Except.map_eq_ok] at hloaded
    obtain ⟨settings, hsettings, rfl⟩ := hloaded
    rw [steps_of_ok hsettings] at hs
    exact ⟨settings, hsettings, succeed_iff.1 hs⟩
  · rintro ⟨settings, hsettings, h⟩
    rw [steps_of_ok hsettings]
    exact ⟨settings.toGatewayConfig, succeed_iff.2 h⟩

end Deployment

end BasisGateway
