/-
The lifespan (`main.py`): startup on the module-level readiness tracker and
on `app.state`, and shutdown.

What startup calls outside this file (reading the environment, the network,
the policy files, the kernel's constructors) is an outcome of that startup:
it returns, or raises. The two configuration checks are the real ones, with
room for an exception of another class. Log lines are left out.

`app.state` is read with `getattr(…, None)`, so an attribute that was never
set and one that is `None` are the same here.
-/
import BasisGateway.Config
import BasisGateway.Audit.WriterFacts

namespace BasisGateway

/-- The types of the objects startup builds. -/
structure Parts where
  Verifier : Type
  TrustConfig : Type
  Engine : Type
  Evaluator : Type
  Bundle : Type
  OperationAwareEvaluator : Type

/-- `app.state`. -/
structure AppState (P : Parts) where
  config : Option GatewayConfig := none
  verifier : Option P.Verifier := none
  basisLocalTokenTrustConfig : Option P.TrustConfig := none
  evaluator : Option P.Evaluator := none
  auditWriter : Option GatewayAuditWriter := none
  operationAwareEvaluator : Option P.OperationAwareEvaluator := none
  operationAwareRouterRegistered : Bool := false

/-- The readiness tracker of the process and the state of its app. -/
structure Gateway (P : Parts) where
  readiness : ReadinessState
  app : AppState P

/-- A process before its first startup. -/
def Gateway.fresh (P : Parts) : Gateway P := ⟨.fresh, {}⟩

/-- What the fallible calls of one startup do. -/
structure StartupSteps (P : Parts) where
  /-- `load_config()` and `configure_logging`. -/
  loadConfig : Except PyExc GatewayConfig
  /-- Raised by `validate_evaluation_config` besides its own check. -/
  evaluationConfigFault : Option PyExc := none
  /-- `OIDCVerifier.from_config`. -/
  verifierFromConfig : Except PyExc P.Verifier
  /-- `verifier.initialize()`. -/
  verifierInitialize : Except PyExc Unit
  buildBasisLocalTokenTrustConfig : Except PyExc P.TrustConfig
  loadPolicyEngine : Except PyExc P.Engine
  buildEvaluator : Except PyExc P.Evaluator
  /-- Raised by `validate_operation_aware_config` besides its own check. -/
  operationAwareConfigFault : Option PyExc := none
  loadOperationAwarePolicyBundle : Except PyExc P.Bundle
  constructOperationAwareEvaluator : Except PyExc P.OperationAwareEvaluator
  preflightOperationAwareEvaluator : Except PyExc Unit

/-- A check, unless another exception is raised first. -/
def checkedWith (fault : Option PyExc) (check : Except PyExc Unit) : Except PyExc Unit :=
  match fault with
  | some exc => .error exc
  | none => check

/-- A program of the lifespan. -/
abbrev Lifespan (P : Parts) := Prog (Gateway P) PyExc

section Programs

variable {P : Parts}

def liftOutcome {α : Type} : Except PyExc α → Lifespan P α
  | .ok a => pure a
  | .error exc => throw exc

def markReady (component : String) : Lifespan P Unit :=
  modify fun g => { g with readiness := g.readiness.markReady component }

def markNotReady (reason component : String) : Lifespan P Unit :=
  modify fun g => { g with readiness := g.readiness.markNotReady reason component }

def setApp (f : AppState P → AppState P) : Lifespan P Unit := modify fun g => { g with app := f g.app }

/-- `try: r except … as exc: state.mark_not_ready(reason=str(exc), component=…); raise`, where
`blames` is the component of the clause that matches `exc`, if one does. -/
def attributing {α : Type} (r : Except PyExc α) (blames : PyExc → Option String) : Lifespan P α :=
  tryCatch (liftOutcome r) fun exc => do
    match blames exc with
    | some component => markNotReady exc.msg component
    | none => pure ()
    throw exc

/-- One `except` clause over these classes. -/
def clause (classes : List ExcClass) (component : String) (exc : PyExc) : Option String :=
  if classes.any exc.isInstance then some component else none

/-- Step 1. -/
def loadConfiguration (steps : StartupSteps P) : Lifespan P GatewayConfig := do
  let config ← liftOutcome steps.loadConfig
  setApp fun app => { app with
    config := some config
    verifier := none
    basisLocalTokenTrustConfig := none
    evaluator := none
    auditWriter := none
    operationAwareEvaluator := none }
  markReady "configuration_loaded"
  return config

/-- Step 1a. -/
def registerOperationAwareRouter (config : GatewayConfig) : Lifespan P Unit := do
  let g ← get
  if config.operationAwareEnabled ∧ g.app.operationAwareRouterRegistered = false then
    setApp fun app => { app with operationAwareRouterRegistered := true }

/-- The condition of step 1b. -/
def GatewayConfig.needsAuditWriter (config : GatewayConfig) : Bool :=
  truthy config.policyPath || config.operationAwareEnabled

/-- Step 1b. -/
def constructAuditWriter (config : GatewayConfig) : Lifespan P (Option GatewayAuditWriter) := do
  if config.needsAuditWriter then
    let auditWriter := GatewayAuditWriter.init config.auditFailureThreshold
    setApp fun app => { app with auditWriter := some auditWriter }
    markReady auditWriterComponent
    return some auditWriter
  else return none

/-- Step 1c. -/
def registerOperationAwareReadiness (config : GatewayConfig) : Lifespan P Unit := do
  if config.operationAwareEnabled then
    markNotReady "Operation-aware policy bundle not yet loaded (operation-aware startup pending)"
      "operation_aware_bundle_loaded"
    markNotReady "Operation-aware evaluator not yet constructed (operation-aware startup pending)"
      "operation_aware_evaluator_initialized"
    markNotReady ("Operation-aware startup semantic preflight not yet run " ++
      "(operation-aware startup pending)") "operation_aware_policy_semantically_valid"
    markReady "operation_aware_mode_enabled"

/-- Step 2. -/
def validateEvaluation (steps : StartupSteps P) (config : GatewayConfig) : Lifespan P Unit :=
  attributing (checkedWith steps.evaluationConfigFault config.validateEvaluationConfig)
    (clause [.evaluationConfigError] "configuration_loaded")

/-- The two `except` clauses around `verifier.initialize()`, in order. -/
def oidcClauses (exc : PyExc) : Option String :=
  clause [.oidcDiscoveryError] "oidc_configured" exc <|> clause [.jwksFetchError] "jwks_available" exc

/-- Step 3. -/
def initializeAuthentication (steps : StartupSteps P) (config : GatewayConfig) : Lifespan P Unit := do
  match config.authMode with
  | .oidc =>
    if truthy config.oidcIssuer then
      let verifier ← liftOutcome steps.verifierFromConfig
      attributing steps.verifierInitialize oidcClauses
      setApp fun app => { app with verifier := some verifier }
      markReady "oidc_configured"
      markReady "jwks_available"
  | .basisLocalToken =>
    let trustConfig ← attributing steps.buildBasisLocalTokenTrustConfig
      (clause [.evaluationConfigError, .basisLocalTokenConfigError] "basis_local_token_configured")
    setApp fun app => { app with basisLocalTokenTrustConfig := some trustConfig }
    markReady "basis_local_token_configured"

/-- Step 4. -/
def loadPolicy (steps : StartupSteps P) (config : GatewayConfig) : Lifespan P (Option P.Engine) := do
  if truthy config.policyPath then
    let engine ← attributing steps.loadPolicyEngine (clause [.policyLoadError] "policy_loaded")
    markReady "policy_loaded"
    return some engine
  else return none

/-- `assert`. -/
def assertThat (c : Bool) : Lifespan P Unit :=
  if c then pure () else throw { cls := .assertionError, msg := "" }

/-- Step 5. -/
def initializeEvaluator (steps : StartupSteps P) (config : GatewayConfig) (engine : Option P.Engine)
    (auditWriter : Option GatewayAuditWriter) : Lifespan P Unit := do
  if truthy config.policyPath then
    assertThat engine.isSome
    assertThat auditWriter.isSome
    let evaluator ← liftOutcome steps.buildEvaluator
    setApp fun app => { app with evaluator := some evaluator }
    markReady "evaluator_initialized"

/-- Step 6a. -/
def loadOperationAwareBundle (steps : StartupSteps P) (config : GatewayConfig) : Lifespan P P.Bundle := do
  attributing (checkedWith steps.operationAwareConfigFault config.validateOperationAwareConfig)
    (clause [.operationAwareConfigError] "operation_aware_bundle_loaded")
  assertThat config.operationAwarePolicyBundlePath.isSome
  let bundle ← attributing steps.loadOperationAwarePolicyBundle
    (clause [.operationAwarePolicyLoadError] "operation_aware_bundle_loaded")
  markReady "operation_aware_bundle_loaded"
  return bundle

/-- Step 6b. Its clause is `except Exception`, so every class is attributed to it. -/
def constructOperationAware (steps : StartupSteps P) : Lifespan P P.OperationAwareEvaluator := do
  let evaluator ← attributing steps.constructOperationAwareEvaluator
    fun _ => some "operation_aware_evaluator_initialized"
  markReady "operation_aware_evaluator_initialized"
  return evaluator

/-- Step 6c. -/
def preflightOperationAware (steps : StartupSteps P) (evaluator : P.OperationAwareEvaluator) :
    Lifespan P Unit := do
  attributing steps.preflightOperationAwareEvaluator
    (clause [.operationAwarePreflightError] "operation_aware_policy_semantically_valid")
  markReady "operation_aware_policy_semantically_valid"
  setApp fun app => { app with operationAwareEvaluator := some evaluator }

/-- Step 6. -/
def initializeOperationAware (steps : StartupSteps P) (config : GatewayConfig) : Lifespan P Unit := do
  if config.operationAwareEnabled then
    let _bundle ← loadOperationAwareBundle steps config
    let evaluator ← constructOperationAware steps
    preflightOperationAware steps evaluator

/-- The body of the startup `try`. -/
def startupBody (steps : StartupSteps P) : Lifespan P Unit := do
  let config ← loadConfiguration steps
  registerOperationAwareRouter config
  let auditWriter ← constructAuditWriter config
  registerOperationAwareReadiness config
  validateEvaluation steps config
  initializeAuthentication steps config
  let engine ← loadPolicy steps config
  initializeEvaluator steps config engine auditWriter
  initializeOperationAware steps config

/-- The catch-all clause: "app" only when no component is down already. -/
def onStartupFailure (exc : PyExc) : Lifespan P Unit := do
  let g ← get
  if g.readiness.components.all id then markNotReady exc.msg "app"

/-- The lifespan up to its `yield`. -/
def startup (steps : StartupSteps P) : Lifespan P Unit := tryCatch (startupBody steps) onStartupFailure

/-- The lifespan after its `yield`. -/
def shutdown : Lifespan P Unit := markNotReady "application shutting down" "app"

/-- The gateway with the writer and the tracker as `s` has them. -/
def Gateway.withAudit (g : Gateway P) (s : AuditState) : Gateway P where
  readiness := s.readiness
  app := { g.app with auditWriter := some s.writer }

/-- One audit write while the gateway serves: on the writer of `app.state`, when there is one. -/
def auditWrite (outcome : WriteOutcome) : Lifespan P Unit := do
  let g ← get
  match g.app.auditWriter with
  | none => pure ()
  | some writer =>
    set (g.withAudit ((GatewayAuditWriter.write outcome).exec ⟨writer, g.readiness, []⟩).2)

def auditWrites (outcomes : List WriteOutcome) : Lifespan P Unit := forM outcomes auditWrite

end Programs

end BasisGateway
