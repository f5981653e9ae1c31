/-
The configuration (`config.py`): the fields the modelled code reads, and the
two presence checks made at startup.
-/
import Mathlib.Data.Finset.Empty
import BasisGateway.Errors
import BasisGateway.Values

namespace BasisGateway

inductive AuthMode
  | oidc
  | basisLocalToken
  deriving DecidableEq, Repr

/-- `GatewayConfig`. -/
structure GatewayConfig where
  authMode : AuthMode := .oidc
  oidcIssuer : Option String := none
  basisLocalTokenIssuer : Option String := none
  basisLocalTokenAudience : Option String := none
  basisLocalTokenPublicKeysJson : Option String := none
  policyVersion : Option String := none
  policyPath : Option String := none
  auditFailureThreshold : Int := 10
  /-- `Field(ge=1)`. -/
  auditFailureThreshold_pos : 1 ≤ auditFailureThreshold := by decide
  auditFailClosed : Bool := false
  operationProducerSubjectIds : Finset String := ∅
  operationAwareEnabled : Bool := false
  operationAwarePolicyBundlePath : Option String := none
  operationProducerMtlsTrustedProxyEnabled : Bool := false
  operationProducerMtlsAdmittedUris : Finset String := ∅

namespace GatewayConfig

/-- The names of the BASIS-local settings that are absent or empty. -/
def missingBasisLocalSettings (config : GatewayConfig) : List String :=
  [("BASIS_LOCAL_TOKEN_ISSUER", config.basisLocalTokenIssuer),
    ("BASIS_LOCAL_TOKEN_AUDIENCE", config.basisLocalTokenAudience),
    ("BASIS_LOCAL_TOKEN_PUBLIC_KEYS_JSON", config.basisLocalTokenPublicKeysJson)].filterMap
    fun setting => if truthy setting.2 then none else some setting.1

def evaluationConfigError (msg : String) : PyExc := { cls := .evaluationConfigError, msg }

/-- `validate_evaluation_config`. -/
def validateEvaluationConfig (config : GatewayConfig) : Except PyExc Unit :=
  match config.authMode with
  | .basisLocalToken =>
    let missing := config.missingBasisLocalSettings
    if missing ≠ [] then
      .error (evaluationConfigError (", ".intercalate missing ++
        " required when AUTH_MODE=basis_local_token."))
    else if truthy config.policyPath = false then
      .error (evaluationConfigError ("POLICY_PATH is required when AUTH_MODE=basis_local_token. " ++
        "Set POLICY_PATH to the path of your JSON policy file."))
    else .ok ()
  | .oidc =>
    -- presence of the issuer, not its truth: an empty issuer still requires a policy
    if config.oidcIssuer.isSome ∧ truthy config.policyPath = false then
      .error (evaluationConfigError ("POLICY_PATH is required when OIDC_ISSUER is configured. " ++
        "Set POLICY_PATH to the path of your JSON policy file."))
    else .ok ()

/-- `validate_operation_aware_config`. -/
def validateOperationAwareConfig (config : GatewayConfig) : Except PyExc Unit :=
  if config.operationAwareEnabled = false then .ok ()
  else if truthy config.operationAwarePolicyBundlePath = false then
    .error { cls := .operationAwareConfigError, msg :=
      "OPERATION_AWARE_POLICY_BUNDLE_PATH is required when " ++
      "OPERATION_AWARE_ENABLED=true. Set OPERATION_AWARE_POLICY_BUNDLE_PATH to the " ++
      "path of your operation-aware JSON policy bundle file." }
  else .ok ()

/-- What the operation-aware check leaves to be relied on: a bundle path. -/
theorem bundlePath_of_validateOperationAwareConfig {config : GatewayConfig}
    (hen : config.operationAwareEnabled = true) (h : config.validateOperationAwareConfig = .ok ()) :
    config.operationAwarePolicyBundlePath.isSome = true := by
  simp only [validateOperationAwareConfig, hen, Bool.true_eq_false, if_false] at h
  split at h
  next => cases h
  next hp => exact isSome_of_truthy (by simpa using hp)

end GatewayConfig

end BasisGateway
