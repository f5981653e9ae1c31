/-
How an operation-aware evaluator comes to be (the factory functions of
`core/operation_aware_evaluator.py`): the enforcement point of a bundle, and
the semantic preflight, one synthetic evaluation that has to complete.

The preflight's request leaves out everything optional, the correlation id
too, so it is a call of its own.
-/
import BasisGateway.Api.EvaluateResponses
import BasisGateway.Policy.OperationAwareLoader

namespace BasisGateway

/-! ## The enforcement point -/

/-- `OperationAwareEnforcementPoint.evaluate` on `OperationAwareDecisionRequest(request_id=…, subject_id=…,
action=…, evaluation_time=…)`. -/
structure PreflightCall where
  requestId : String
  subjectId : String
  action : String
  evaluationTime : DateTime
  traceId : String
  evidenceId : String
  recordedAt : DateTime
  deriving DecidableEq, Repr

/-- `OperationAwareEnforcementPoint`, by the two kinds of calls that are made of it. -/
structure OperationAwareEnforcementPoint where
  evaluate : OperationAwareKernelCall → Except PyExc OperationAwareEnforcementResult
  evaluatePreflight : PreflightCall → Except PyExc OperationAwareEnforcementResult

/-- The evaluator that wraps it. -/
def OperationAwareEnforcementPoint.evaluator (point : OperationAwareEnforcementPoint) :
    OperationAwareGatewayEvaluator := ⟨point.evaluate⟩

/-! ## The preflight -/

/-- What the preflight raises: `OperationAwarePreflightError`, or what the kernel raised. -/
inductive PreflightFault
  | preflightError (msg : String) (evaluationStatus : OperationAwareEvaluationStatus)
    (failureReason : Option OperationAwareFailureReason)
  | uncaught (exc : PyExc)

/-- The exception as the lifespan sees it. -/
def PreflightFault.exc : PreflightFault → PyExc
  | .preflightError msg _ _ => { cls := .operationAwarePreflightError, msg }
  | .uncaught exc => exc

/-- `_build_preflight_request`, with the metadata it is evaluated under. -/
def preflightCall (recordedAt : DateTime) : PreflightCall where
  requestId := "basis-gateway:operation-aware-preflight"
  subjectId := "basis-gateway:preflight-subject"
  action := "read:basis_gateway_preflight"
  evaluationTime := recordedAt
  traceId := "preflight-trace-basis-gateway-operation-aware"
  evidenceId := "preflight-evidence-basis-gateway-operation-aware"
  recordedAt

section

variable (printable : Char → Bool)

/-- The message of a preflight that did not complete. -/
def preflightMessage (response : OperationAwareDecisionResponse) : String :=
  "Operation-aware policy bundle failed startup semantic preflight (evaluation_status=" ++
    pyRepr printable response.evaluationStatus.value ++ ", failure_reason=" ++
    pyReprOpt printable (response.failureReason.map (·.value)) ++ ")."

/-- `preflight_operation_aware_evaluator`, at this reading of the clock. -/
def preflightOperationAwareEvaluator (now : Int) (point : OperationAwareEnforcementPoint) :
    Except PreflightFault OperationAwareEnforcementResult :=
  match point.evaluatePreflight (preflightCall (.utc now)) with
  | .error exc => .error (.uncaught exc)
  | .ok result =>
    if result.response.evaluationStatus ≠ .completed then
      .error (.preflightError (preflightMessage printable result.response) result.response.evaluationStatus
        result.response.failureReason)
    else .ok result

/-! ## The factories -/

variable {Bundle : Type} (forBundle : Bundle → Except PyExc OperationAwareEnforcementPoint)

/-- `construct_operation_aware_evaluator`, by the enforcement point it wraps. -/
def constructOperationAwareEvaluator (bundle : Bundle) : Except PyExc OperationAwareEnforcementPoint :=
  forBundle bundle

/-- `build_operation_aware_evaluator`. -/
def buildOperationAwareEvaluator (now : Int) (bundle : Bundle) : Except PyExc OperationAwareGatewayEvaluator := do
  let point ← constructOperationAwareEvaluator forBundle bundle
  let _ ← (preflightOperationAwareEvaluator printable now point).mapError PreflightFault.exc
  return point.evaluator

/-- `load_and_build_operation_aware_evaluator`. -/
def loadAndBuildOperationAwareEvaluator (jsonLoads : String → Except PyExc Json)
    (modelValidate : List (String × Json) → Except PyExc Bundle) (now : Int) (file : PolicyFile) :
    Except PyExc OperationAwareGatewayEvaluator := do
  let bundle ← (loadOperationAwarePolicyBundle printable jsonLoads modelValidate file).mapError BundleLoadFault.exc
  buildOperationAwareEvaluator printable forBundle now bundle

end

/-! ## What a completed preflight says of later evaluations -/

/-- The bundle failed its semantic validation. -/
def OperationAwareEnforcementResult.PolicyInvalid (result : OperationAwareEnforcementResult) : Prop :=
  result.response.evaluationStatus = .failed ∧
    (result.response.failureReason = some .invalidPolicyBundle ∨
      result.response.failureReason = some .policyValidationFailure)

/-- The results of this status. -/
theorem httpStatus_eq_503_iff {result : OperationAwareEnforcementResult} :
    result.httpStatus = 503 ↔ result.PolicyInvalid := by
  unfold OperationAwareEnforcementResult.httpStatus OperationAwareEnforcementResult.PolicyInvalid
  cases result.response.evaluationStatus with
  | completed =>
    rcases result.response.outcome with - | (_ | _ | _) <;>
      simp [classifyOperationAwareHttpStatus, unrecognizedStateHttpStatus]
  | failed =>
    rcases result.response.failureReason with - | (_ | _ | _ | _ | _ | _) <;>
      simp [classifyOperationAwareHttpStatus, unrecognizedStateHttpStatus, failureReasonHttpStatus]

/-- Validation of the bundle is the first step of every evaluation, whatever the request. It comes out the same
each time: the evaluations of an invalid bundle all fail, and those of a valid one do not fail for its sake. -/
structure ValidatesFirst (point : OperationAwareEnforcementPoint) (valid : Bool) : Prop where
  evaluate : ∀ call result, point.evaluate call = .ok result →
    if valid then ¬ result.PolicyInvalid else result.response.evaluationStatus = .failed
  preflight : ∀ call result, point.evaluatePreflight call = .ok result →
    if valid then ¬ result.PolicyInvalid else result.response.evaluationStatus = .failed

theorem preflight_eq_ok {printable : Char → Bool} {now : Int} {point : OperationAwareEnforcementPoint}
    {result : OperationAwareEnforcementResult} :
    preflightOperationAwareEvaluator printable now point = .ok result ↔
      point.evaluatePreflight (preflightCall (.utc now)) = .ok result ∧
        result.response.evaluationStatus = .completed := by
  unfold preflightOperationAwareEvaluator
  cases point.evaluatePreflight (preflightCall (.utc now)) with
  | error exc => simp
  | ok r =>
    simp only [Except.guard_eq_ok, not_not, Except.ok.injEq]
    constructor
    · rintro ⟨hcompleted, rfl⟩
      exact ⟨rfl, hcompleted⟩
    · rintro ⟨rfl, hcompleted⟩
      exact ⟨hcompleted, rfl⟩

/-- A completed preflight shows that the bundle is valid, for every later evaluation. -/
theorem not_policyInvalid_of_preflight {printable : Char → Bool} {now : Int} {point : OperationAwareEnforcementPoint}
    {valid : Bool} (hfirst : ValidatesFirst point valid) {completed : OperationAwareEnforcementResult}
    (hpreflight : preflightOperationAwareEvaluator printable now point = .ok completed)
    {call : OperationAwareKernelCall} {result : OperationAwareEnforcementResult}
    (hresult : point.evaluate call = .ok result) : ¬ result.PolicyInvalid := by
  obtain ⟨hrun, hcompleted⟩ := preflight_eq_ok.1 hpreflight
  have hpassed := hfirst.preflight _ _ hrun
  cases valid with
  | true => exact hfirst.evaluate _ _ hresult
  | false =>
    rw [if_neg (by decide), hcompleted] at hpassed
    cases hpassed

end BasisGateway
