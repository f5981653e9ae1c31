/-
The kernel library (`basis-core`) as the gateway uses it: the values that
cross the boundary, and what its constructors and its two enforcement points
do. The library is not part of this repository, so each of these is a
parameter: what it returns or raises for each argument.
-/
import BasisGateway.Errors
import BasisGateway.Values
import BasisGateway.Lib.OrderedDict

namespace BasisGateway

/-- A `datetime`: naive when it has no offset. -/
structure DateTime where
  microseconds : Int
  utcOffset : Option Int
  deriving DecidableEq, Repr

/-- `datetime.now(timezone.utc)` at this reading of the clock. -/
def DateTime.utc (microseconds : Int) : DateTime := ⟨microseconds, some 0⟩

/-! ## The operation fields only a producer may assert -/

/-- A member of `OPERATION_PRODUCER_ONLY_FIELDS`. -/
inductive ProducerOnlyField
  | operationIntent | location | device | protocolContext | safetyContext | environmentContext
  | riskContext | identityEvidenceReference | adapterEvidenceReference
  deriving DecidableEq, Repr

namespace ProducerOnlyField

/-- The tuple, in its order. -/
def all : List ProducerOnlyField :=
  [.operationIntent, .location, .device, .protocolContext, .safetyContext, .environmentContext,
    .riskContext, .identityEvidenceReference, .adapterEvidenceReference]

def name : ProducerOnlyField → String
  | .operationIntent => "operation_intent"
  | .location => "location"
  | .device => "device"
  | .protocolContext => "protocol_context"
  | .safetyContext => "safety_context"
  | .environmentContext => "environment_context"
  | .riskContext => "risk_context"
  | .identityEvidenceReference => "identity_evidence_reference"
  | .adapterEvidenceReference => "adapter_evidence_reference"

theorem mem_all (field : ProducerOnlyField) : field ∈ all := by cases field <;> decide

end ProducerOnlyField

/-- The nine optional fields of one request. -/
abbrev ProducerContext := ProducerOnlyField → Option Json

/-! ## The kernel of `/v1/evaluate` -/

/-- `Subject`; its `type` is always `HUMAN`. -/
structure Subject where
  id : String
  name : String
  roles : List String
  attrs : List (String × String)

/-- `IdentityContext` of the kernel. -/
structure CoreIdentityContext where
  subject : Subject
  token : String
  issuedAt : DateTime
  expiresAt : Option DateTime

/-- `DecisionRequest`. -/
structure DecisionRequest where
  requestId : String
  subjectId : String
  subjectRoles : List String
  subjectAttrs : List (String × String)
  action : String
  resourceId : Option String
  context : OrderedDict String String
  timestamp : DateTime

inductive DecisionOutcome
  | allow | deny | notApplicable
  deriving DecidableEq, Repr

def DecisionOutcome.value : DecisionOutcome → String
  | .allow => "allow"
  | .deny => "deny"
  | .notApplicable => "not_applicable"

/-- `DecisionResponse`. -/
structure DecisionResponse where
  requestId : String
  outcome : DecisionOutcome
  reason : String
  policyVersion : Option String

inductive AuditOutcome
  | allowed | denied
  deriving DecidableEq, Repr

/-- `AuditEvent`. Every event the gateway builds is a `SYSTEM_EVENT`. -/
structure AuditEvent where
  systemEvent : Bool := true
  action : String
  outcome : Option AuditOutcome := none
  reason : Option String := none
  correlationId : Option String := none
  subjectId : Option String := none
  requestId : Option String := none
  policyVersion : Option String := none
  detail : List (String × Json)

/-- The arguments of `EnforcementPoint.evaluate`. -/
structure KernelCall where
  request : DecisionRequest
  subject : Subject
  identityContext : CoreIdentityContext
  correlationId : String

/-- What the enforcement point does: the events it writes to its audit writer, and then its
answer. -/
structure KernelRun where
  writes : List AuditEvent
  result : Except PyExc DecisionResponse

/-- `GatewayEvaluator`: the enforcement point it wraps. -/
structure GatewayEvaluator where
  policyVersion : Option String
  enforcementPoint : KernelCall → KernelRun

/-! ## The kernel of `/v1/evaluate/operation-aware` -/

/-- `OperationAwareDecisionRequest`. -/
structure OperationAwareDecisionRequest where
  requestId : String
  correlationId : String
  subjectId : String
  subjectRoles : List String
  subjectAttrs : List (String × String)
  action : String
  resource : Option String
  resourceType : Option String
  producerContext : ProducerContext
  evaluationTime : DateTime

inductive OperationAwareEvaluationStatus
  | completed | failed
  deriving DecidableEq, Repr

inductive OperationAwareDecisionOutcome
  | allow | deny | notApplicable
  deriving DecidableEq, Repr

inductive OperationAwareFailureReason
  | invalidRequest | unsupportedSchemaVersion | invalidPolicyBundle | policyValidationFailure
  | conditionEvaluationError | internalEvaluationError
  deriving DecidableEq, Repr

inductive EnforcementDisposition
  | allow | deny
  deriving DecidableEq, Repr

def OperationAwareEvaluationStatus.value : OperationAwareEvaluationStatus → String
  | .completed => "completed"
  | .failed => "failed"

def OperationAwareDecisionOutcome.value : OperationAwareDecisionOutcome → String
  | .allow => "allow"
  | .deny => "deny"
  | .notApplicable => "not_applicable"

def OperationAwareFailureReason.value : OperationAwareFailureReason → String
  | .invalidRequest => "invalid_request"
  | .unsupportedSchemaVersion => "unsupported_schema_version"
  | .invalidPolicyBundle => "invalid_policy_bundle"
  | .policyValidationFailure => "policy_validation_failure"
  | .conditionEvaluationError => "condition_evaluation_error"
  | .internalEvaluationError => "internal_evaluation_error"

def EnforcementDisposition.value : EnforcementDisposition → String
  | .allow => "allow"
  | .deny => "deny"

/-- `OperationAwareDecisionResponse`; its trace as `model_dump` writes it. -/
structure OperationAwareDecisionResponse where
  requestId : String
  correlationId : Option String
  evaluationStatus : OperationAwareEvaluationStatus
  outcome : Option OperationAwareDecisionOutcome
  failureReason : Option OperationAwareFailureReason
  bundleId : Option String
  bundleVersion : Option String
  traceId : Option String
  reasonCode : Option String
  explanation : Option String
  evaluationTrace : Option Json

/-- `AuditEvidence`: its id, and the whole as `model_dump(mode="json")` writes it. -/
structure AuditEvidence where
  evidenceId : String
  dump : Json

/-- `OperationAwareEnforcementResult`. -/
structure OperationAwareEnforcementResult where
  response : OperationAwareDecisionResponse
  auditEvidence : Option AuditEvidence
  disposition : EnforcementDisposition

/-- The arguments of `OperationAwareEnforcementPoint.evaluate`. -/
structure OperationAwareKernelCall where
  request : OperationAwareDecisionRequest
  traceId : String
  evidenceId : String
  recordedAt : DateTime

/-- `OperationAwareGatewayEvaluator`: the enforcement point it wraps. -/
structure OperationAwareGatewayEvaluator where
  enforcementPoint : OperationAwareKernelCall → Except PyExc OperationAwareEnforcementResult

/-! ## Constructors -/

/-- What the models' own validation raises, and `datetime.fromtimestamp`. -/
structure CoreModels where
  subject : Subject → Except PyExc Unit
  identityContext : CoreIdentityContext → Except PyExc Unit
  decisionRequest : DecisionRequest → Except PyExc Unit
  operationAwareDecisionRequest : OperationAwareDecisionRequest → Except PyExc Unit
  fromTimestamp : Json → Except PyExc DateTime

/-- `Model(…)`: the value, when its validation passes. -/
def constructing {α : Type} (validate : α → Except PyExc Unit) (a : α) : Except PyExc α := do
  validate a
  return a

end BasisGateway
