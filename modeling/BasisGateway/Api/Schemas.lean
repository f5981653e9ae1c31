/-
The request models (`api/schemas.py`, `api/operation_aware_schemas.py`).
Parsing is pydantic's; what its validators reject is a field of the value
here, so a value of either type is a body that passed its schema.
-/
import BasisGateway.Core.Actions
import BasisGateway.Core.Kernel

namespace BasisGateway

abbrev Bytes := List UInt8

/-- `EvaluateRequest`. -/
structure EvaluateRequest where
  requestId : Option String
  action : String
  /-- `action_not_empty`. -/
  action_not_blank : blank action = false
  resourceType : Option String
  resourceId : Option String
  context : Context

/-- `OperationAwareEvaluateRequest`. -/
structure OperationAwareEvaluateRequest where
  requestId : Option String
  action : String
  /-- `action_not_empty`. -/
  action_not_blank : blank action = false
  resourceType : Option String
  resourceId : Option String
  context : Context
  /-- `operation_aware_context_must_be_empty`. -/
  context_empty : context.entries = []
  producerContext : ProducerContext

/-- `present_operation_producer_only_fields`: absent is `None`, and nothing else is. -/
def presentOperationProducerOnlyFields (request : OperationAwareEvaluateRequest) :
    List ProducerOnlyField :=
  ProducerOnlyField.all.filter fun field => (request.producerContext field).isSome

theorem mem_present (request : OperationAwareEvaluateRequest) (field : ProducerOnlyField) :
    field ∈ presentOperationProducerOnlyFields request ↔ (request.producerContext field).isSome = true := by
  simp [presentOperationProducerOnlyFields, ProducerOnlyField.mem_all]

end BasisGateway
