/-
The keys of a request body (`api/schemas.py`, `api/operation_aware_schemas.py`):
the two model classes by the fields they define, `extra="forbid"`, and the
validator that runs on the parsed body before them.

Validation itself is pydantic's. `ModelValidateJson` is what its documentation
says of a class and a body that the class does not take.
-/
import BasisGateway.Api.Routes

namespace BasisGateway

/-- A model class, by what it makes of the keys of a body. -/
structure ModelClass where
  fields : List String
  /-- `extra="forbid"`. -/
  forbidsExtra : Bool
  /-- Its `mode="before"` model validator. -/
  before : Json → Except PyExc Unit

/-- The two fields of `reject_caller_supplied_subject`. -/
def callerSuppliedSubjectFields : List String := ["subject_id", "subject_roles"]

/-- `EvaluateRequest.reject_caller_supplied_subject`. -/
def rejectCallerSuppliedSubject (printable : Char → Bool) (data : Json) : Except PyExc Unit :=
  match data with
  | .obj fields =>
    let disallowed := callerSuppliedSubjectFields.filter fun key => key ∈ fields.map Prod.fst
    if disallowed ≠ [] then
      .error { cls := .valueError
               msg := "Fields " ++ pyReprList printable disallowed ++ " must not be provided by the caller. " ++
                "Subject identity is derived from the verified Bearer token." }
    else .ok ()
  | _ => .ok ()

/-- `EvaluateRequest`. -/
def evaluateRequestClass (printable : Char → Bool) : ModelClass where
  fields := ["request_id", "action", "resource_type", "resource_id", "context"]
  forbidsExtra := true
  before := rejectCallerSuppliedSubject printable

/-- `OperationAwareEvaluateRequest`. -/
def operationAwareEvaluateRequestClass : ModelClass where
  fields := ["request_id", "action", "resource_type", "resource_id", "context"] ++
    ProducerOnlyField.all.map ProducerOnlyField.name
  forbidsExtra := true
  before _ := .ok ()

def Endpoint.modelClass (printable : Char → Bool) : Endpoint → ModelClass
  | .evaluate => evaluateRequestClass printable
  | .operationAware => operationAwareEvaluateRequestClass

/-- `parse` is `model_validate_json` of the class: a `ValueError` of the validator that runs before it, and a
key that is no field of a class that forbids others, are a `ValidationError`. `loads` is the JSON parser. -/
structure ModelValidateJson {α : Type} (loads : Bytes → Option Json) (model : ModelClass)
    (parse : Bytes → Except PyExc α) : Prop where
  before {bytes : Bytes} {data : Json} {exc : PyExc} (hloads : loads bytes = some data)
    (hraised : model.before data = .error exc) (hvalue : exc.isInstance .valueError = true) :
    ∃ invalid, parse bytes = .error invalid ∧ invalid.isInstance .validationError = true
  extra {bytes : Bytes} {fields : List (String × Json)} {key : String} (hforbids : model.forbidsExtra = true)
    (hloads : loads bytes = some (.obj fields)) (hkey : key ∈ fields.map Prod.fst) (hextra : key ∉ model.fields) :
    ∃ invalid, parse bytes = .error invalid ∧ invalid.isInstance .validationError = true

/-- An app whose bodies are parsed by the two model classes. -/
structure SchemaApp extends App where
  loads : Bytes → Option Json
  evaluateSchema : ModelValidateJson loads (evaluateRequestClass printable) parseEvaluateRequest
  operationAwareSchema :
    ModelValidateJson loads operationAwareEvaluateRequestClass parseOperationAwareEvaluateRequest

/-! ## Bodies with other keys -/

/-- Neither endpoint defines a field for the subject. -/
theorem subject_notMem_fields (printable : Char → Bool) (endpoint : Endpoint) :
    ∀ key ∈ ["subject_id", "subject_roles"], key ∉ (endpoint.modelClass printable).fields := by
  cases endpoint with
  | evaluate => simp [Endpoint.modelClass, evaluateRequestClass]
  | operationAware =>
    show ∀ key ∈ ["subject_id", "subject_roles"], key ∉ operationAwareEvaluateRequestClass.fields
    decide

theorem rejectCallerSuppliedSubject_error (printable : Char → Bool) {fields : List (String × Json)} {key : String}
    (hkey : key ∈ fields.map Prod.fst) (hsubject : key ∈ callerSuppliedSubjectFields) :
    ∃ exc, rejectCallerSuppliedSubject printable (.obj fields) = .error exc ∧
      exc.isInstance .valueError = true := by
  have hne : (callerSuppliedSubjectFields.filter fun key => key ∈ fields.map Prod.fst) ≠ [] :=
    List.ne_nil_of_mem (List.mem_filter.2 ⟨hsubject, decide_eq_true hkey⟩)
  refine ⟨_, if_pos hne, rfl⟩

/-- The validator of `EvaluateRequest` rejects a claimed subject; every other key that is no field is
rejected as extra. -/
theorem SchemaApp.parseEvaluateRequest_extra (app : SchemaApp) {bytes : Bytes} {fields : List (String × Json)}
    {key : String} (hloads : app.loads bytes = some (.obj fields)) (hkey : key ∈ fields.map Prod.fst)
    (hextra : key ∉ (evaluateRequestClass app.printable).fields) :
    ∃ invalid, app.parseEvaluateRequest bytes = .error invalid ∧ invalid.isInstance .validationError = true := by
  by_cases hsubject : key ∈ callerSuppliedSubjectFields
  · obtain ⟨exc, hraised, hvalue⟩ := rejectCallerSuppliedSubject_error app.printable hkey hsubject
    exact app.evaluateSchema.before hloads hraised hvalue
  · exact app.evaluateSchema.extra rfl hloads hkey hextra

end BasisGateway
