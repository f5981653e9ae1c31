/-
The operation-aware bundle loader (`policy/operation_aware_loader.py`): a JSON
file that `PolicyBundle.model_validate` accepts. Its error carries the stage
that failed. The file system, `json.loads` and the model are parameters.
-/
import BasisGateway.Policy.Loader

namespace BasisGateway

inductive OperationAwarePolicyLoadFailureStage
  | fileUnreadable | invalidJson | invalidStructure
  deriving DecidableEq, Repr

def OperationAwarePolicyLoadFailureStage.value : OperationAwarePolicyLoadFailureStage → String
  | .fileUnreadable => "file_unreadable"
  | .invalidJson => "invalid_json"
  | .invalidStructure => "invalid_structure"

/-- What the bundle loader raises: `OperationAwarePolicyLoadError`, or an exception it does not catch. -/
inductive BundleLoadFault
  | loadError (msg : String) (stage : OperationAwarePolicyLoadFailureStage)
  | uncaught (exc : PyExc)

/-- The exception as the lifespan sees it. -/
def BundleLoadFault.exc : BundleLoadFault → PyExc
  | .loadError msg _ => { cls := .operationAwarePolicyLoadError, msg }
  | .uncaught exc => exc

/-- `except cls as exc: raise OperationAwarePolicyLoadError(…, stage=stage)`. -/
def raiseAtStage (cls : ExcClass) (stage : OperationAwarePolicyLoadFailureStage) (msg : PyExc → String)
    (exc : PyExc) : BundleLoadFault :=
  if exc.isInstance cls then .loadError (msg exc) stage else .uncaught exc

section

variable {Bundle : Type} (printable : Char → Bool) (jsonLoads : String → Except PyExc Json)
  (modelValidate : List (String × Json) → Except PyExc Bundle)

/-- `load_operation_aware_policy_bundle` from the parsed file on. -/
def bundleOf (path : String) (data : Json) : Except BundleLoadFault Bundle :=
  match data with
  | .obj fields =>
    (modelValidate fields).mapError (raiseAtStage .validationError .invalidStructure fun exc =>
      "Operation-aware policy bundle file " ++ pyRepr printable path ++
        " does not match the required PolicyBundle structure (" ++ toString exc.errors.length ++
        " validation error(s)).")
  | _ => .error (.loadError ("Operation-aware policy bundle file " ++ pyRepr printable path ++
      " must be a JSON object at the top level, got " ++ data.typeName) .invalidStructure)

/-- `load_operation_aware_policy_bundle`. -/
def loadOperationAwarePolicyBundle (file : PolicyFile) : Except BundleLoadFault Bundle :=
  if file.present = false then
    .error (.loadError ("Operation-aware policy bundle file not found: " ++ pyRepr printable file.path ++
      ". Set OPERATION_AWARE_POLICY_BUNDLE_PATH to the path of your operation-aware JSON policy bundle file.")
      .fileUnreadable)
  else if file.isFile = false then
    .error (.loadError ("Operation-aware policy bundle path is not a file: " ++ pyRepr printable file.path)
      .fileUnreadable)
  else do
    let rawText ← file.readText.mapError (raiseAtStage .osError .fileUnreadable fun exc =>
      "Could not read operation-aware policy bundle file " ++ pyRepr printable file.path ++ ": " ++ exc.msg)
    let data ← (jsonLoads rawText).mapError (raiseAtStage .jsonDecodeError .invalidJson fun exc =>
      "Operation-aware policy bundle file " ++ pyRepr printable file.path ++ " is not valid JSON: " ++ exc.msg)
    bundleOf printable modelValidate file.path data

end

end BasisGateway
