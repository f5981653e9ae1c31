/-
The composition boundary (`core/actions.py`, `core/resources.py`): a bare
verb and a resource type become a composite action, a local resource id
becomes a typed one, and what was composed is recorded in the evaluation
context under the gateway's reserved prefix.

The error messages quote their values with `repr`, whose table of printable
characters is the parameter `printable`.
-/
import BasisGateway.Errors
import BasisGateway.Text
import BasisGateway.Lib.OrderedDict

namespace BasisGateway

/-- A `dict[str, str]`. -/
abbrev Context := OrderedDict String String

def reservedContextPrefix : String := "basis_gateway."

def evidenceActionComposed : String := "basis_gateway.action_composed"
def evidenceOriginalAction : String := "basis_gateway.original_action"
def evidenceResourceType : String := "basis_gateway.resource_type"
def evidenceComposedAction : String := "basis_gateway.composed_action"
def evidenceResourceComposed : String := "basis_gateway.resource_composed"
def evidenceOriginalResourceId : String := "basis_gateway.original_resource_id"
def evidenceComposedResourceId : String := "basis_gateway.composed_resource_id"

/-! ## Actions -/

def isLower (c : Char) : Bool := 'a' ≤ c && c ≤ 'z'

/-- `[a-z0-9_-]`. -/
def isSegmentChar (c : Char) : Bool := isLower c || ('0' ≤ c && c ≤ '9') || c == '_' || c == '-'

/-- `_SEGMENT_RE.match(s)`. Its `$` also matches before one newline that ends the string. -/
def isSegment (s : String) : Bool :=
  match s.toList with
  | [] => false
  | c :: cs => isLower c && (if cs.getLast? = some '\n' then cs.dropLast else cs).all isSegmentChar

def isCompositeAction (action : String) : Bool := hasChar action ':'

def actionCompositionError (msg : String) : PyExc := { cls := .actionCompositionError, msg }

/-- `compose_action`. -/
def composeAction (printable : Char → Bool) (action : String) (resourceType : Option String) :
    Except PyExc String :=
  if blank action then .error (actionCompositionError "action must not be empty")
  else if isCompositeAction action then
    match resourceType with
    | some _ => .error (actionCompositionError (
        "resource_type must not be supplied when action is already composite " ++
        "(" ++ pyRepr printable action ++ "). Provide either a composite action (e.g. 'read:ahu') or a " ++
        "bare verb plus resource_type (e.g. action='read', resource_type='ahu') — not both."))
    | none => .ok action
  else match resourceType with
    | none => .error (actionCompositionError (
        "resource_type is required when action is a bare verb (" ++ pyRepr printable action ++ "). " ++
        "Send a composite action (e.g. 'read:ahu') or add resource_type (e.g. 'ahu')."))
    | some resourceType =>
      if resourceType = "" then
        .error (actionCompositionError "resource_type must not be empty when composing a bare action.")
      else if isSegment action = false then
        .error (actionCompositionError ("action verb " ++ pyRepr printable action ++ notASegment))
      else if isSegment resourceType = false then
        .error (actionCompositionError ("resource_type " ++ pyRepr printable resourceType ++ notASegment))
      else .ok (action ++ ":" ++ resourceType)
where
  notASegment : String := " is not a valid lowercase identifier segment " ++
    "(letters, digits, '-', '_'; must start with a letter)."

/-- `reserved_key_collisions`. -/
def reservedKeyCollisions (context : Context) : List String :=
  (context.keys.filter fun k => startsWith k reservedContextPrefix).insertionSort (· ≤ ·)

/-- `build_composition_evidence`. -/
def buildCompositionEvidence (originalAction resourceType composedAction : String) :
    List (String × String) :=
  [(evidenceActionComposed, "true"), (evidenceOriginalAction, originalAction),
    (evidenceResourceType, resourceType), (evidenceComposedAction, composedAction)]

/-! ## Resources -/

/-- `ResourceCompositionResult`; the two fields that only a composed result has are one here. -/
structure ResourceCompositionResult where
  resourceId : Option String
  /-- `original_resource_id`, `resource_type` and the typed id, when `composed`. -/
  composed : Option (String × String × String)

def isTypedResourceId (resourceId : String) : Bool := hasChar resourceId ':'

def resourceCompositionError (msg : String) : PyExc := { cls := .resourceCompositionError, msg }

/-- `compose_resource_id`. -/
def composeResourceId (printable : Char → Bool) (resourceType resourceId : Option String) :
    Except PyExc ResourceCompositionResult :=
  match resourceId with
  | none => .ok { resourceId := none, composed := none }
  | some resourceId =>
    if isTypedResourceId resourceId then
      match resourceType with
      | some resourceType => .error (resourceCompositionError (
          "resource_type (" ++ pyRepr printable resourceType ++ ") must not be supplied when resource_id " ++
          "is already typed (" ++ pyRepr printable resourceId ++ "). Provide either a typed resource_id " ++
          "(e.g. 'ahu:rooftop-1') or a resource_type plus a local resource_id " ++
          "(e.g. resource_type='ahu', resource_id='rooftop-1') — not both."))
      | none => .ok { resourceId := some resourceId, composed := none }
    else match resourceType with
      | none => .error (resourceCompositionError (
          "resource_id " ++ pyRepr printable resourceId ++ " is local and cannot be composed into a " ++
          "canonical typed identifier without a resource_type. Send a typed resource_id " ++
          "(e.g. 'ahu:rooftop-1') or add resource_type (e.g. 'ahu')."))
      | some resourceType =>
        let typed := resourceType ++ ":" ++ resourceId
        .ok { resourceId := some typed, composed := some (resourceId, resourceType, typed) }

/-- `build_resource_composition_evidence`. -/
def buildResourceCompositionEvidence (originalResourceId resourceType composedResourceId : String) :
    List (String × String) :=
  [(evidenceResourceComposed, "true"), (evidenceOriginalResourceId, originalResourceId),
    (evidenceResourceType, resourceType), (evidenceComposedResourceId, composedResourceId)]

/-! ## What is composed -/

/-- An action that is composed is composite. -/
theorem isCompositeAction_of_composeAction {printable : Char → Bool} {action composed : String}
    {resourceType : Option String} (h : composeAction printable action resourceType = .ok composed) :
    isCompositeAction composed = true := by
  unfold composeAction at h
  split at h
  next => cases h
  next =>
    split at h
    next hc =>
      split at h
      next => cases h
      next => cases h; exact hc
    next =>
      split at h
      next => cases h
      next rt =>
        split at h
        next => cases h
        next =>
          split at h
          next => cases h
          next =>
            split at h
            next => cases h
            next =>
              cases h
              simp [isCompositeAction, hasChar]

/-- Every failure of action composition is of the one class the handlers name. -/
theorem composeAction_error {printable : Char → Bool} {action : String} {resourceType : Option String}
    {exc : PyExc} (h : composeAction printable action resourceType = .error exc) :
    exc.cls = .actionCompositionError := by
  unfold composeAction at h
  split at h
  next => cases h; rfl
  next =>
    split at h
    next =>
      split at h
      next => cases h; rfl
      next => cases h
    next =>
      split at h
      next => cases h; rfl
      next =>
        split at h
        next => cases h; rfl
        next =>
          split at h
          next => cases h; rfl
          next =>
            split at h
            next => cases h; rfl
            next => cases h

theorem composeResourceId_error {printable : Char → Bool} {resourceType resourceId : Option String}
    {exc : PyExc} (h : composeResourceId printable resourceType resourceId = .error exc) :
    exc.cls = .resourceCompositionError := by
  unfold composeResourceId at h
  split at h
  next => cases h
  next =>
    split at h
    next =>
      split at h
      next => cases h; rfl
      next => cases h
    next =>
      split at h
      next => cases h; rfl
      next => cases h

/-- What is composed is the action itself, or the verb and the resource type. -/
theorem composeAction_ok {printable : Char → Bool} {action composed : String}
    {resourceType : Option String} (h : composeAction printable action resourceType = .ok composed) :
    composed = resourceType.elim action (action ++ ":" ++ ·) := by
  unfold composeAction at h
  split at h
  next => cases h
  next =>
    split at h
    next =>
      split at h
      next => cases h
      next => cases h; rfl
    next =>
      split at h
      next => cases h
      next =>
        split at h
        next => cases h
        next =>
          split at h
          next => cases h
          next =>
            split at h
            next => cases h
            next => cases h; rfl

/-- The three ways a resource id is composed. -/
inductive ComposesResource : Option String → Option String → ResourceCompositionResult → Prop
  | absent (resourceType : Option String) :
      ComposesResource resourceType none { resourceId := none, composed := none }
  | typed (resourceId : String) (h : isTypedResourceId resourceId = true) :
      ComposesResource none (some resourceId) { resourceId := some resourceId, composed := none }
  | composed (resourceType resourceId : String) (h : isTypedResourceId resourceId = false) :
      ComposesResource (some resourceType) (some resourceId)
        { resourceId := some (resourceType ++ ":" ++ resourceId)
          composed := some (resourceId, resourceType, resourceType ++ ":" ++ resourceId) }

theorem composesResource_of_ok {printable : Char → Bool} {resourceType resourceId : Option String}
    {result : ResourceCompositionResult} (h : composeResourceId printable resourceType resourceId = .ok result) :
    ComposesResource resourceType resourceId result := by
  unfold composeResourceId at h
  split at h
  next => cases h; exact .absent resourceType
  next resourceId =>
    split at h
    next htyped =>
      split at h
      next => cases h
      next => cases h; exact .typed resourceId htyped
    next hlocal =>
      split at h
      next => cases h
      next resourceType => cases h; exact .composed resourceType resourceId (by simpa using hlocal)

end BasisGateway
