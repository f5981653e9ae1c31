/-
Policy loading and startup. A loader's own error is attributed: its component
is down, with the loader's message as the reason. What the loaders let
through is attributed to nothing: text that is not UTF-8, and what
`json.loads` raises besides `JSONDecodeError`.
-/
import BasisGateway.MainFacts
import BasisGateway.Policy.OperationAwareLoader
import BasisGateway.PolicyGrammar
import BasisGateway.Reentry

namespace BasisGateway

open Prog

/-! ## Attribution -/

/-- Startup needs the stage, and everything before it completes. -/
def StartupSteps.Reaches {P : Parts} (steps : StartupSteps P) (n : Stage) : Prop :=
  steps.plan.enabled n = true ∧
    ∀ m, m.before n → steps.plan.enabled m = true → (steps.plan.outcome m).isOk = true

/-- Whatever the gateway's state, a startup that reaches the stage leaves its component down, with the
message of `exc` as the reason. -/
def Attributes {P : Parts} (steps : StartupSteps P) (n : Stage) (component : String) (exc : PyExc) : Prop :=
  steps.Reaches n → ∀ g : Gateway P,
    (exec (startup steps) g).2.readiness.components.get? component = some false ∧
    (exec (startup steps) g).2.readiness.reasonOf component = exc.msg

theorem attributes_of_blames {P : Parts} {steps : StartupSteps P} {n : Stage} {component : String} {exc : PyExc}
    (hout : steps.Reaches n → steps.plan.outcome n = .error ⟨exc, some component⟩) :
    Attributes steps n component exc := by
  intro hreaches g
  have hf := StartupPlan.failure_of_error hreaches.1 (hout hreaches) Stage.all_pairwise n.mem_all hreaches.2
  obtain ⟨hdown, hreason⟩ := StartupPlan.reason_of_failure rfl hf g
  rw [exec_startup]
  exact ⟨hdown, by rw [ReadinessState.reasonOf, hreason, Option.getD_some]⟩

/-! ## What the libraries raise -/

/-- What `read_text` raises: `OSError`, or `UnicodeDecodeError`. -/
def ReadRaises (file : PolicyFile) : Prop :=
  ∀ exc, file.readText = .error exc → exc.isInstance .osError = true ∨ exc.isInstance .unicodeDecodeError = true

/-- What `json.loads` raises: a `ValueError`, of which `JSONDecodeError` is one, or `RecursionError`. -/
def LoadsRaise (jsonLoads : String → Except PyExc Json) : Prop :=
  ∀ text exc, jsonLoads text = .error exc →
    exc.isInstance .valueError = true ∨ exc.isInstance .recursionError = true

/-- What `PolicyBundle.model_validate` raises: `ValidationError`. -/
def ValidateRaises {Bundle : Type} (modelValidate : List (String × Json) → Except PyExc Bundle) : Prop :=
  ∀ fields exc, modelValidate fields = .error exc → exc.isInstance .validationError = true

/-- The content of an existing file is UTF-8 text on which `json.loads` raises nothing but
`JSONDecodeError`. -/
def Decodes (jsonLoads : String → Except PyExc Json) (file : PolicyFile) : Prop :=
  file.present = true → file.isFile = true →
    (∀ exc, file.readText = .error exc → exc.isInstance .unicodeDecodeError = false) ∧
    ∀ text exc, file.readText = .ok text → jsonLoads text = .error exc → exc.isInstance .jsonDecodeError = true

theorem not_osError_of_unicodeDecodeError {exc : PyExc} (h : exc.isInstance .unicodeDecodeError = true) :
    exc.isInstance .osError = false := by
  rw [Bool.eq_false_iff]
  intro hos
  have hchain := PyExc.isInstance_chain h hos
  revert hchain
  decide

/-- A stage after the first is reached with a configuration. -/
theorem StartupSteps.Reaches.outcome {P : Parts} {steps : StartupSteps P} {n : Stage} (h : steps.Reaches n)
    (hn : n ≠ .configuration) :
    ∃ config, steps.loadConfig = .ok config ∧ steps.plan.outcome n = steps.outcomeOf config n := by
  cases hconfig : steps.loadConfig with
  | ok config => exact ⟨config, rfl, by rw [StartupSteps.plan_of_ok hconfig]⟩
  | error exc =>
    have hen := h.1
    rw [StartupSteps.plan_of_error hconfig] at hen
    exact absurd (of_decide_eq_true hen) hn

/-- One `except` clause. -/
theorem exceptClauses_single (cls : ExcClass) (raised : PyExc → PyExc) (exc : PyExc) :
    exceptClauses [(cls, raised)] exc = if exc.isInstance cls then raised exc else exc := by
  by_cases h : exc.isInstance cls = true
  · simp [exceptClauses, h]
  · simp [exceptClauses, h]

/-! ## The v0.1 loader -/

section

variable {printable : Char → Bool} {jsonLoads : String → Except PyExc Json} {file : PolicyFile}

/-- The loader raises its own error only, and startup attributes every failed load. -/
structure PolicyLoading (printable : Char → Bool) (jsonLoads : String → Except PyExc Json)
    (file : PolicyFile) : Prop where
  total : ∀ exc, loadPolicyEngine printable jsonLoads file = .error exc → exc.cls = .policyLoadError
  attributed : ∀ (P : Parts) (steps : StartupSteps P) (build : PolicyEngine → P.Engine) (exc : PyExc),
    steps.loadPolicyEngine = (loadPolicyEngine printable jsonLoads file).map build →
    loadPolicyEngine printable jsonLoads file = .error exc → Attributes steps .policy "policy_loaded" exc

/-- The steps of the loader, for a file that is there. -/
theorem loadPolicyEngine_of_present (hpresent : file.present = true) (hfile : file.isFile = true) :
    loadPolicyEngine printable jsonLoads file =
      (file.readText.mapError (exceptClauses [(.osError, fun exc => policyLoadError
        ("Could not read policy file " ++ pyRepr printable file.path ++ ": " ++ exc.msg))]) >>= fun rawText =>
      (jsonLoads rawText).mapError (exceptClauses [(.jsonDecodeError, fun exc => policyLoadError
        ("Policy file " ++ pyRepr printable file.path ++ " is not valid JSON: " ++ exc.msg))]) >>= fun data =>
      policyEngineOf printable file.path data) := by
  simp only [loadPolicyEngine, hpresent, hfile, Bool.true_eq_false, if_false]

theorem raises_loadPolicyEngine (hread : ReadRaises file) (hdecodes : Decodes jsonLoads file) :
    Except.Raises IsPolicyLoadError (loadPolicyEngine printable jsonLoads file) := by
  by_cases hpresent : file.present = true
  · by_cases hfile : file.isFile = true
    · obtain ⟨hutf8, hjson⟩ := hdecodes hpresent hfile
      rw [loadPolicyEngine_of_present hpresent hfile, Except.raises_bind_iff, Except.raises_mapError_iff]
      refine ⟨?_, fun rawText htext => ?_⟩
      · intro exc hexc
        have hos := (hread exc hexc).resolve_right (by simp [hutf8 exc hexc])
        show IsPolicyLoadError (exceptClauses _ exc)
        rw [exceptClauses_single, if_pos hos]
        exact isPolicyLoadError _
      · rw [Except.raises_bind_iff, Except.raises_mapError_iff]
        refine ⟨fun exc hexc => ?_, fun data _ => raises_policyEngineOf data⟩
        have hcaught := hjson rawText exc (Except.mapError_eq_ok.1 htext) hexc
        show IsPolicyLoadError (exceptClauses _ exc)
        rw [exceptClauses_single, if_pos hcaught]
        exact isPolicyLoadError _
    · rw [loadPolicyEngine, if_neg (by simp [hpresent]), if_pos (by simpa using hfile)]
      exact Except.raises_error_iff.2 (isPolicyLoadError _)
  · rw [loadPolicyEngine, if_pos (by simpa using hpresent)]
    exact Except.raises_error_iff.2 (isPolicyLoadError _)

theorem decodes_of_total (hloads : LoadsRaise jsonLoads)
    (htotal : ∀ exc, loadPolicyEngine printable jsonLoads file = .error exc → exc.cls = .policyLoadError) :
    Decodes jsonLoads file := by
  intro hpresent hfile
  rw [loadPolicyEngine_of_present hpresent hfile] at htotal
  constructor
  · intro exc hexc
    by_contra hunicode
    rw [Bool.not_eq_false] at hunicode
    have hcls : exc.cls = .policyLoadError := by
      refine htotal exc (Except.bind_eq_error.2 (.inl ?_))
      rw [Except.mapError_eq_error]
      refine ⟨exc, hexc, ?_⟩
      rw [exceptClauses_single, not_osError_of_unicodeDecodeError hunicode]
      rfl
    simp [PyExc.isInstance, hcls, ExcClass.bases] at hunicode
  · intro text exc htext hexc
    by_contra hnot
    have hcls : exc.cls = .policyLoadError := by
      refine htotal exc (Except.bind_eq_error.2 (.inr ⟨text, Except.mapError_eq_ok.2 htext, ?_⟩))
      refine Except.bind_eq_error.2 (.inl ?_)
      rw [Except.mapError_eq_error]
      refine ⟨exc, hexc, ?_⟩
      rw [exceptClauses_single, if_neg hnot]
    have hraised := hloads text exc hexc
    simp [PyExc.isInstance, hcls, ExcClass.bases] at hraised

theorem policyLoading_iff (hread : ReadRaises file) (hloads : LoadsRaise jsonLoads) :
    PolicyLoading printable jsonLoads file ↔ Decodes jsonLoads file := by
  constructor
  · intro h
    exact decodes_of_total hloads h.total
  · intro h
    have htotal : ∀ exc, loadPolicyEngine printable jsonLoads file = .error exc → exc.cls = .policyLoadError :=
      raises_loadPolicyEngine hread h
    refine ⟨htotal, ?_⟩
    intro P steps build exc hsteps hexc
    refine attributes_of_blames fun hreaches => ?_
    obtain ⟨config, -, hout⟩ := hreaches.outcome (by decide)
    have hclause : clause [.policyLoadError] "policy_loaded" exc = some "policy_loaded" := by
      have hcls : exc.cls = .policyLoadError := htotal exc hexc
      simp [clause, PyExc.isInstance, hcls]
    rw [hout, StartupSteps.outcomeOf, hsteps, hexc, ← hclause]
    rfl

end

/-! ## The bundle loader -/

section

variable {Bundle : Type} {printable : Char → Bool} {jsonLoads : String → Except PyExc Json}
  {modelValidate : List (String × Json) → Except PyExc Bundle} {file : PolicyFile}

/-- The loader raises its own error only, with a stage, and startup attributes every failed load. -/
structure BundleLoading (printable : Char → Bool) (jsonLoads : String → Except PyExc Json)
    (modelValidate : List (String × Json) → Except PyExc Bundle) (file : PolicyFile) : Prop where
  total : ∀ fault, loadOperationAwarePolicyBundle printable jsonLoads modelValidate file = .error fault →
    ∃ msg stage, fault = .loadError msg stage
  attributed : ∀ (P : Parts) (steps : StartupSteps P) (build : Bundle → P.Bundle) (fault : BundleLoadFault),
    steps.loadOperationAwarePolicyBundle =
      ((loadOperationAwarePolicyBundle printable jsonLoads modelValidate file).mapError
        BundleLoadFault.exc).map build →
    loadOperationAwarePolicyBundle printable jsonLoads modelValidate file = .error fault →
    Attributes steps .bundle "operation_aware_bundle_loaded" fault.exc

/-- The loader's own error. -/
def BundleLoadFault.IsLoadError (fault : BundleLoadFault) : Prop := ∃ msg stage, fault = .loadError msg stage

theorem isLoadError (msg : String) (stage : OperationAwarePolicyLoadFailureStage) :
    (BundleLoadFault.loadError msg stage).IsLoadError := ⟨msg, stage, rfl⟩

theorem raiseAtStage_isLoadError_iff {cls : ExcClass} {stage : OperationAwarePolicyLoadFailureStage}
    {msg : PyExc → String} {exc : PyExc} :
    (raiseAtStage cls stage msg exc).IsLoadError ↔ exc.isInstance cls = true := by
  by_cases h : exc.isInstance cls = true
  · simp [raiseAtStage, h, isLoadError]
  · simp [raiseAtStage, h, BundleLoadFault.IsLoadError]

theorem raises_bundleOf {path : String} (hvalidate : ValidateRaises modelValidate) (data : Json) :
    Except.Raises BundleLoadFault.IsLoadError (bundleOf printable modelValidate path data) := by
  cases data with
  | obj fields =>
    rw [bundleOf, Except.raises_mapError_iff]
    intro exc hexc
    exact raiseAtStage_isLoadError_iff.2 (hvalidate fields exc hexc)
  | _ => exact Except.raises_error_iff.2 (isLoadError _ _)

theorem raises_loadBundle_iff (hread : ReadRaises file) (hvalidate : ValidateRaises modelValidate) :
    Except.Raises BundleLoadFault.IsLoadError
      (loadOperationAwarePolicyBundle printable jsonLoads modelValidate file) ↔ Decodes jsonLoads file := by
  by_cases hpresent : file.present = true
  · by_cases hfile : file.isFile = true
    · simp only [loadOperationAwarePolicyBundle, hpresent, hfile, Bool.true_eq_false, if_false,
        Except.raises_bind_iff, Except.raises_mapError_iff, Except.mapError_eq_ok, raiseAtStage_isLoadError_iff]
      constructor
      · intro h _ _
        refine ⟨fun exc hexc => ?_, fun text exc htext hexc => (h.2 text htext).1 exc hexc⟩
        have hos : exc.isInstance .osError = true := h.1 exc hexc
        by_contra hunicode
        rw [Bool.not_eq_false] at hunicode
        rw [not_osError_of_unicodeDecodeError hunicode] at hos
        cases hos
      · intro h
        obtain ⟨hutf8, hjson⟩ := h hpresent hfile
        refine ⟨fun exc hexc => ?_, fun text htext => ⟨fun exc hexc => hjson text exc htext hexc,
          fun data _ => raises_bundleOf hvalidate data⟩⟩
        exact (hread exc hexc).resolve_right (by simp [hutf8 exc hexc])
    · rw [loadOperationAwarePolicyBundle, if_neg (by simp [hpresent]), if_pos (by simpa using hfile)]
      simp [Except.raises_error_iff, isLoadError, Decodes, hfile]
  · rw [loadOperationAwarePolicyBundle, if_pos (by simpa using hpresent)]
    simp [Except.raises_error_iff, isLoadError, Decodes, hpresent]

theorem bundleLoading_iff (hread : ReadRaises file) (hvalidate : ValidateRaises modelValidate) :
    BundleLoading printable jsonLoads modelValidate file ↔ Decodes jsonLoads file := by
  have hraises : Except.Raises BundleLoadFault.IsLoadError
      (loadOperationAwarePolicyBundle printable jsonLoads modelValidate file) ↔ Decodes jsonLoads file :=
    raises_loadBundle_iff hread hvalidate
  constructor
  · intro h
    exact hraises.1 h.total
  · intro hdecodes
    have htotal := hraises.2 hdecodes
    refine ⟨htotal, ?_⟩
    intro P steps build fault hsteps hfault
    obtain ⟨msg, stage, rfl⟩ := htotal fault hfault
    refine attributes_of_blames fun hreaches => ?_
    obtain ⟨config, -, hout⟩ := hreaches.outcome (by decide)
    rw [hout, StartupSteps.outcomeOf, hsteps, hfault]
    rfl

end

/-! ## Both -/

/-- **The loaders keep to their errors, and startup attributes every failed load**, exactly when the content
of the file is UTF-8 text on which `json.loads` raises nothing but `JSONDecodeError`. -/
theorem policy_loading_iff {Bundle : Type} (printable : Char → Bool) (jsonLoads : String → Except PyExc Json)
    (modelValidate : List (String × Json) → Except PyExc Bundle) (file : PolicyFile)
    (hread : ReadRaises file) (hloads : LoadsRaise jsonLoads) (hvalidate : ValidateRaises modelValidate) :
    (PolicyLoading printable jsonLoads file ↔ Decodes jsonLoads file) ∧
    (BundleLoading printable jsonLoads modelValidate file ↔ Decodes jsonLoads file) :=
  ⟨policyLoading_iff hread hloads, bundleLoading_iff hread hvalidate⟩

/-! ## A file that is not UTF-8 -/

/-- A file of the one byte `0xff`. -/
def invalidUtf8File : PolicyFile where
  path := "policy.json"
  present := true
  isFile := true
  readText := .error
    { cls := .unicodeDecodeError
      msg := "'utf-8' codec can't decode byte 0xff in position 0: invalid start byte" }

/-- A file of the text `{}`. -/
def emptyObjectFile : PolicyFile := { invalidUtf8File with readText := .ok "{}" }

/-- `json.loads` on the texts `{}` and the empty one. -/
def emptyObjectLoads (text : String) : Except PyExc Json :=
  if text = "{}" then .ok (.obj [])
  else .error { cls := .jsonDecodeError, msg := "Expecting value: line 1 column 1 (char 0)" }

/-- A model that requires a field. -/
def requiresBundleId (fields : List (String × Json)) : Except PyExc Unit :=
  match Json.get? "bundle_id" fields with
  | some _ => .ok ()
  | none => .error
    { cls := .validationError, msg := "1 validation error for PolicyBundle"
      errors := [{ loc := ["bundle_id"], msg := "Field required", type := "missing" }] }

/-- A startup that reads this file as its policy, and one that reads it as its bundle. -/
def policyStartup (file : PolicyFile) : StartupSteps unitParts :=
  let engine := loadPolicyEngine asciiTables.printable emptyObjectLoads file
  { fullStartup with loadPolicyEngine := engine.map fun _ => () }

def bundleStartup (file : PolicyFile) : StartupSteps unitParts :=
  let bundle := loadOperationAwarePolicyBundle asciiTables.printable emptyObjectLoads requiresBundleId file
  { fullStartup with loadOperationAwarePolicyBundle := bundle.mapError BundleLoadFault.exc }

/-- The decoding error passes both loaders. The policy component is never registered, and the bundle
component keeps the reason it was announced with. -/
theorem invalid_utf8_unattributed :
    ¬ PolicyLoading asciiTables.printable emptyObjectLoads invalidUtf8File ∧
    ¬ BundleLoading asciiTables.printable emptyObjectLoads requiresBundleId invalidUtf8File ∧
    (exec (startup (policyStartup invalidUtf8File)) (.fresh unitParts)).2.readiness.components.get?
      "policy_loaded" = none ∧
    (exec (startup (bundleStartup invalidUtf8File)) (.fresh unitParts)).2.readiness.reasonOf
      "operation_aware_bundle_loaded" =
        "Operation-aware policy bundle not yet loaded (operation-aware startup pending)" := by
  refine ⟨?_, ?_, ?_, ?_⟩
  · intro h
    have hcls := h.total _ rfl
    cases hcls
  · intro h
    obtain ⟨msg, stage, hfault⟩ := h.total _ rfl
    cases hfault
  · decide +kernel
  · rfl

theorem policy_loading_iff_empty_object :
    PolicyLoading asciiTables.printable emptyObjectLoads emptyObjectFile ∧
    BundleLoading asciiTables.printable emptyObjectLoads requiresBundleId emptyObjectFile := by
  have hread : ReadRaises emptyObjectFile := by
    intro exc hexc
    cases hexc
  have hloads : LoadsRaise emptyObjectLoads := by
    intro text exc hexc
    unfold emptyObjectLoads at hexc
    split at hexc
    next => cases hexc
    next => cases hexc; exact .inl (by decide)
  have hvalidate : ValidateRaises requiresBundleId := by
    intro fields exc hexc
    unfold requiresBundleId at hexc
    split at hexc
    next => cases hexc
    next => cases hexc; decide
  have hdecodes : Decodes emptyObjectLoads emptyObjectFile := by
    intro _ _
    constructor
    · intro exc hexc
      cases hexc
    · intro text exc htext hexc
      cases htext
      cases hexc
  have hiff := policy_loading_iff asciiTables.printable emptyObjectLoads requiresBundleId
    emptyObjectFile hread hloads hvalidate
  exact ⟨hiff.1.2 hdecodes, hiff.2.2 hdecodes⟩

end BasisGateway
