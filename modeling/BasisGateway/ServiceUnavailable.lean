/-
Why a gateway answers 503. Strict mode suspends evaluation, or the evaluator
of the endpoint is not there, which the readiness tracker says as well. The
third way, a bundle that fails its semantic validation in the kernel, is
closed by the preflight: no evaluator is served whose bundle could.
-/
import BasisGateway.Deployment

namespace BasisGateway

open Script Tasks
open Except (Raises raises_ok)

/-! ## Answers of status 503 -/

/-- An early answer of this status says that the evaluator is not there. -/
def Exit.Explains (correlationId : String) (exit : Exit) : Prop :=
  ∀ response, exit = .answered response → response.statusCode = 503 →
    response = evaluatorUnavailable correlationId

theorem explains_of_codes {codes : List String} {correlationId : String} {α : Type} {S : Script Effect Exit α}
    (hcodes : ∀ code ∈ codes, errorStatus code ≠ 503) (h : StopsOnly (Exit.Says codes) S) :
    StopsOnly (Exit.Explains correlationId) S := by
  intro exit hexit response hresponse hstatus
  obtain ⟨code, hcode, -, hcodeStatus⟩ := h exit hexit response hresponse
  exact absurd (hcodeStatus.symm.trans hstatus) (hcodes code hcode)

/-- A gate that refuses with an absent evaluator alone. -/
theorem explains_of_refuses {α : Type} {gate : Gate α} {correlationId : String} {event : AuditEvent}
    (h : ∀ stop, gate = .error stop → stop.Refuses event (evaluatorUnavailable correlationId)) :
    StopsOnly (Exit.Explains correlationId) gate.script := by
  intro exit hexit response hresponse _
  rcases gate with stop | a
  · cases hexit
    cases (h stop rfl).2.symm.trans hresponse
    rfl
  · cases hexit

namespace Evaluate

variable (app : App) (req : Request)

theorem explains_admissionScript : StopsOnly (Exit.Explains req.correlationId) (admissionScript app req) :=
  (StopsOnly.perform _).bind fun _ _ =>
  (explains_of_codes (by decide) (says_script says_body)).bind fun request _ =>
  (explains_of_codes (by decide) (says_script (says_compose request))).bind fun _ _ =>
  (explains_of_codes (by decide) (says_script says_bearer)).bind fun token _ =>
  (StopsOnly.perform _).bind fun _ _ =>
  (explains_of_codes (by decide) (says_script (says_authentication token))).bind fun identity _ =>
  (explains_of_refuses fun _ hstop => presentEvaluator_error hstop).bind fun _ _ => .pure _

theorem explains_script : StopsOnly (Exit.Explains req.correlationId) (script app req) :=
  (explains_admissionScript app req).bind fun a _ => explains_of_codes (by decide) (says_decideScript a)

theorem statusCode_of_ok {response : JSONResponse} (h : (script app req).result = .ok response) :
    response.statusCode ≠ 503 := by
  simp only [script, decideScript, result_bind, Except.bind_eq_ok] at h
  obtain ⟨a, -, -, -, -, -, outcome, -, decision, -, hresponse⟩ := h
  cases hresponse
  rcases decisionResponse_statusCode decision req.correlationId with h | h
  · rw [h]
    decide
  · rw [h]
    decide

end Evaluate

namespace OperationAware

variable (app : App) (req : Request) (present : Bool)

theorem presentEvaluator_error {subject : NormalizedSubject} {stop : Stop}
    (h : presentEvaluator app req subject = .error stop) :
    stop.Refuses (event req OperationAwareEvents.evaluatorUnavailable (some Reason.evaluatorNotInitialized)
      (some 503) (some subject.subjectId)) (BasisGateway.evaluatorUnavailable req.correlationId) := by
  unfold presentEvaluator at h
  split at h
  next => cases h
  next => exact refuses_of_refuse h

theorem explains_admissionScript : StopsOnly (Exit.Explains req.correlationId) (admissionScript app req) :=
  (StopsOnly.perform _).bind fun _ _ =>
  (explains_of_codes (by decide) (says_script says_body)).bind fun request _ =>
  (explains_of_codes (by decide) (says_script says_bearer)).bind fun token _ =>
  (StopsOnly.perform _).bind fun _ _ =>
  (explains_of_codes (by decide) (says_script (says_authentication token))).bind fun identity _ =>
  (explains_of_codes (by decide) (says_script (says_producerTrust identity.1))).bind fun trust _ =>
  (explains_of_codes (by decide)
    (says_script (says_composition request identity.1 identity.2 trust))).bind fun _ _ =>
  (explains_of_refuses fun _ hstop => presentEvaluator_error app req hstop).bind fun _ _ => .pure _

theorem explains_script : StopsOnly (Exit.Explains req.correlationId) (script app req present) :=
  (explains_admissionScript app req).bind fun a _ =>
    explains_of_codes (by decide) (says_decideScript present a)

/-- The evaluator of an admitted request is the application's. -/
theorem evaluator_of_admission {a : Admitted} (h : (admissionScript app req).result = .ok a) :
    app.operationAwareEvaluator = some a.evaluator := by
  rcases admissionScript_cases app req with ⟨through, hthrough, hS⟩ | ⟨before, stop, -, hS⟩
  · rw [hS] at h
    cases h
    exact presentEvaluator_ok hthrough.evaluator
  · rw [hS] at h
    cases h

/-- What is returned at the end has the status of a result of the evaluator. -/
theorem result_of_ok {response : JSONResponse} (h : (script app req present).result = .ok response) :
    ∃ evaluator call result, app.operationAwareEvaluator = some evaluator ∧
      evaluator.enforcementPoint call = .ok result ∧ response.statusCode = result.httpStatus := by
  simp only [script, decideScript, result_bind, Except.bind_eq_ok] at h
  obtain ⟨a, hadmitted, -, -, outcome, hran, result, hresult, -, -, hresponse⟩ := h
  cases hresponse
  have houtcome : outcome = .ok result := by
    cases outcome with
    | ok decided =>
      cases hresult
      rfl
    | error exc =>
      simp only [evaluated] at hresult
      split at hresult <;> cases hresult
  subst houtcome
  unfold OperationAwareGatewayEvaluator.script at hran
  cases hcall : a.composed.kernelCall app.models app.printable req.readings with
  | error exc =>
    rw [hcall] at hran
    cases hran
  | ok call =>
    rw [hcall] at hran
    exact ⟨a.evaluator, call, result, evaluator_of_admission app req hadmitted, Except.ok.inj hran, rfl⟩

end OperationAware

/-! ## Every run -/

/-- The endpoint's script ends in a 503 for want of its evaluator, or for a result of it that says so. -/
theorem Endpoint.explained {endpoint : Endpoint} {app : App} {req : Request} {present : Bool}
    {response : JSONResponse}
    (h : answerOf (endpoint.script app req present).result = .ok response) (hstatus : response.statusCode = 503) :
    response = evaluatorUnavailable req.correlationId ∨
      ∃ evaluator call result, app.operationAwareEvaluator = some evaluator ∧
        evaluator.enforcementPoint call = .ok result ∧ result.PolicyInvalid := by
  rcases hresult : (endpoint.script app req present).result with exit | returned
  · left
    rw [hresult] at h
    rcases exit with answered | exc
    · cases h
      cases endpoint with
      | evaluate => exact Evaluate.explains_script app req _ hresult response rfl hstatus
      | operationAware => exact OperationAware.explains_script app req present _ hresult response rfl hstatus
    · cases h
  · rw [hresult] at h
    cases h
    cases endpoint with
    | evaluate => exact absurd hstatus (Evaluate.statusCode_of_ok app req hresult)
    | operationAware =>
      obtain ⟨evaluator, call, result, hevaluator, hcall, hcode⟩ :=
        OperationAware.result_of_ok app req present hresult
      exact .inr ⟨evaluator, call, result, hevaluator, hcall, httpStatus_eq_503_iff.1 (hcode.symm.trans hstatus)⟩

namespace Deployment

variable {JWK Bundle : Type} {tables : UnicodeTables} (d : Deployment JWK Bundle tables)

/-- The kernel library: the bundle is validated first in each evaluation. -/
def ValidatesBundles : Prop :=
  ∀ bundle point, d.forBundle bundle = .ok point → ∃ valid, ValidatesFirst point valid

variable {d}

/-- No evaluator that is served finds its bundle invalid. -/
theorem not_policyInvalid_of_served (hkernel : d.ValidatesBundles) {evaluator : OperationAwareGatewayEvaluator}
    (hserved : (freshStartup d.steps).app.operationAwareEvaluator = some evaluator)
    {call : OperationAwareKernelCall} {result : OperationAwareEnforcementResult}
    (hresult : evaluator.enforcementPoint call = .ok result) : ¬ result.PolicyInvalid := by
  obtain ⟨settings, point, completed, -, -, hpoint, rfl, hpassed⟩ := operationAwareEvaluator_of_started hserved
  obtain ⟨bundle, -, hbundle⟩ : ∃ bundle, d.bundle settings = .ok bundle ∧ d.forBundle bundle = .ok point :=
    Except.bind_eq_ok.1 hpoint
  obtain ⟨valid, hfirst⟩ := hkernel bundle point hbundle
  exact not_policyInvalid_of_preflight hfirst hpassed hresult

end Deployment

section

variable {JWK DateTime Bundle : Type} (lib : DocumentedTokenLibrary JWK DateTime) (outside : App)

/-- **A 503 is explained**: a deployment is started on a fresh process, and serves any requests that are routed to
a handler, in any interleaving. A request is answered 503 in strict mode, with evaluation suspended, or because
the component of its evaluator is not ready; the failures of an invalid bundle never come to an answer. -/
theorem service_unavailable_explained (d : Deployment JWK Bundle lib.tables) (hkernel : d.ValidatesBundles)
    (pipeline : AuditPipeline) (requests : List (Endpoint × Request)) (schedule : List Nat) :
    let started := freshStartup d.steps
    let app := outside.servedBy lib.toTokenLibrary started.app
    let final := (handlers app).run (boot (started.serving pipeline) requests) schedule
    ∀ task response asked, (task, .done (.ok response, asked)) ∈ final.tasks → response.statusCode = 503 →
      (app.auditFailClosed = true ∧ response = auditFailClosed task.2.correlationId) ∨
      (response = evaluatorUnavailable task.2.correlationId ∧
        ¬ componentReady started task.1.evaluatorComponent) := by
  intro started app final task response asked hm hstatus
  rcases outcome_of_run hm with ⟨hmode, hsuspended⟩ | hscripted
  · exact .inl ⟨hmode, Except.ok.inj (Prod.mk.inj hsuspended).1⟩
  · right
    have hanswer := (Prod.mk.inj hscripted).1
    rcases Endpoint.explained hanswer.symm hstatus with hunavailable | ⟨evaluator, call, result, hserved, hcall,
      hinvalid⟩
    · refine ⟨hunavailable, ?_⟩
      rw [hunavailable] at hanswer
      have hnone := ((Endpoint.unavailable_iff task.1 app task.2 _).1 hanswer.symm).2
      rw [← hasEvaluator_servedBy lib outside d.steps, Bool.not_eq_true]
      exact hnone
    · exact absurd hinvalid (Deployment.not_policyInvalid_of_served hkernel hserved hcall)

end

/-- A kernel that knows of each bundle whether it is valid. -/
def verdictPoint (valid : Bool) : OperationAwareEnforcementPoint :=
  let result (requestId : String) : OperationAwareEnforcementResult :=
    { response :=
        { requestId, correlationId := none, evaluationStatus := if valid then .completed else .failed
          outcome := if valid then some .notApplicable else none
          failureReason := if valid then none else some .policyValidationFailure, bundleId := none
          bundleVersion := none, traceId := none, reasonCode := none, explanation := none, evaluationTrace := none }
      auditEvidence := none
      disposition := .deny }
  { evaluate := fun call => .ok (result call.request.requestId)
    evaluatePreflight := fun call => .ok (result call.requestId) }

/-- Operation-aware evaluation in strict mode, on a valid bundle. -/
def strictDeployment : Deployment Unit Bool asciiTables where
  loadConfig := .ok
    { toGatewayConfig :=
        { brittleConfig with
          oidcIssuer := none
          policyPath := none
          operationAwareEnabled := true
          operationAwarePolicyBundlePath := some "bundle.json" } }
  network :=
    { get := fun _ => .error { cls := .osError, msg := "" }
      httpError := fun _ => true
      pyJWKClient := fun _ _ => .ok { getSigningKeyFromJwt := fun _ => .ok () }
      fetchData := fun _ => .ok () }
  jsonLoads _ := .ok (.obj [])
  file path := { path, present := true, isFile := true, readText := .ok "" }
  modelValidate _ := .ok true
  enforcementPoint _ _ := .error { cls := .valueError, msg := "" }
  forBundle valid := .ok (verdictPoint valid)
  preflightTime := 0

theorem validatesBundles_strictDeployment : strictDeployment.ValidatesBundles := by
  intro valid point h
  cases h
  refine ⟨valid, fun call result hresult => ?_, fun call result hresult => ?_⟩
  all_goals
    cases hresult
    cases valid with
    | true => simp [OperationAwareEnforcementResult.PolicyInvalid]
    | false => rfl

/-- The theorem at two requests on a sink that is down: the second is answered 503. -/
theorem service_unavailable_explained_suspended :
    let started := freshStartup strictDeployment.steps
    let app := permissiveApp.servedBy sampleLibrary.toTokenLibrary started.app
    let final := (handlers app).run (boot (started.serving sinkDown)
      [(.evaluate, bearerRequest), (.operationAware, secondRequest)]) [0, 0, 1]
    (final.tasks[1]?.any fun task => match task.2 with
      | .done (.ok response, _) => response.statusCode == 503
      | _ => false) = true ∧
    ∀ task response asked, (task, .done (.ok response, asked)) ∈ final.tasks → response.statusCode = 503 →
      (app.auditFailClosed = true ∧ response = auditFailClosed task.2.correlationId) ∨
      (response = evaluatorUnavailable task.2.correlationId ∧
        ¬ componentReady started task.1.evaluatorComponent) :=
  ⟨by decide +kernel, service_unavailable_explained sampleLibrary permissiveApp strictDeployment
    validatesBundles_strictDeployment sinkDown [(.evaluate, bearerRequest), (.operationAware, secondRequest)]
    [0, 0, 1]⟩

end BasisGateway
