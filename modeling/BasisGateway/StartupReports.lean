/-
What the readiness tracker says of a startup that failed. A failure with a
component of its own is reported there. Without one it is reported on "app";
but where operation-aware components are pending, "app" is left alone, and
all that the tracker says is that they are pending.

Of the failures of OIDC initialization these are the ones that are no
`OIDCDiscoveryError` and no `JWKSFetchError`: what `httpx` raises besides
`HTTPError`, and a discovery document that is JSON but no object.
-/
import BasisGateway.Deployment

namespace BasisGateway

open Except (Raises raises_ok raises_error_iff raises_bind_iff raises_mapError_iff raises_guard)

/-! ## Failures without a component -/

/-- What is announced stays pending until it is provided. -/
theorem Stage.foldl_status_of_announced {c : String} : ∀ {ns : List Stage} {o : Option Bool},
    (∀ m ∈ ns, c ∉ m.provides) → (o = some false ∨ ∃ n ∈ ns, c ∈ n.announced) →
      ns.foldl (Stage.status c) o = some false
  | [], o, _, h => by simpa using h
  | m :: ns, o, hnot, h => by
    rw [List.foldl_cons]
    refine foldl_status_of_announced (fun k hk => hnot k (List.mem_cons_of_mem _ hk)) ?_
    rw [Stage.status, if_neg (hnot m (List.mem_cons_self ..))]
    by_cases hm : c ∈ m.announced
    · exact .inl (if_pos hm)
    · rw [if_neg hm]
      simpa [hm] using h

/-- Whatever is down is down as announced: pending, for the reason it was announced with. -/
def ReadinessState.OnlyAnnounced (rs : ReadinessState) : Prop :=
  ∀ c, rs.components.get? c = some false →
    ∃ reason, (c, reason) ∈ Stage.operationAwareMode.announces ∧ rs.reasons.get? c = some reason

namespace ReadinessState.OnlyAnnounced

variable {rs : ReadinessState}

theorem markReady (h : rs.OnlyAnnounced) (c : String) : (rs.markReady c).OnlyAnnounced := by
  intro c' hc'
  by_cases hc : c' = c
  · subst hc
    simp at hc'
  · rw [markReady_components, OrderedDict.get?_set_ne _ _ hc] at hc'
    simpa [OrderedDict.get?_erase, hc] using h c' hc'

theorem markNotReady (h : rs.OnlyAnnounced) {c reason : String}
    (hmem : (c, reason) ∈ Stage.operationAwareMode.announces) : (rs.markNotReady reason c).OnlyAnnounced := by
  intro c' hc'
  by_cases hc : c' = c
  · subst hc
    exact ⟨reason, hmem, by simp⟩
  · rw [markNotReady_components, OrderedDict.get?_set_ne _ _ hc] at hc'
    simpa [OrderedDict.get?_set, hc] using h c' hc'

theorem mark (h : rs.OnlyAnnounced) (n : Stage) : (n.mark rs).OnlyAnnounced := by
  have hannounces : ∀ pair ∈ n.announces, pair ∈ Stage.operationAwareMode.announces := by
    cases n with
    | operationAwareMode => exact fun _ hmem => hmem
    | _ => simp [Stage.announces]
  have hpending : (n.announces.foldl (fun rs pair => rs.markNotReady pair.2 pair.1) rs).OnlyAnnounced :=
    List.foldlRecOn _ _ h fun _ hacc pair hpair => hacc.markNotReady (hannounces pair hpair)
  exact List.foldlRecOn _ _ hpending fun _ hacc c _ => hacc.markReady c

end ReadinessState.OnlyAnnounced

namespace StartupPlan

variable {P : Parts} {plan : StartupPlan P}

theorem runStages_of_unblamed {n : Stage} {fl : StageFailure} (hb : fl.blames = none) :
    ∀ (ns : List Stage) (g : Gateway P), plan.failure ns = some (n, fl) → g.readiness.OnlyAnnounced →
      (plan.runStages ns g).1 = .error fl.exc ∧ (plan.runStages ns g).2.readiness.OnlyAnnounced := by
  intro ns
  induction ns with
  | nil =>
    intro g hf _
    cases hf
  | cons m ns ih =>
    intro g hf hg
    rw [failure] at hf
    rw [runStages]
    by_cases hm : plan.enabled m = true
    · rw [if_pos hm] at hf ⊢
      cases hout : plan.outcome m with
      | ok update =>
        rw [hout] at hf
        exact ih _ hf (hg.mark m)
      | error fl' =>
        rw [hout] at hf
        cases hf
        simpa [blame, hb] using hg
    · rw [if_neg hm] at hf ⊢
      exact ih g hf hg

/-- Nothing is pending unless the operation-aware mode was announced. -/
theorem all_runStages_of_unblamed {n : Stage} {fl : StageFailure} (hb : fl.blames = none)
    (hf : plan.failure Stage.all = some (n, fl)) (hmode : .operationAwareMode ∉ plan.reachedStages) :
    (plan.runStages Stage.all (.fresh P)).2.readiness.components.all id = true := by
  rw [OrderedDict.all_eq_true_iff]
  intro c v hget
  rw [get?_runStages, hf, Option.bind_some, hb, if_neg (by simp)] at hget
  cases v with
  | true => rfl
  | false =>
    rcases Stage.foldl_status_eq_false hget with ⟨m, hm, hc⟩ | hfresh
    · cases m with
      | operationAwareMode => exact absurd hm hmode
      | _ => simp [Stage.announced, Stage.announces] at hc
    · simp [Gateway.fresh] at hfresh

/-- A failure that no component is blamed for is reported on "app", or on nothing: the pending components hide
it. -/
theorem run_of_unblamed {n : Stage} {fl : StageFailure} (hb : fl.blames = none)
    (hf : plan.failure Stage.all = some (n, fl)) :
    (.operationAwareMode ∉ plan.reachedStages →
      (plan.run (.fresh P)).readiness.components.get? "app" = some false ∧
      (plan.run (.fresh P)).readiness.reasons.get? "app" = some fl.exc.msg) ∧
    (.operationAwareMode ∈ plan.reachedStages → (plan.run (.fresh P)).readiness.OnlyAnnounced) := by
  have hfresh : (Gateway.fresh P).readiness.OnlyAnnounced := by
    intro c hc
    simp [Gateway.fresh] at hc
  obtain ⟨herr, hannounced⟩ := runStages_of_unblamed hb Stage.all _ hf hfresh
  have hrun : plan.run (.fresh P) = settle (.error fl.exc, (plan.runStages Stage.all (.fresh P)).2) := by
    rw [run, ← herr]
  constructor
  · intro hmode
    rw [hrun, settle, if_pos (all_runStages_of_unblamed hb hf hmode)]
    simp
  · intro hmode
    -- the preflight is the last stage, so its component is still pending
    have hpending : (plan.runStages Stage.all (.fresh P)).2.readiness.components.get?
        "operation_aware_policy_semantically_valid" = some false := by
      rw [get?_runStages, hf, Option.bind_some, hb, if_neg (by simp)]
      refine Stage.foldl_status_of_announced (fun m hm hc => ?_)
        (.inr ⟨_, hmode, by simp [Stage.announced, Stage.announces]⟩)
      have hlast : m = .preflight := Stage.eq_of_provides hc (by simp [Stage.provides])
      subst hlast
      have hbefore := before_of_failure Stage.all_pairwise hf hm
      cases n <;> exact absurd hbefore (by decide)
    have hnotAll : (plan.runStages Stage.all (.fresh P)).2.readiness.components.all id = false := by
      rw [Bool.eq_false_iff]
      intro htrue
      have hid := (OrderedDict.all_eq_true_iff _ _).1 htrue _ false hpending
      cases hid
    rw [hrun, settle, hnotAll]
    exact hannounced

end StartupPlan

/-! ## Discovery that fails -/

/-- `httpx` raises none of the gateway's exceptions. -/
def Network.ForeignErrors {JWK : Type} (network : Network JWK) : Prop :=
  ∀ url, Raises (fun exc => exc.isInstance .authenticationError = false) (network.get url)

/-- `exc` leaves discovery as it is: it is no `HTTPError`, or comes of a document that is no object. -/
inductive EscapesDiscovery {JWK : Type} (network : Network JWK) (issuer : String) : PyExc → Prop
  | request {exc : PyExc} (hget : network.get (discoveryUrl issuer) = .error exc)
      (hother : network.httpError exc = false) : EscapesDiscovery network issuer exc
  | document {metadata : Json} (hget : network.get (discoveryUrl issuer) = .ok (.ok metadata))
      (hobject : ∀ fields, metadata ≠ .obj fields) : EscapesDiscovery network issuer (noAttributeGet metadata)

section

variable {JWK : Type} {network : Network JWK} {printable : Char → Bool} {issuer : String}

theorem EscapesDiscovery.foreign {exc : PyExc} (hforeign : network.ForeignErrors)
    (h : EscapesDiscovery network issuer exc) : exc.isInstance .authenticationError = false := by
  cases h with
  | request hget _ => exact hforeign _ exc hget
  | document _ _ => rfl

theorem raises_discover :
    Raises (fun exc => exc.cls = .oidcDiscoveryError ∨ EscapesDiscovery network issuer exc)
      (discoverJwksUri.discover network printable issuer) := by
  rw [discoverJwksUri.discover, raises_bind_iff]
  constructor
  · rw [fetchMetadata]
    cases hget : network.get (discoveryUrl issuer) with
    | error exc =>
      by_cases hhttp : network.httpError exc = true
      · simp only [hhttp, if_true]
        exact raises_error_iff.2 (.inl rfl)
      · simp only [hhttp, Bool.false_eq_true, if_false]
        exact raises_error_iff.2 (.inr (.request hget (by simpa using hhttp)))
    | ok json =>
      rw [raises_mapError_iff]
      exact fun _ _ => .inl rfl
  · intro metadata hmetadata
    rw [fetchMetadata_eq_ok] at hmetadata
    cases metadata with
    | obj fields =>
      have hmismatch (discovered : Json) : Raises (fun exc => exc.cls = .oidcDiscoveryError ∨
          EscapesDiscovery network issuer exc) (jwksUriOf.mismatch printable issuer discovered) :=
        raises_error_iff.2 (.inl rfl)
      have hmissing : Raises (fun exc => exc.cls = .oidcDiscoveryError ∨ EscapesDiscovery network issuer exc)
          (jwksUriOf.missing printable issuer) := raises_error_iff.2 (.inl rfl)
      have hnamed : Raises (fun exc => exc.cls = .oidcDiscoveryError ∨ EscapesDiscovery network issuer exc)
          (jwksUriOf.named printable issuer fields) := by
        rw [jwksUriOf.named]
        cases Json.get? "jwks_uri" fields with
        | none => exact hmissing
        | some value =>
          simp only
          split
          next => exact hmissing
          next => exact raises_ok _
      simp only [jwksUriOf]
      cases Json.get? "issuer" fields with
      | none => exact hmismatch .null
      | some discovered =>
        cases discovered with
        | str s =>
          simp only
          split
          next => exact hmismatch (.str s)
          next => exact hnamed
        | _ => exact hmismatch _
    | _ =>
      refine raises_error_iff.2 (.inr (.document hmetadata ?_))
      intro fields hfields
      cases hfields

/-- What discovery raises: its own error, or what escapes it. An override asks nothing. -/
theorem raises_discoverJwksUri (override : Option String) :
    Raises (fun exc => exc.cls = .oidcDiscoveryError ∨
        (truthy override = false ∧ EscapesDiscovery network issuer exc))
      (discoverJwksUri network printable issuer override) := by
  have hdiscover (hoff : truthy override = false) : Raises (fun exc => exc.cls = .oidcDiscoveryError ∨
      (truthy override = false ∧ EscapesDiscovery network issuer exc))
      (discoverJwksUri.discover network printable issuer) :=
    fun exc hexc => (raises_discover exc hexc).imp_right fun h => ⟨hoff, h⟩
  cases override with
  | none => exact hdiscover rfl
  | some uri =>
    rw [discoverJwksUri]
    split
    next => exact raises_ok uri
    next h =>
      refine hdiscover ?_
      simpa using h

end

/-! ## Initialization that fails -/

/-- The component is down, for this reason. -/
def ReadinessState.Reports (rs : ReadinessState) (component reason : String) : Prop :=
  rs.components.get? component = some false ∧ rs.reasons.get? component = some reason

section

variable {P : Parts} {steps : StartupSteps P} {config : GatewayConfig}

/-- The mode is announced before anything can fail. -/
theorem operationAwareMode_reached (h : steps.loadConfig = .ok config) :
    .operationAwareMode ∈ steps.plan.reachedStages ↔ config.operationAwareEnabled = true := by
  constructor
  · intro hmem
    have hen := (StartupPlan.enabled_of_completed hmem).1
    rwa [enabled_plan h] at hen
  · intro hen
    rw [StartupSteps.plan_of_ok h]
    by_cases hwriter : config.needsAuditWriter = true
    · simp [StartupPlan.reachedStages, Stage.all, StartupPlan.completed, Stage.neededBy, StartupSteps.outcomeOf, hen,
        hwriter]
    · simp [StartupPlan.reachedStages, Stage.all, StartupPlan.completed, Stage.neededBy, StartupSteps.outcomeOf, hen,
        hwriter]

/-- The failure of a startup whose first failing stage is OIDC's. -/
theorem failure_oidc (h : steps.loadConfig = .ok config) (hmode : config.authMode = .oidc)
    (hissuer : truthy config.oidcIssuer = true)
    (hconfig : checkedWith steps.evaluationConfigFault config.validateEvaluationConfig = .ok ())
    {verifier : P.Verifier} (hverifier : steps.verifierFromConfig = .ok verifier) {exc : PyExc}
    (hfail : steps.verifierInitialize = .error exc) :
    steps.plan.failure Stage.all = some (.oidc, ⟨exc, oidcClauses exc⟩) := by
  have hen : steps.plan.enabled .oidc = true := by
    rw [enabled_plan h]
    simp [Stage.neededBy, hmode, hissuer]
  have hout : steps.plan.outcome .oidc = .error ⟨exc, oidcClauses exc⟩ := by
    rw [outcome_plan h, StartupSteps.outcomeOf, hverifier, hfail]
    rfl
  refine StartupPlan.failure_of_error hen hout Stage.all_pairwise (Stage.mem_all _) fun m hbefore _ => ?_
  rw [outcome_plan h]
  cases m with
  | configuration | router | auditWriter | operationAwareMode => rfl
  | evaluationConfig =>
    rw [StartupSteps.outcomeOf, hconfig]
    rfl
  | _ => exact absurd hbefore (by decide)

/-- A component of the OIDC stage that its failure is not blamed on stays unregistered. -/
theorem unregistered_of_failure_oidc {fl : StageFailure} (hf : steps.plan.failure Stage.all = some (.oidc, fl))
    {c : String} (hc : c ∈ Stage.oidc.provides) (hb : fl.blames ≠ some c) :
    (freshStartup steps).readiness.components.get? c = none := by
  have happ : c ≠ "app" := by
    rintro rfl
    exact (Stage.app_not_provided _).1 hc
  have hblamed : steps.plan.blamed ≠ some c := by
    rw [StartupPlan.blamed, hf]
    exact hb
  rw [freshStartup_eq, StartupPlan.get?_run happ, if_neg hblamed, Stage.foldl_status_of_not_mem]
  · rfl
  · intro m hm
    have hbefore := StartupPlan.before_of_failure Stage.all_pairwise hf hm
    simp only [Stage.provides, List.mem_cons, List.not_mem_nil, or_false] at hc
    cases m with
    | configuration | router | auditWriter | operationAwareMode | evaluationConfig =>
      rcases hc with rfl | rfl <;>
        simp [Stage.provides, Stage.announced, Stage.announces, auditWriterComponent]
    | _ => exact absurd hbefore (by decide)

end

namespace Deployment

variable {JWK Bundle : Type} {tables : UnicodeTables} {d : Deployment JWK Bundle tables} {settings : Settings}

/-- What the tracker says of `exc`, which OIDC initialization raised. -/
inductive OidcFailureReported (d : Deployment JWK Bundle tables) (settings : Settings) (rs : ReadinessState)
    (exc : PyExc) : Prop
  /-- No URI was discovered. -/
  | discovery (hcls : exc.cls = .oidcDiscoveryError) (hreports : rs.Reports "oidc_configured" exc.msg)
      (hother : rs.components.get? "jwks_available" = none)
      (hnone : ¬ ∃ uri, Discovers d.network tables.printable (settings.oidcIssuer.getD "") settings.oidcJwksUri uri)
  /-- The keys of the discovered URI were not fetched. -/
  | keys (hcls : exc.cls = .jwksFetchError) (hreports : rs.Reports "jwks_available" exc.msg)
      (hother : rs.components.get? "oidc_configured" = none)
      (hsome : ∃ uri, Discovers d.network tables.printable (settings.oidcIssuer.getD "") settings.oidcJwksUri uri)
  /-- The exception is neither of the two. -/
  | escaped (hescapes : EscapesDiscovery d.network (settings.oidcIssuer.getD "") exc)
      (hoff : truthy settings.oidcJwksUri = false)
      (hneither : ∀ c ∈ Stage.oidc.provides, rs.components.get? c = none)
      (hwhole : settings.operationAwareEnabled = false → rs.Reports "app" exc.msg)
      (hhidden : settings.operationAwareEnabled = true → rs.OnlyAnnounced)

/-- **What is said of a failed OIDC initialization**: discovery and the keys each on their own component, with
the reason; anything else on "app", or, in operation-aware mode, nowhere. -/
theorem oidc_failure_reported (hforeign : d.network.ForeignErrors) (hload : d.loadConfig = .ok settings)
    (hmode : settings.authMode = .oidc) (hissuer : truthy settings.oidcIssuer = true)
    (hpolicy : truthy settings.policyPath = true) {exc : PyExc}
    (hfail : d.initializedVerifier settings = .error exc) :
    OidcFailureReported d settings (freshStartup d.steps).readiness exc := by
  rw [steps_of_ok hload]
  have hconfig : (d.stepsOf settings).loadConfig = .ok settings.toGatewayConfig := rfl
  have hf : (d.stepsOf settings).plan.failure Stage.all = some (.oidc, ⟨exc, oidcClauses exc⟩) := by
    refine failure_oidc hconfig hmode hissuer ((validateEvaluationConfig_oidc hmode).2 fun _ => hpolicy) rfl ?_
    show (d.initializedVerifier settings).map _ = _
    rw [hfail]
    rfl
  have hblamed {c : String} (hc : oidcClauses exc = some c) :
      (freshStartup (d.stepsOf settings)).readiness.Reports c exc.msg := by
    rw [freshStartup_eq]
    exact StartupPlan.reason_of_failure hc hf _
  have hother {c : String} (hmem : c ∈ Stage.oidc.provides) (hc : oidcClauses exc ≠ some c) :
      (freshStartup (d.stepsOf settings)).readiness.components.get? c = none :=
    unregistered_of_failure_oidc hf hmem hc
  have hclauses (hcls : exc.cls = .oidcDiscoveryError) : oidcClauses exc = some "oidc_configured" := by
    simp [oidcClauses, clause, PyExc.isInstance, hcls, ExcClass.bases]
  have hclauses' (hcls : exc.cls = .jwksFetchError) : oidcClauses exc = some "jwks_available" := by
    simp [oidcClauses, clause, PyExc.isInstance, hcls, ExcClass.bases]
  have hclauses'' (hforeign : exc.isInstance .authenticationError = false) : oidcClauses exc = none := by
    have hnot (cls : ExcClass) (hbase : .authenticationError ∈ cls.bases) : exc.isInstance cls = false := by
      rw [Bool.eq_false_iff]
      intro hinst
      rw [PyExc.isInstance_of_base hinst hbase] at hforeign
      cases hforeign
    simp [oidcClauses, clause, hnot .oidcDiscoveryError (by decide), hnot .jwksFetchError (by decide)]
  rw [initializedVerifier, OIDCVerifierConfig.initialized, Except.bind_eq_error] at hfail
  rcases hfail with hdiscover | ⟨uri, huri, hkeys⟩
  · have hnone : ¬ ∃ uri, Discovers d.network tables.printable (settings.oidcIssuer.getD "")
        settings.oidcJwksUri uri := by
      rintro ⟨uri, hdiscovers⟩
      rw [← discoverJwksUri_eq_ok] at hdiscovers
      rw [verifierFromConfig, hdiscovers] at hdiscover
      cases hdiscover
    rcases raises_discoverJwksUri _ exc hdiscover with hcls | ⟨hoff, hescapes⟩
    · refine .discovery hcls (hblamed (hclauses hcls)) (hother (by simp [Stage.provides]) ?_) hnone
      rw [hclauses hcls]
      simp
    · have hunblamed := hclauses'' (hescapes.foreign hforeign)
      obtain ⟨hwhole, hhidden⟩ := StartupPlan.run_of_unblamed hunblamed hf
      rw [operationAwareMode_reached hconfig, ← freshStartup_eq] at hwhole hhidden
      refine .escaped hescapes hoff (fun c hc => hother hc (by simp [hunblamed])) ?_ hhidden
      intro hen
      exact hwhole (by simp [hen])
  · rw [discoverJwksUri_eq_ok] at huri
    rw [Except.bind_eq_error] at hkeys
    rcases hkeys with hkeys | ⟨client, -, hok⟩
    · obtain ⟨raised, -, rfl⟩ := Except.mapError_eq_error.1 hkeys
      refine .keys rfl (hblamed (hclauses' rfl)) (hother (by simp [Stage.provides]) ?_) ⟨uri, huri⟩
      rw [hclauses' rfl]
      simp
    · cases hok

/-- OIDC and operation-aware evaluation are asked for, and the discovery document is a JSON array. -/
def arrayDocument : Deployment Unit Unit asciiTables where
  loadConfig := .ok
    { oidcIssuer := some "https://issuer", policyPath := some "policy.json", operationAwareEnabled := true
      operationAwarePolicyBundlePath := some "bundle.json" }
  network :=
    { get := fun _ => .ok (.ok (.arr []))
      httpError := fun _ => false
      pyJWKClient := fun _ _ => .ok { getSigningKeyFromJwt := fun _ => .ok () }
      fetchData := fun _ => .ok () }
  jsonLoads _ := .ok (.obj [])
  file path := { path, present := false, isFile := false, readText := .ok "" }
  modelValidate _ := .ok ()
  enforcementPoint _ _ := .error { cls := .valueError, msg := "" }
  forBundle _ := .error { cls := .valueError, msg := "" }
  preflightTime := 0

/-- The theorem there: the failure is reported nowhere. -/
theorem oidc_failure_reported_array : ∃ settings exc, arrayDocument.loadConfig = .ok settings ∧
    OidcFailureReported arrayDocument settings (freshStartup arrayDocument.steps).readiness exc :=
  ⟨_, noAttributeGet (.arr []), rfl,
    oidc_failure_reported (fun _ => raises_ok _) rfl rfl (by decide) (by decide) rfl⟩

end Deployment

end BasisGateway
