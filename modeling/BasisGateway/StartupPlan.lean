/-
What startup is for: a fixed order of stages, those the configuration needs
run one after another until one fails. A stage announces components as
pending, or provides components, or both; the failure of a stage may be
blamed on a component. Nothing here says how a stage does its work.

The lookups below give every component's state after a run from the stages
that completed and the one that failed, and nothing else.
-/
import Mathlib.Data.List.Nodup
import BasisGateway.Main

namespace BasisGateway

/-- The stages, in the order startup runs them. -/
inductive Stage
  | configuration
  | router
  | auditWriter
  | operationAwareMode
  | evaluationConfig
  | oidc
  | basisLocalToken
  | policy
  | evaluator
  | operationAwareConfig
  | bundle
  | operationAwareEvaluator
  | preflight
  deriving DecidableEq, Repr

namespace Stage

def all : List Stage :=
  [configuration, router, auditWriter, operationAwareMode, evaluationConfig, oidc, basisLocalToken,
    policy, evaluator, operationAwareConfig, bundle, operationAwareEvaluator, preflight]

/-- `m` runs before `n`. -/
def before (m n : Stage) : Prop := m.ctorIdx < n.ctorIdx

instance (m n : Stage) : Decidable (before m n) := inferInstanceAs (Decidable (_ < _))

theorem all_pairwise : all.Pairwise before := by decide

theorem mem_all (n : Stage) : n ∈ all := by cases n <;> decide

/-- The components a stage marks ready when it completes. -/
def provides : Stage → List String
  | configuration => ["configuration_loaded"]
  | auditWriter => [auditWriterComponent]
  | operationAwareMode => ["operation_aware_mode_enabled"]
  | oidc => ["oidc_configured", "jwks_available"]
  | basisLocalToken => ["basis_local_token_configured"]
  | policy => ["policy_loaded"]
  | evaluator => ["evaluator_initialized"]
  | bundle => ["operation_aware_bundle_loaded"]
  | operationAwareEvaluator => ["operation_aware_evaluator_initialized"]
  | preflight => ["operation_aware_policy_semantically_valid"]
  | router | evaluationConfig | operationAwareConfig => []

/-- The components a stage announces as pending, with the reason, before it provides its own. -/
def announces : Stage → List (String × String)
  | operationAwareMode =>
    [("operation_aware_bundle_loaded",
        "Operation-aware policy bundle not yet loaded (operation-aware startup pending)"),
      ("operation_aware_evaluator_initialized",
        "Operation-aware evaluator not yet constructed (operation-aware startup pending)"),
      ("operation_aware_policy_semantically_valid",
        "Operation-aware startup semantic preflight not yet run " ++ "(operation-aware startup pending)")]
  | _ => []

/-- Whether a configuration needs a stage. -/
def neededBy (config : GatewayConfig) : Stage → Bool
  | configuration | router | evaluationConfig => true
  | auditWriter => config.needsAuditWriter
  | oidc => config.authMode = .oidc && truthy config.oidcIssuer
  | basisLocalToken => config.authMode = .basisLocalToken
  | policy | evaluator => truthy config.policyPath
  | operationAwareMode | operationAwareConfig | bundle | operationAwareEvaluator | preflight =>
    config.operationAwareEnabled

/-- The components a stage announces, without the reasons. -/
def announced (n : Stage) : List String := n.announces.map Prod.fst

/-- The tracker after the stage completed. -/
def mark (n : Stage) (rs : ReadinessState) : ReadinessState :=
  n.provides.foldl (fun rs c => rs.markReady c) (n.announces.foldl (fun rs p => rs.markNotReady p.2 p.1) rs)

/-- The state of `c` after the stage completed, when `before` it was `o`. -/
def status (c : String) (o : Option Bool) (n : Stage) : Option Bool :=
  if c ∈ n.provides then some true else if c ∈ n.announced then some false else o

theorem get?_foldl_markReady (c : String) : ∀ (l : List String) (rs : ReadinessState),
    (l.foldl (fun rs c => rs.markReady c) rs).components.get? c =
      if c ∈ l then some true else rs.components.get? c
  | [], rs => by simp
  | d :: l, rs => by
    rw [List.foldl_cons, get?_foldl_markReady c l]
    by_cases hd : c = d <;> by_cases hl : c ∈ l <;> simp [hd, hl, OrderedDict.get?_set]

theorem get?_foldl_markNotReady (c : String) : ∀ (l : List (String × String)) (rs : ReadinessState),
    (l.foldl (fun rs p => rs.markNotReady p.2 p.1) rs).components.get? c =
      if c ∈ l.map Prod.fst then some false else rs.components.get? c
  | [], rs => by simp
  | d :: l, rs => by
    rw [List.foldl_cons, get?_foldl_markNotReady c l]
    by_cases hd : c = d.1 <;> by_cases hl : c ∈ l.map Prod.fst <;> simp [hd, hl, OrderedDict.get?_set]

theorem get?_mark (n : Stage) (rs : ReadinessState) (c : String) :
    (n.mark rs).components.get? c = n.status c (rs.components.get? c) := by
  rw [mark, get?_foldl_markReady, get?_foldl_markNotReady]
  rfl

/-- What a stage provides no later stage announces as pending. -/
theorem not_announced_after {m n : Stage} (h : m.before n) {c : String} (hc : c ∈ m.provides) :
    c ∉ n.announced := by
  cases n with
  | operationAwareMode =>
    cases m <;> first
      | exact absurd h (by decide)
      | simp_all [provides, announced, announces, auditWriterComponent]
  | _ => simp [announced, announces]

/-- A component is provided by one stage. -/
theorem eq_of_provides {m n : Stage} {c : String} (hm : c ∈ m.provides) (hn : c ∈ n.provides) : m = n := by
  cases m <;> cases n <;> simp_all [provides, auditWriterComponent]

end Stage

/-- Why a stage failed, and the component it is blamed on. -/
structure StageFailure where
  exc : PyExc
  blames : Option String

/-- Which stages run, and what each does: update `app.state`, or fail. -/
structure StartupPlan (P : Parts) where
  enabled : Stage → Bool
  outcome : Stage → Except StageFailure (AppState P → AppState P)

namespace StartupPlan

variable {P : Parts} (plan : StartupPlan P)

/-- The stages of `ns` that run and complete before the first failure. -/
def completed : List Stage → List Stage
  | [] => []
  | n :: ns =>
    if plan.enabled n then
      match plan.outcome n with
      | .ok _ => n :: completed ns
      | .error _ => []
    else completed ns

/-- The first stage of `ns` that fails, and its failure. -/
def failure : List Stage → Option (Stage × StageFailure)
  | [] => none
  | n :: ns =>
    if plan.enabled n then
      match plan.outcome n with
      | .ok _ => failure ns
      | .error fl => some (n, fl)
    else failure ns

/-- The gateway after a stage failed. -/
def blame (fl : StageFailure) (g : Gateway P) : Gateway P :=
  match fl.blames with
  | some component => { g with readiness := g.readiness.markNotReady fl.exc.msg component }
  | none => g

/-- The stages `ns`, run until one fails. -/
def runStages : List Stage → Gateway P → Except PyExc Unit × Gateway P
  | [], g => (.ok (), g)
  | n :: ns, g =>
    if plan.enabled n then
      match plan.outcome n with
      | .ok update => runStages ns ⟨n.mark g.readiness, update g.app⟩
      | .error fl => (.error fl.exc, blame fl g)
    else runStages ns g

/-- A failed run is noted on the whole when no component is down for it. -/
def settle : Except PyExc Unit × Gateway P → Gateway P
  | (.ok _, g) => g
  | (.error exc, g) =>
    if g.readiness.components.all id then { g with readiness := g.readiness.markNotReady exc.msg "app" }
    else g

/-- The gateway after a whole startup. -/
def run (g : Gateway P) : Gateway P := settle (plan.runStages Stage.all g)

/-- `app.state` after a stage that completed. -/
def updateApp (app : AppState P) (n : Stage) : AppState P :=
  match plan.outcome n with
  | .ok update => update app
  | .error _ => app

/-- Every stage that runs completes. -/
def AllComplete : Prop := ∀ n, plan.enabled n = true → (plan.outcome n).isOk = true

/-! ## Completed stages -/

variable {plan}

theorem completed_sublist : ∀ ns, (plan.completed ns).Sublist ns
  | [] => .slnil
  | n :: ns => by
    rw [completed]
    split
    · split
      · exact (completed_sublist ns).cons_cons n
      · exact List.nil_sublist _
    · exact (completed_sublist ns).cons n

theorem enabled_of_completed {n : Stage} : ∀ {ns}, n ∈ plan.completed ns →
    plan.enabled n = true ∧ (plan.outcome n).isOk = true
  | m :: ns, h => by
    rw [completed] at h
    split at h
    next hen =>
      split at h
      next u hout =>
        rcases List.mem_cons.1 h with rfl | h
        · exact ⟨hen, by rw [hout]; rfl⟩
        · exact enabled_of_completed h
      next => simp at h
    next => exact enabled_of_completed h

/-- Whatever runs before a completed stage has completed. -/
theorem completed_of_before {m n : Stage} : ∀ {ns : List Stage}, ns.Pairwise Stage.before →
    n ∈ plan.completed ns → m ∈ ns → m.before n → plan.enabled m = true → m ∈ plan.completed ns
  | k :: ns, hp, hn, hm, hb, hen => by
    rw [List.pairwise_cons] at hp
    have hlt : ∀ {l}, l ∈ ns → ¬ l.before k := fun hl hlk => by
      have := hp.1 _ hl
      simp only [Stage.before] at this hlk
      omega
    rw [completed] at hn ⊢
    split at hn
    next hk =>
      rw [if_pos hk]
      split at hn
      next u hout =>
        simp only [List.mem_cons] at hn hm ⊢
        rcases hm with rfl | hm
        · exact .inl rfl
        rcases hn with rfl | hn
        · exact absurd hb (hlt hm)
        · exact .inr (completed_of_before hp.2 hn hm hb hen)
      next => simp at hn
    next hk =>
      rw [if_neg hk]
      rcases List.mem_cons.1 hm with rfl | hm
      · exact absurd hen hk
      · exact completed_of_before hp.2 hn hm hb hen

/-- Without a failure, every stage that runs has completed. -/
theorem completed_of_failure_none {n : Stage} : ∀ {ns}, plan.failure ns = none → n ∈ ns →
    plan.enabled n = true → n ∈ plan.completed ns
  | m :: ns, hf, hm, hen => by
    rw [failure] at hf
    rw [completed]
    split at hf
    next hk =>
      rw [if_pos hk]
      split at hf
      next u hout =>
        rcases List.mem_cons.1 hm with rfl | hm
        · exact List.mem_cons_self
        · exact List.mem_cons_of_mem _ (completed_of_failure_none hf hm hen)
      next => cases hf
    next hk =>
      rw [if_neg hk]
      rcases List.mem_cons.1 hm with rfl | hm
      · exact absurd hen hk
      · exact completed_of_failure_none hf hm hen

theorem failure_eq_some {n : Stage} {fl : StageFailure} : ∀ {ns}, plan.failure ns = some (n, fl) →
    n ∈ ns ∧ plan.enabled n = true ∧ plan.outcome n = .error fl
  | m :: ns, h => by
    rw [failure] at h
    split at h
    next hen =>
      split at h
      next u hout =>
        obtain ⟨hm, hrest⟩ := failure_eq_some h
        exact ⟨List.mem_cons_of_mem _ hm, hrest⟩
      next fl' hout =>
        cases h
        exact ⟨List.mem_cons_self, hen, hout⟩
    next =>
      obtain ⟨hm, hrest⟩ := failure_eq_some h
      exact ⟨List.mem_cons_of_mem _ hm, hrest⟩

theorem allComplete_iff : plan.AllComplete ↔ plan.failure Stage.all = none := by
  constructor
  · intro h
    rcases hf : plan.failure Stage.all with - | ⟨n, fl⟩
    · rfl
    obtain ⟨-, hen, hout⟩ := failure_eq_some hf
    simpa [hout, Except.isOk, Except.toBool] using h n hen
  · intro h n hen
    exact (enabled_of_completed (completed_of_failure_none h n.mem_all hen)).2

/-! ## The state a run leaves -/

theorem get?_blame (c : String) (fl : StageFailure) (g : Gateway P) :
    (blame fl g).readiness.components.get? c =
      if fl.blames = some c then some false else g.readiness.components.get? c := by
  rcases fl with ⟨exc, _ | d⟩
  · rfl
  · by_cases hd : d = c
    · simp [blame, hd]
    · simp [blame, OrderedDict.get?_set, hd, Ne.symm hd]

/-- The states of a component after a run of stages, before the failure is noted. -/
theorem get?_runStages (c : String) : ∀ (ns : List Stage) (g : Gateway P),
    (plan.runStages ns g).2.readiness.components.get? c =
      if ((plan.failure ns).bind fun f => f.2.blames) = some c then some false
      else (plan.completed ns).foldl (Stage.status c) (g.readiness.components.get? c)
  | [], g => by simp [runStages, failure, completed]
  | n :: ns, g => by
    rw [runStages, failure, completed]
    split
    next hen =>
      split
      next u hout =>
        rw [get?_runStages c ns, List.foldl_cons, Stage.get?_mark]
      next fl hout =>
        exact get?_blame c fl g
    next => exact get?_runStages c ns g

/-- A run fails exactly when one of its stages does. -/
theorem runStages_fst : ∀ (ns : List Stage) (g : Gateway P),
    (plan.runStages ns g).1 = match plan.failure ns with
      | none => .ok ()
      | some f => .error f.2.exc
  | [], g => rfl
  | n :: ns, g => by
    rw [runStages, failure]
    split
    · split
      · exact runStages_fst ns _
      · rfl
    · exact runStages_fst ns g

/-- `app.state` after a run: updated by the stages that completed. -/
theorem app_runStages : ∀ (ns : List Stage) (g : Gateway P),
    (plan.runStages ns g).2.app = (plan.completed ns).foldl plan.updateApp g.app
  | [], g => rfl
  | n :: ns, g => by
    rw [runStages, completed]
    split
    · split
      next u hout =>
        rw [app_runStages ns, List.foldl_cons, updateApp, hout]
      next fl hout =>
        simp only [blame, List.foldl_nil]
        split <;> rfl
    · exact app_runStages ns g

end StartupPlan

end BasisGateway
