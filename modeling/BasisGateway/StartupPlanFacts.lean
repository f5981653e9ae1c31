/-
What a startup plan leaves on a fresh process: which components are ready,
and that the whole is ready when every stage that runs completed.

A plan is `Sound` when it always configures first, provides what it
announces, and blames a failure on a component of the failing stage (or, for
the two checks, on the component the check is about).
-/
import BasisGateway.StartupPlan

namespace BasisGateway

namespace Stage

/-- The components a failure of the stage may be blamed on. -/
def blamable : Stage → List String
  | evaluationConfig => ["configuration_loaded"]
  | operationAwareConfig => ["operation_aware_bundle_loaded"]
  | n => n.provides

/-! ## The state of a component over a run of completed stages -/

/-- No later stage takes back what a stage provided. -/
theorem foldl_status_after {c : String} {n : Stage} (hc : c ∈ n.provides) : ∀ ns : List Stage,
    (∀ m ∈ ns, n.before m) → ns.foldl (status c) (some true) = some true := by
  intro ns
  induction ns with
  | nil => intro _; rfl
  | cons m ns ih =>
    intro hns
    have hm := not_announced_after (hns m List.mem_cons_self) hc
    rw [List.foldl_cons, status, if_neg hm, ite_self]
    exact ih fun k hk => hns k (List.mem_cons_of_mem _ hk)

theorem foldl_status_of_provides {c : String} : ∀ {ns : List Stage} {n : Stage} (o : Option Bool),
    ns.Pairwise before → n ∈ ns → c ∈ n.provides → ns.foldl (status c) o = some true
  | m :: ns, n, o, hp, hn, hc => by
    rw [List.pairwise_cons] at hp
    rw [List.foldl_cons]
    rcases List.mem_cons.1 hn with rfl | hn
    · rw [status, if_pos hc]
      exact foldl_status_after hc ns hp.1
    · exact foldl_status_of_provides _ hp.2 hn hc

theorem foldl_status_eq_true {c : String} : ∀ {ns : List Stage} {o : Option Bool},
    ns.foldl (status c) o = some true → (∃ n ∈ ns, c ∈ n.provides) ∨ o = some true
  | [], _, h => .inr h
  | m :: ns, o, h => by
    rw [List.foldl_cons] at h
    rcases foldl_status_eq_true h with ⟨n, hn, hc⟩ | h
    · exact .inl ⟨n, List.mem_cons_of_mem _ hn, hc⟩
    rw [status] at h
    split at h
    next hc => exact .inl ⟨m, List.mem_cons_self, hc⟩
    next =>
      split at h
      next => cases h
      next => exact .inr h

theorem foldl_status_eq_false {c : String} : ∀ {ns : List Stage} {o : Option Bool},
    ns.foldl (status c) o = some false → (∃ n ∈ ns, c ∈ n.announced) ∨ o = some false
  | [], _, h => .inr h
  | m :: ns, o, h => by
    rw [List.foldl_cons] at h
    rcases foldl_status_eq_false h with ⟨n, hn, hc⟩ | h
    · exact .inl ⟨n, List.mem_cons_of_mem _ hn, hc⟩
    rw [status] at h
    split at h
    next => cases h
    next =>
      split at h
      next hc => exact .inl ⟨m, List.mem_cons_self, hc⟩
      next => exact .inr h

theorem foldl_status_of_not_mem {c : String} : ∀ {ns : List Stage} (o : Option Bool),
    (∀ n ∈ ns, c ∉ n.provides ∧ c ∉ n.announced) → ns.foldl (status c) o = o
  | [], _, _ => rfl
  | m :: ns, o, h => by
    have hm := h m List.mem_cons_self
    rw [List.foldl_cons, status, if_neg hm.1, if_neg hm.2]
    exact foldl_status_of_not_mem o fun n hn => h n (List.mem_cons_of_mem _ hn)

/-- "app" is no stage's component. -/
theorem app_not_provided (n : Stage) : "app" ∉ n.provides ∧ "app" ∉ n.announced ∧ "app" ∉ n.blamable := by
  cases n <;> simp [provides, announced, announces, blamable, auditWriterComponent]

theorem blamable_eq {n : Stage} (h₁ : n ≠ evaluationConfig) (h₂ : n ≠ operationAwareConfig) :
    n.blamable = n.provides := by
  cases n <;> first | rfl | contradiction

/-- A failure is blamed on what an earlier stage provided in one case: the evaluation check
takes the loaded configuration back. -/
theorem eq_configuration_of_blamable {m n : Stage} {c : String} (hb : n.before m) (hn : c ∈ n.provides)
    (hm : c ∈ m.blamable) : c = "configuration_loaded" := by
  by_cases h₁ : m = evaluationConfig
  · subst h₁
    exact List.mem_singleton.1 hm
  by_cases h₂ : m = operationAwareConfig
  · subst h₂
    obtain rfl := List.mem_singleton.1 hm
    obtain rfl : n = bundle := eq_of_provides hn (by simp [provides])
    exact absurd hb (by decide)
  · rw [blamable_eq h₁ h₂] at hm
    obtain rfl := eq_of_provides hn hm
    exact absurd hb (Nat.lt_irrefl _)

end Stage

namespace StartupPlan

variable {P : Parts}

structure Sound (plan : StartupPlan P) : Prop where
  configures : plan.enabled .configuration = true
  provides : ∀ {n c}, plan.enabled n = true → c ∈ n.announced → ∃ m, plan.enabled m = true ∧ c ∈ m.provides
  blames : ∀ {n fl c}, plan.outcome n = .error fl → fl.blames = some c → c ∈ n.blamable

variable {plan : StartupPlan P}

/-- The stages that complete in a whole startup. -/
def reachedStages (plan : StartupPlan P) : List Stage := plan.completed Stage.all

/-- The component the failure of a whole startup is blamed on. -/
def blamed (plan : StartupPlan P) : Option String := (plan.failure Stage.all).bind fun f => f.2.blames

theorem reachedStages_pairwise : plan.reachedStages.Pairwise Stage.before :=
  Stage.all_pairwise.sublist (completed_sublist Stage.all)

/-- What completed ran before what failed. -/
theorem before_of_failure {n m : Stage} {fl : StageFailure} : ∀ {ns : List Stage}, ns.Pairwise Stage.before →
    plan.failure ns = some (m, fl) → n ∈ plan.completed ns → n.before m
  | k :: ns, hp, hf, hn => by
    rw [List.pairwise_cons] at hp
    rw [failure] at hf
    rw [completed] at hn
    split at hf
    next hen =>
      rw [if_pos hen] at hn
      split at hf
      next u hout =>
        rw [hout] at hn
        rcases List.mem_cons.1 hn with rfl | hn
        · exact hp.1 m (failure_eq_some hf).1
        · exact before_of_failure hp.2 hf hn
      next fl' hout => simp [hout] at hn
    next hen =>
      rw [if_neg hen] at hn
      exact before_of_failure hp.2 hf hn

/-- A stage that fails, when those before it complete, is the failure of the run. -/
theorem failure_of_error {n : Stage} {fl : StageFailure} (hen : plan.enabled n = true)
    (hout : plan.outcome n = .error fl) : ∀ {ns : List Stage}, ns.Pairwise Stage.before → n ∈ ns →
      (∀ m, m.before n → plan.enabled m = true → (plan.outcome m).isOk = true) →
      plan.failure ns = some (n, fl)
  | m :: ns, hp, hn, hbefore => by
    rw [List.pairwise_cons] at hp
    rw [failure]
    rcases List.mem_cons.1 hn with rfl | hn
    · rw [if_pos hen, hout]
    · have hrest := failure_of_error hen hout hp.2 hn hbefore
      by_cases hm : plan.enabled m = true
      · have hok := hbefore m (hp.1 n hn) hm
        rw [if_pos hm]
        cases hmout : plan.outcome m with
        | ok update => exact hrest
        | error fl' =>
          rw [hmout] at hok
          cases hok
      · rw [if_neg hm, hrest]

theorem get?_settle {c : String} (hc : c ≠ "app") (r : Except PyExc Unit × Gateway P) :
    (settle r).readiness.components.get? c = r.2.readiness.components.get? c := by
  rcases r with ⟨_ | _, g⟩
  · simp only [settle]
    split
    · exact OrderedDict.get?_set_ne _ _ hc
    · rfl
  · rfl

theorem app_settle (r : Except PyExc Unit × Gateway P) : (settle r).app = r.2.app := by
  rcases r with ⟨_ | _, g⟩
  · simp only [settle]
    split <;> rfl
  · rfl

/-- A failed startup is not ready. -/
theorem isReady_settle_error (exc : PyExc) (g : Gateway P) :
    (settle (.error exc, g)).readiness.isReady = false := by
  simp only [settle]
  split
  next => exact ReadinessState.isReady_eq_false (c := "app") (by simp)
  next h => simp [ReadinessState.isReady, h]

/-- The state of a component after a startup, from the stages that completed and the blame. -/
theorem get?_run {c : String} (hc : c ≠ "app") (g : Gateway P) :
    (plan.run g).readiness.components.get? c =
      if plan.blamed = some c then some false
      else plan.reachedStages.foldl (Stage.status c) (g.readiness.components.get? c) := by
  rw [run, get?_settle hc, get?_runStages]
  rfl

theorem app_not_ready {g : Gateway P} (hg : g.readiness.components.get? "app" ≠ some true) :
    (plan.run g).readiness.components.get? "app" ≠ some true := by
  have hrun : (plan.runStages Stage.all g).2.readiness.components.get? "app" ≠ some true := by
    rw [get?_runStages]
    split
    · simp
    · rw [Stage.foldl_status_of_not_mem _ fun n _ => ⟨n.app_not_provided.1, n.app_not_provided.2.1⟩]
      exact hg
  rw [run]
  rcases hr : plan.runStages Stage.all g with ⟨_ | _, g'⟩
  · rw [hr] at hrun
    simp only [settle]
    split
    · simp
    · exact hrun
  · rwa [hr] at hrun

/-- Over a fresh process, a component is ready when a stage that completed provides it, the
one the failure is blamed on apart. -/
theorem ready_iff (c : String) :
    (plan.run (.fresh P)).readiness.components.get? c = some true ↔
      (∃ n ∈ plan.reachedStages, c ∈ n.provides) ∧ plan.blamed ≠ some c := by
  by_cases hc : c = "app"
  · subst hc
    refine ⟨fun h => absurd h (app_not_ready (by simp [Gateway.fresh])), ?_⟩
    rintro ⟨⟨n, -, hn⟩, -⟩
    exact absurd hn n.app_not_provided.1
  rw [get?_run hc]
  split
  next hb => simp [hb]
  next hb =>
    simp only [ne_eq, hb, not_false_eq_true, and_true]
    constructor
    · intro h
      exact (Stage.foldl_status_eq_true h).resolve_right (by simp [Gateway.fresh])
    · rintro ⟨n, hn, hc⟩
      exact Stage.foldl_status_of_provides _ reachedStages_pairwise hn hc

/-- The configuration apart, blame falls on no component that was ready. -/
theorem ready_iff_reached (hs : plan.Sound) {c : String} (hc : c ≠ "configuration_loaded") :
    (plan.run (.fresh P)).readiness.components.get? c = some true ↔
      ∃ n ∈ plan.reachedStages, c ∈ n.provides := by
  rw [ready_iff]
  refine ⟨fun h => h.1, fun h => ⟨h, fun hb => ?_⟩⟩
  obtain ⟨n, hn, hcn⟩ := h
  obtain ⟨⟨m, fl⟩, hf, hbl⟩ := Option.bind_eq_some_iff.1 hb
  have hbefore := before_of_failure Stage.all_pairwise hf hn
  exact hc (Stage.eq_configuration_of_blamable hbefore hcn (hs.blames (failure_eq_some hf).2.2 hbl))

/-- What is not provided or announced by a stage that runs stays unregistered. -/
theorem unregistered (hs : plan.Sound) {c : String} (hc : c ≠ "app")
    (h : ∀ n, plan.enabled n = true → c ∉ n.provides ∧ c ∉ n.announced ∧ c ∉ n.blamable) :
    (plan.run (.fresh P)).readiness.components.get? c = none := by
  have hnb : plan.blamed ≠ some c := fun hb => by
    obtain ⟨⟨m, fl⟩, hf, hbl⟩ := Option.bind_eq_some_iff.1 hb
    obtain ⟨-, hen, hout⟩ := failure_eq_some hf
    exact (h m hen).2.2 (hs.blames hout hbl)
  rw [get?_run hc, if_neg hnb, Stage.foldl_status_of_not_mem]
  · rfl
  · intro n hn
    have hn := h n (enabled_of_completed hn).1
    exact ⟨hn.1, hn.2.1⟩

/-- Neither the stage that failed nor a later one has a component that is ready. -/
theorem not_ready_after_failure {m n : Stage} {fl : StageFailure} {c : String}
    (hf : plan.failure Stage.all = some (m, fl)) (hn : ¬ n.before m) (hc : c ∈ n.provides) :
    (plan.run (.fresh P)).readiness.components.get? c ≠ some true := by
  rw [ne_eq, ready_iff]
  rintro ⟨⟨k, hk, hck⟩, -⟩
  obtain rfl := Stage.eq_of_provides hc hck
  exact hn (before_of_failure Stage.all_pairwise hf hk)

/-- The run raises what the failing stage raises, with the component blamed for it down and its message as
the reason. -/
theorem runStages_of_failure {n : Stage} {fl : StageFailure} {c : String} (hc : fl.blames = some c) :
    ∀ (ns : List Stage) (g : Gateway P), plan.failure ns = some (n, fl) →
      (plan.runStages ns g).1 = .error fl.exc ∧
      (plan.runStages ns g).2.readiness.components.get? c = some false ∧
      (plan.runStages ns g).2.readiness.reasons.get? c = some fl.exc.msg := by
  intro ns
  induction ns with
  | nil =>
    intro g h
    cases h
  | cons m ns ih =>
    intro g h
    rw [failure] at h
    rw [runStages]
    by_cases hm : plan.enabled m = true
    · rw [if_pos hm] at h ⊢
      cases hout : plan.outcome m with
      | ok update =>
        rw [hout] at h
        exact ih _ h
      | error fl' =>
        rw [hout] at h
        cases h
        simp [blame, hc, ReadinessState.markNotReady]
    · rw [if_neg hm] at h ⊢
      exact ih g h

/-- A component that is down keeps its reason when the startup gives up. -/
theorem reason_of_failure {n : Stage} {fl : StageFailure} {c : String} (hc : fl.blames = some c)
    (hf : plan.failure Stage.all = some (n, fl)) (g : Gateway P) :
    (plan.run g).readiness.components.get? c = some false ∧
      (plan.run g).readiness.reasons.get? c = some fl.exc.msg := by
  obtain ⟨hraised, hdown, hreason⟩ := runStages_of_failure hc Stage.all g hf
  rw [run]
  cases hrun : plan.runStages Stage.all g with
  | mk r g' =>
    rw [hrun] at hraised hdown hreason
    simp only at hraised hdown hreason
    rw [hraised, settle]
    have hall : g'.readiness.components.all id = false := by
      rw [Bool.eq_false_iff]
      intro htrue
      have hid := (OrderedDict.all_eq_true_iff _ _).1 htrue c false hdown
      cases hid
    simp [hall, hdown, hreason]

theorem run_of_failure_none (hf : plan.failure Stage.all = none) (g : Gateway P) :
    plan.run g = (plan.runStages Stage.all g).2 := by
  have hok : (plan.runStages Stage.all g).1 = .ok () := by rw [runStages_fst, hf]
  rw [run]
  rcases hr : plan.runStages Stage.all g with ⟨_ | _, g'⟩
  · rw [hr] at hok; cases hok
  · rfl

/-- When no stage fails, nothing is down that was not down before. -/
theorem not_down_of_failure_none (hs : plan.Sound) (hf : plan.failure Stage.all = none) {g : Gateway P}
    {c : String} (hg : g.readiness.components.get? c ≠ some false) :
    (plan.run g).readiness.components.get? c ≠ some false := by
  have hreached : ∀ n, plan.enabled n = true → n ∈ plan.reachedStages :=
    fun n hen => completed_of_failure_none hf n.mem_all hen
  rw [run_of_failure_none hf, get?_runStages, hf, Option.bind_none, if_neg (by simp)]
  intro hc
  rcases Stage.foldl_status_eq_false hc with ⟨n, hn, hcn⟩ | h
  · -- a stage that completed provides what is pending
    obtain ⟨m, hm, hcm⟩ := hs.provides (enabled_of_completed hn).1 hcn
    have := Stage.foldl_status_of_provides (g.readiness.components.get? c) reachedStages_pairwise
      (hreached m hm) hcm
    rw [reachedStages, hc] at this
    cases this
  · exact hg h

/-- **The whole is ready when every stage that runs completed, and only then.** -/
theorem isReady_run (hs : plan.Sound) :
    (plan.run (.fresh P)).readiness.isReady = true ↔ plan.AllComplete := by
  rw [allComplete_iff]
  rcases hf : plan.failure Stage.all with - | f
  · simp only [ReadinessState.isReady_iff, iff_true]
    refine ⟨⟨"configuration_loaded", ?_⟩, fun c => not_down_of_failure_none hs hf (by simp [Gateway.fresh])⟩
    have hconf : Stage.configuration ∈ plan.reachedStages :=
      completed_of_failure_none hf (Stage.mem_all _) hs.configures
    have := (ready_iff "configuration_loaded").2
      ⟨⟨.configuration, hconf, by simp [Stage.provides]⟩, by simp [blamed, hf]⟩
    rw [this]; rfl
  · have herr : (plan.runStages Stage.all (.fresh P)).1 = .error f.2.exc := by rw [runStages_fst, hf]
    simp only [reduceCtorEq, iff_false, Bool.not_eq_true]
    rw [run, ← Prod.mk.eta (p := plan.runStages Stage.all (.fresh P)), herr]
    exact isReady_settle_error _ _

/-! ## `app.state` -/

section

variable {α : Type} (read : AppState P → Option α) {n : Stage}
  (hset : ∀ {u}, plan.outcome n = .ok u → ∀ app, (read (u app)).isSome = true)
  (hkeep : ∀ {m u}, n.before m → plan.outcome m = .ok u → ∀ app, read (u app) = read app)
  (hnone : ∀ {m u}, m ≠ n → plan.outcome m = .ok u → ∀ app, read app = none → read (u app) = none)
include hset hkeep hnone

/-- Over stages that completed, in order. The attribute is absent until `n` has run, and no stage
after `n` changes it: this is what the induction carries. -/
theorem attribute_isSome_foldl : ∀ (ns : List Stage) (app : AppState P), ns.Pairwise Stage.before →
    (∀ m ∈ ns, (plan.outcome m).isOk = true) → (read app = none ∨ ∀ m ∈ ns, n.before m) →
    ((read (ns.foldl plan.updateApp app)).isSome = true ↔ n ∈ ns ∨ (read app).isSome = true) := by
  intro ns
  induction ns with
  | nil => intro app _ _ _; simp
  | cons m ns ih =>
    intro app hp hok hinv
    rw [List.pairwise_cons] at hp
    have hm := hok m List.mem_cons_self
    have hrest := fun k hk => hok k (List.mem_cons_of_mem m hk)
    rw [List.foldl_cons, updateApp]
    rcases hout : plan.outcome m with _ | u
    · rw [hout] at hm; cases hm
    by_cases hmn : m = n
    · subst hmn
      rw [ih _ hp.2 hrest (.inr hp.1), hset hout app]
      simp
    · have hread : (read (u app)).isSome = (read app).isSome := by
        rcases hinv with h | h
        · rw [hnone hmn hout app h, h]
        · rw [hkeep (h m List.mem_cons_self) hout app]
      have hinv' : read (u app) = none ∨ ∀ k ∈ ns, n.before k := by
        rcases hinv with h | h
        · exact .inl (hnone hmn hout app h)
        · exact .inr fun k hk => h k (List.mem_cons_of_mem _ hk)
      simp only [ih _ hp.2 hrest hinv', hread, List.mem_cons, Ne.symm hmn, false_or]

/-- An attribute set by the stage `n` alone is there when `n` completed, and only then. -/
theorem attribute_isSome (hfresh : read {} = none) :
    (read (plan.run (.fresh P)).app).isSome = true ↔ n ∈ plan.reachedStages := by
  have hall := attribute_isSome_foldl read hset hkeep hnone plan.reachedStages {} reachedStages_pairwise
    (fun m hm => (enabled_of_completed hm).2) (.inl hfresh)
  simp only [hfresh, Option.isSome_none, Bool.false_eq_true, or_false] at hall
  rw [run, app_settle, app_runStages]
  exact hall

end

end StartupPlan

end BasisGateway
