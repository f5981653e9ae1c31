/-
The log of a run, task by task. Every entry says whose it is, or is nobody's;
the parts of a task append only entries of its own or nobody's. When the
tasks have different names, the entries of a task, in the log of any
interleaving, are what its own parts appended, in their order: nothing of it
is lost or repeated, and nothing of another task is among them (`run_course`).

A task whose turn has come twice is done (`done_of_two_turns`).
-/
import BasisGateway.Lib.Tasks

namespace Tasks

variable {τ σ α ω κ : Type}

/-- A log in the shared state, and what each part of a task appends to it. -/
structure Journal (P : Program τ σ α) (ω κ : Type) where
  log : σ → List ω
  owner : ω → Option κ
  name : τ → κ
  started : τ → σ → List ω
  finished : τ → σ → List ω
  log_start : ∀ t s, log (P.start t s).2 = log s ++ started t s
  log_finish : ∀ t s, log (P.finish t s).2 = log s ++ finished t s
  owner_started : ∀ t s, ∀ o ∈ started t s, ∀ k, owner o = some k → k = name t
  owner_finished : ∀ t s, ∀ o ∈ finished t s, ∀ k, owner o = some k → k = name t

namespace Journal

variable {P : Program τ σ α} (J : Journal P ω κ)

/-- What the next part of a task appends. -/
def appended (t : τ) : Phase α → σ → List ω
  | .pending, s => J.started t s
  | .waiting, s => J.finished t s
  | .done _, _ => []

theorem log_advance (t : τ) (phase : Phase α) (s : σ) :
    J.log (P.advance t phase s).2 = J.log s ++ J.appended t phase s := by
  cases phase with
  | pending => exact J.log_start t s
  | waiting => exact J.log_finish t s
  | done a => exact (List.append_nil _).symm

theorem owner_appended (t : τ) (phase : Phase α) (s : σ) :
    ∀ o ∈ J.appended t phase s, ∀ k, J.owner o = some k → k = J.name t := by
  cases phase with
  | pending => exact J.owner_started t s
  | waiting => exact J.owner_finished t s
  | done a => exact fun o ho => by cases ho

/-- The tasks of a configuration have different names. -/
def Distinct (c : Config τ σ α) : Prop :=
  ∀ (i j : Nat) (t u : τ) (phase phase' : Phase α), c.tasks[i]? = some (t, phase) → c.tasks[j]? = some (u, phase') →
    J.name t = J.name u → i = j

variable {J} in
theorem distinct_boot {s : σ} {ts : List τ} (h : (ts.map J.name).Nodup) : J.Distinct (boot s ts) := by
  intro i j t u phase phase' hi hj hname
  simp only [boot, List.getElem?_map, Option.map_eq_some_iff, Prod.mk.injEq] at hi hj
  obtain ⟨t, hi, rfl, -⟩ := hi
  obtain ⟨u, hj, rfl, -⟩ := hj
  have hlt : i < (ts.map J.name).length := by
    rw [List.length_map]
    exact (List.getElem?_eq_some_iff.1 hi).1
  refine (List.getElem?_inj hlt h).1 ?_
  rw [List.getElem?_map, List.getElem?_map, hi, hj, Option.map_some, Option.map_some, hname]

variable [DecidableEq κ]

/-- The entries of this owner, in order. -/
def entries (k : κ) (l : List ω) : List ω := l.filter (J.owner · = some k)

@[simp] theorem entries_append (k : κ) (l m : List ω) : J.entries k (l ++ m) = J.entries k l ++ J.entries k m :=
  List.filter_append ..

@[simp] theorem entries_nil (k : κ) : J.entries k [] = [] := rfl

/-- How a task comes to its phase through worlds that satisfy `I`, and the entries it leaves. -/
inductive Course (I : σ → Prop) (t : τ) : Phase α → List ω → Prop
  | pending : Course I t .pending []
  | waiting (s : σ) (hs : I s) (h : (P.start t s).1 = none) :
      Course I t .waiting (J.entries (J.name t) (J.started t s))
  | answered (s : σ) (hs : I s) (a : α) (h : (P.start t s).1 = some a) :
      Course I t (.done a) (J.entries (J.name t) (J.started t s))
  | finished (s s' : σ) (hs : I s) (hs' : I s') (h : (P.start t s).1 = none) :
      Course I t (.done (P.finish t s').1)
        (J.entries (J.name t) (J.started t s) ++ J.entries (J.name t) (J.finished t s'))

/-- The log accounts for every task. -/
structure Accounts (I : σ → Prop) (c : Config τ σ α) : Prop where
  shared : I c.shared
  distinct : J.Distinct c
  owned : ∀ o ∈ J.log c.shared, ∀ k, J.owner o = some k → ∃ task ∈ c.tasks, J.name task.1 = k
  course : ∀ (i : Nat) (t : τ) (phase : Phase α), c.tasks[i]? = some (t, phase) →
    J.Course I t phase (J.entries (J.name t) (J.log c.shared))

variable {J} {I : σ → Prop}

/-- A log in which no entry has an owner accounts for any tasks. -/
theorem Accounts.boot {s : σ} (hs : I s) {ts : List τ} (hnames : (ts.map J.name).Nodup)
    (hlog : ∀ o ∈ J.log s, J.owner o = none) : J.Accounts I (boot s ts) where
  shared := hs
  distinct := distinct_boot hnames
  owned o ho k hk := by
    rw [hlog o ho] at hk
    cases hk
  course i t phase hi := by
    simp only [Tasks.boot, List.getElem?_map, Option.map_eq_some_iff, Prod.mk.injEq] at hi
    obtain ⟨t, hi, rfl, rfl⟩ := hi
    have hnone : J.entries (J.name t) (J.log s) = [] := by
      simp only [entries, List.filter_eq_nil_iff, decide_eq_true_eq]
      intro o ho hk
      rw [hlog o ho] at hk
      cases hk
    rw [show (Tasks.boot s ts : Config τ σ α).shared = s from rfl, hnone]
    exact .pending

/-- A part appends nothing of a task with another name. -/
theorem entries_of_ne {l : List ω} {k k' : κ} (h : ∀ o ∈ l, ∀ k, J.owner o = some k → k = k') (hne : k ≠ k') :
    J.entries k l = [] := by
  simp only [entries, List.filter_eq_nil_iff, decide_eq_true_eq]
  exact fun o ho hk => hne (h o ho k hk)

/-- The next part continues the course of its task. -/
theorem Course.advance {t : τ} {phase : Phase α} {l : List ω} {s : σ} (h : J.Course I t phase l) (hs : I s) :
    J.Course I t (P.advance t phase s).1 (l ++ J.entries (J.name t) (J.appended t phase s)) := by
  cases h with
  | pending =>
    rw [List.nil_append]
    rcases hstart : (P.start t s).1 with - | a
    · simp only [Program.advance, hstart, Option.elim_none]
      exact .waiting s hs hstart
    · simp only [Program.advance, hstart, Option.elim_some]
      exact .answered s hs a hstart
  | waiting s₀ hs₀ hwaits => exact .finished s₀ s hs₀ hs hwaits
  | answered s₀ hs₀ a ha =>
    rw [appended, entries_nil, List.append_nil]
    exact .answered s₀ hs₀ a ha
  | finished s₀ s₁ hs₀ hs₁ hwaits =>
    rw [appended, entries_nil, List.append_nil]
    exact .finished s₀ s₁ hs₀ hs₁ hwaits

theorem Accounts.step {Q : τ → α → Prop} (hkeep : P.PartsKeep I Q) {c : Config τ σ α} (h : J.Accounts I c)
    (i : Nat) : J.Accounts I (P.step c i) := by
  unfold Program.step
  split
  next => exact h
  next t phase hi =>
    have hlt : i < c.tasks.length := (List.getElem?_eq_some_iff.1 hi).1
    -- a task of the new configuration is the one that advanced, or an untouched other one
    have htasks {j : Nat} {u : τ} {phase' : Phase α}
        (hj : (c.tasks.set i (t, (P.advance t phase c.shared).1))[j]? = some (u, phase')) :
        (j = i ∧ u = t ∧ phase' = (P.advance t phase c.shared).1) ∨
        (j ≠ i ∧ c.tasks[j]? = some (u, phase')) := by
      rw [List.getElem?_set] at hj
      split at hj
      next hij =>
        obtain ⟨rfl, rfl⟩ : t = u ∧ (P.advance t phase c.shared).1 = phase' := by simpa [hlt] using hj
        exact .inl ⟨hij.symm, rfl, rfl⟩
      next hij => exact .inr ⟨fun he => hij he.symm, hj⟩
    have hnamed {j : Nat} {u : τ} {phase' : Phase α}
        (hj : (c.tasks.set i (t, (P.advance t phase c.shared).1))[j]? = some (u, phase')) :
        ∃ phase'', c.tasks[j]? = some (u, phase'') := by
      rcases htasks hj with ⟨rfl, rfl, -⟩ | ⟨-, hold⟩
      · exact ⟨phase, hi⟩
      · exact ⟨phase', hold⟩
    refine ⟨?_, fun j k u v phase' phase'' hj hk hname => ?_, fun o ho k hk => ?_, fun j u phase' hj => ?_⟩
    · cases phase with
      | pending => exact (hkeep.start t c.shared h.shared).1
      | waiting => exact (hkeep.finish t c.shared h.shared).1
      | done a => exact h.shared
    · obtain ⟨_, hj⟩ := hnamed hj
      obtain ⟨_, hk⟩ := hnamed hk
      exact h.distinct j k u v _ _ hj hk hname
    · simp only [log_advance, List.mem_append] at ho
      have hmem : (t, (P.advance t phase c.shared).1) ∈ c.tasks.set i (t, (P.advance t phase c.shared).1) :=
        List.mem_set hlt _
      rcases ho with ho | ho
      · obtain ⟨⟨u, phase'⟩, hu, hname⟩ := h.owned o ho k hk
        obtain ⟨j, hj⟩ := List.getElem?_of_mem hu
        by_cases hij : i = j
        · subst hij
          obtain ⟨rfl, -⟩ := Prod.mk.inj (Option.some.inj (hi.symm.trans hj))
          exact ⟨_, hmem, hname⟩
        · exact ⟨_, List.mem_of_getElem? ((List.getElem?_set_ne hij).trans hj), hname⟩
      · exact ⟨_, hmem, (J.owner_appended t phase c.shared o ho k hk).symm⟩
    · simp only [log_advance, entries_append]
      rcases htasks hj with ⟨rfl, rfl, rfl⟩ | ⟨hij, hold⟩
      · exact (h.course j u phase hi).advance h.shared
      · have hne : J.name u ≠ J.name t := fun he => hij (h.distinct j i u t _ _ hold hi he)
        rw [entries_of_ne (J.owner_appended t phase c.shared) hne, List.append_nil]
        exact h.course j u phase' hold

/-- **The rule for logs.** -/
theorem run_course {Q : τ → α → Prop} (hkeep : P.PartsKeep I Q) :
    ∀ (schedule : List Nat) {c : Config τ σ α}, J.Accounts I c → J.Accounts I (P.run c schedule)
  | [], _, h => h
  | i :: schedule, _, h => run_course hkeep schedule (h.step hkeep i)

end Journal

/-! ## Turns -/

/-- The turns a task still needs. -/
def Phase.turns : Phase α → Nat
  | .pending => 2
  | .waiting => 1
  | .done _ => 0

namespace Program

variable {P : Program τ σ α}

theorem turns_advance (t : τ) (phase : Phase α) (s : σ) :
    (P.advance t phase s).1.turns ≤ phase.turns - 1 := by
  cases phase with
  | pending => rcases h : (P.start t s).1 with - | a <;> simp [advance, h, Phase.turns]
  | waiting => exact Nat.le_refl 0
  | done a => exact Nat.le_refl 0

/-- Each turn of a task brings it closer to its end, and no other turn takes it back. -/
theorem turns_run : ∀ (schedule : List Nat) {c : Config τ σ α} {i : Nat} {t : τ} {phase : Phase α},
    c.tasks[i]? = some (t, phase) → ∃ phase', (P.run c schedule).tasks[i]? = some (t, phase') ∧
      phase'.turns ≤ phase.turns - schedule.count i
  | [], _, _, _, phase, hi => ⟨phase, hi, Nat.le_refl _⟩
  | j :: schedule, c, i, t, phase, hi => by
    have hlt : i < c.tasks.length := (List.getElem?_eq_some_iff.1 hi).1
    rw [run_cons]
    by_cases hij : j = i
    · subst hij
      have hstep : (P.step c j).tasks[j]? = some (t, (P.advance t phase c.shared).1) := by
        simp only [step, hi, List.getElem?_set_self hlt]
      obtain ⟨phase', hphase', hturns⟩ := turns_run schedule hstep
      have hadvance := turns_advance (P := P) t phase c.shared
      rw [List.count_cons_self]
      exact ⟨phase', hphase', by omega⟩
    · have hstep : (P.step c j).tasks[i]? = some (t, phase) := by
        unfold step
        split
        next => exact hi
        next => rw [← hi]; exact List.getElem?_set_ne hij
      obtain ⟨phase', hphase', hturns⟩ := turns_run schedule hstep
      rw [List.count_cons_of_ne hij]
      exact ⟨phase', hphase', hturns⟩

/-- **A task whose turn has come twice is done.** -/
theorem done_of_two_turns {s : σ} {ts : List τ} {schedule : List Nat} {i : Nat} {t : τ}
    (hi : ts[i]? = some t) (hturns : 2 ≤ schedule.count i) :
    ∃ a, (P.run (boot s ts) schedule).tasks[i]? = some (t, .done a) := by
  have hboot : (boot s ts : Config τ σ α).tasks[i]? = some (t, .pending) := by
    simp only [boot, List.getElem?_map, hi, Option.map_some]
  obtain ⟨phase, hphase, hle⟩ := turns_run (P := P) schedule hboot
  have hzero : phase.turns = 0 := by
    have : (Phase.pending : Phase α).turns = 2 := rfl
    omega
  cases phase with
  | pending => cases hzero
  | waiting => cases hzero
  | done a => exact ⟨a, hphase⟩

end Program

end Tasks
