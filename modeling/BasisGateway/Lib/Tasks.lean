/-
Cooperative tasks over a shared state. A task runs in two atomic parts: its
first part answers, or leaves the task waiting; its second part answers. A
schedule names the task to advance next, any number of times and in any
order, so the runs are all interleavings at the one point where a task waits.

Three rules take a fact about one part to every run: what the parts keep of
the shared state and what their answers satisfy (`run_keeps`), what they
append to a log (`forall_mem_log_run`), and which shared states they cannot
tell apart (`run_related`).
-/
import Mathlib.Init

namespace Tasks

/-- The two parts of a task `τ` over the state `σ`. -/
structure Program (τ σ α : Type) where
  start : τ → σ → Option α × σ
  finish : τ → σ → α × σ

inductive Phase (α : Type)
  | pending
  | waiting
  | done (answer : α)

structure Config (τ σ α : Type) where
  shared : σ
  tasks : List (τ × Phase α)

variable {τ σ α ω : Type}

/-- No task has run yet. -/
def boot (s : σ) (ts : List τ) : Config τ σ α := ⟨s, ts.map fun t => (t, .pending)⟩

namespace Program

variable (P : Program τ σ α)

/-- One part of a task. -/
def advance (t : τ) : Phase α → σ → Phase α × σ
  | .pending, s => ((P.start t s).1.elim .waiting .done, (P.start t s).2)
  | .waiting, s => (.done (P.finish t s).1, (P.finish t s).2)
  | .done a, s => (.done a, s)

/-- The next part of task `i`. -/
def step (c : Config τ σ α) (i : Nat) : Config τ σ α :=
  match c.tasks[i]? with
  | none => c
  | some (t, phase) =>
    let next := P.advance t phase c.shared
    { shared := next.2, tasks := c.tasks.set i (t, next.1) }

def run (c : Config τ σ α) (schedule : List Nat) : Config τ σ α := schedule.foldl P.step c

@[simp] theorem run_nil (c : Config τ σ α) : P.run c [] = c := rfl

@[simp] theorem run_cons (c : Config τ σ α) (i : Nat) (schedule : List Nat) :
    P.run c (i :: schedule) = P.run (P.step c i) schedule := rfl

variable {P} in
theorem step_eq {c : Config τ σ α} {i : Nat} {t : τ} {phase : Phase α} (hi : c.tasks[i]? = some (t, phase)) :
    P.step c i = ⟨(P.advance t phase c.shared).2, c.tasks.set i (t, (P.advance t phase c.shared).1)⟩ := by
  simp only [step, hi]

variable {P} in
theorem step_of_none {c : Config τ σ α} {i : Nat} (hi : c.tasks[i]? = none) : P.step c i = c := by
  simp only [step, hi]

variable {P} in
/-- A step changes the task whose turn it is, at its place. -/
theorem step_split {c : Config τ σ α} {i : Nat} {t : τ} {phase : Phase α} (hi : c.tasks[i]? = some (t, phase)) :
    ∃ before after, c.tasks = before ++ (t, phase) :: after ∧ P.step c i =
      ⟨(P.advance t phase c.shared).2, before ++ (t, (P.advance t phase c.shared).1) :: after⟩ := by
  obtain ⟨hlt, hget⟩ := List.getElem?_eq_some_iff.1 hi
  obtain ⟨before, after, hsplit, -, hset⟩ : ∃ before after, c.tasks = before ++ c.tasks[i] :: after ∧
      before.length = i ∧ c.tasks.set i (t, (P.advance t phase c.shared).1) =
        before ++ (t, (P.advance t phase c.shared).1) :: after := List.exists_of_set hlt
  rw [hget] at hsplit
  exact ⟨before, after, hsplit, by rw [step_eq hi, hset]⟩

theorem run_append (c : Config τ σ α) (earlier later : List Nat) :
    P.run c (earlier ++ later) = P.run (P.run c earlier) later := List.foldl_append ..

/-! ## What every run keeps -/

/-- The shared state satisfies `I`, and each answer given so far satisfies `Q`. -/
structure Keeps (I : σ → Prop) (Q : τ → α → Prop) (c : Config τ σ α) : Prop where
  shared : I c.shared
  answers : ∀ t a, (t, Phase.done a) ∈ c.tasks → Q t a

/-- What one part keeps, and what it answers. -/
structure PartsKeep (I : σ → Prop) (Q : τ → α → Prop) : Prop where
  start : ∀ t s, I s → I (P.start t s).2 ∧ ∀ a, (P.start t s).1 = some a → Q t a
  finish : ∀ t s, I s → I (P.finish t s).2 ∧ Q t (P.finish t s).1

variable {P} {I : σ → Prop} {Q : τ → α → Prop}

theorem Keeps.boot {s : σ} (h : I s) (ts : List τ) : Keeps I Q (boot s ts) where
  shared := h
  answers t a hm := by simp [Tasks.boot] at hm

theorem PartsKeep.advance (h : P.PartsKeep I Q) {t : τ} {phase : Phase α} {s : σ} (hs : I s)
    (hphase : ∀ a, phase = .done a → Q t a) :
    I (P.advance t phase s).2 ∧ ∀ a, (P.advance t phase s).1 = .done a → Q t a := by
  cases phase with
  | pending =>
    obtain ⟨hI, hQ⟩ := h.start t s hs
    refine ⟨hI, fun a ha => ?_⟩
    rcases hstart : (P.start t s).1 with - | b
    · simp [Program.advance, hstart] at ha
    · simp only [Program.advance, hstart, Option.elim_some, Phase.done.injEq] at ha
      exact ha ▸ hQ b hstart
  | waiting =>
    obtain ⟨hI, hQ⟩ := h.finish t s hs
    refine ⟨hI, fun a ha => ?_⟩
    simp only [Program.advance, Phase.done.injEq] at ha
    exact ha ▸ hQ
  | done b => exact ⟨hs, hphase⟩

theorem PartsKeep.step (h : P.PartsKeep I Q) {c : Config τ σ α} (hc : Keeps I Q c) (i : Nat) :
    Keeps I Q (P.step c i) := by
  unfold Program.step
  split
  next => exact hc
  next t phase hi =>
    have hmem := List.mem_of_getElem? hi
    obtain ⟨hI, hQ⟩ := h.advance hc.shared fun a ha => hc.answers t a (ha ▸ hmem)
    refine ⟨hI, fun u a hm => ?_⟩
    rcases List.mem_or_eq_of_mem_set hm with hm | hm
    · exact hc.answers u a hm
    · obtain ⟨rfl, hphase⟩ := Prod.mk.inj hm
      exact hQ a hphase.symm

/-- **The rule for runs.** -/
theorem run_keeps (h : P.PartsKeep I Q) : ∀ (schedule : List Nat) {c : Config τ σ α}, Keeps I Q c →
    Keeps I Q (P.run c schedule)
  | [], _, hc => hc
  | i :: schedule, _, hc => run_keeps h schedule (h.step hc i)

/-! ## Logs -/

variable (P) in
/-- `R` holds of the task, its phase and the shared state at every step of the schedule. -/
def Throughout (R : τ → Phase α → σ → Prop) : Config τ σ α → List Nat → Prop
  | _, [] => True
  | c, i :: schedule => (∀ t phase, c.tasks[i]? = some (t, phase) → R t phase c.shared) ∧
      Throughout R (P.step c i) schedule

/-- A property of every entry of the log holds exactly when each step only appends such entries. -/
theorem forall_mem_log_run {log : σ → List ω} {shown : τ → Phase α → σ → List ω}
    (hlog : ∀ t phase s, log (P.advance t phase s).2 = log s ++ shown t phase s) {G : ω → Prop}
    {R : τ → Phase α → σ → Prop} (hR : ∀ t phase s, (∀ o ∈ shown t phase s, G o) ↔ R t phase s) :
    ∀ (schedule : List Nat) (c : Config τ σ α), (∀ o ∈ log (P.run c schedule).shared, G o) ↔
      (∀ o ∈ log c.shared, G o) ∧ P.Throughout R c schedule
  | [], c => by simp [Throughout]
  | i :: schedule, c => by
    rw [run_cons, forall_mem_log_run hlog hR schedule (P.step c i), Throughout, ← and_assoc]
    refine and_congr_left' ?_
    unfold step
    split
    next hi => simp [hi]
    next t phase hi =>
      simp only [hlog, List.mem_append, or_imp, forall_and, hi, Option.some.injEq, Prod.mk.injEq]
      rw [hR]
      exact and_congr_right' ⟨fun h t' phase' he => he.1 ▸ he.2 ▸ h, fun h => h t phase ⟨rfl, rfl⟩⟩

/-! ## Two runs -/

variable (P) in
/-- From related states a part gives the same answer, and leaves related states. -/
structure Respects (R : σ → σ → Prop) : Prop where
  start : ∀ t s s', R s s' → (P.start t s).1 = (P.start t s').1 ∧ R (P.start t s).2 (P.start t s').2
  finish : ∀ t s s', R s s' → (P.finish t s).1 = (P.finish t s').1 ∧ R (P.finish t s).2 (P.finish t s').2

/-- The tasks are in the same phases, over related states. -/
structure Related (R : σ → σ → Prop) (c c' : Config τ σ α) : Prop where
  shared : R c.shared c'.shared
  tasks : c.tasks = c'.tasks

theorem Related.boot {R : σ → σ → Prop} {s s' : σ} (h : R s s') (ts : List τ) :
    Related R (Tasks.boot s ts : Config τ σ α) (Tasks.boot s' ts) := ⟨h, rfl⟩

variable {R : σ → σ → Prop}

theorem Respects.advance (h : P.Respects R) {s s' : σ} (hs : R s s') (t : τ) (phase : Phase α) :
    (P.advance t phase s).1 = (P.advance t phase s').1 ∧ R (P.advance t phase s).2 (P.advance t phase s').2 := by
  cases phase with
  | pending =>
    obtain ⟨hanswer, hstate⟩ := h.start t s s' hs
    exact ⟨by simp [Program.advance, hanswer], hstate⟩
  | waiting =>
    obtain ⟨hanswer, hstate⟩ := h.finish t s s' hs
    exact ⟨by simp [Program.advance, hanswer], hstate⟩
  | done b => exact ⟨rfl, hs⟩

theorem Respects.step (h : P.Respects R) {c c' : Config τ σ α} (hc : Related R c c') (i : Nat) :
    Related R (P.step c i) (P.step c' i) := by
  unfold Program.step
  rw [← hc.tasks]
  cases c.tasks[i]? with
  | none => exact hc
  | some task =>
    obtain ⟨hphase, hstate⟩ := h.advance hc.shared task.1 task.2
    exact ⟨hstate, by simp [hphase]⟩

/-- **The rule for two runs.** -/
theorem run_related (h : P.Respects R) : ∀ (schedule : List Nat) {c c' : Config τ σ α}, Related R c c' →
    Related R (P.run c schedule) (P.run c' schedule)
  | [], _, _, hc => hc
  | i :: schedule, _, _, hc => run_related h schedule (h.step hc i)

end Program

end Tasks
