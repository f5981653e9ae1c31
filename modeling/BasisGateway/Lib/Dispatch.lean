/-
Tasks sent to a program. A dispatcher lets some tasks through and answers
every other at once, leaving the state as it was. Those it answers are not
felt by those it lets through: a run of the dispatched tasks is a run of the
program's own, with their turns and no others (`run_dispatch`).
-/
import BasisGateway.Lib.Tasks

namespace Tasks

namespace Program

variable {τ σ α : Type}

/-- The tasks of `accepts` go to the program; any other is answered with its `reply`. -/
def dispatch (P : Program τ σ α) (accepts : τ → Bool) (reply : τ → α) : Program τ σ α where
  start t s := if accepts t then P.start t s else (some (reply t), s)
  finish := P.finish

variable {P : Program τ σ α} {accepts : τ → Bool} {reply : τ → α}

theorem advance_accepted {t : τ} (h : accepts t = true) (phase : Phase α) (s : σ) :
    (P.dispatch accepts reply).advance t phase s = P.advance t phase s := by
  cases phase <;> simp [advance, dispatch, h]

/-- Another task is done with its reply after its first part. -/
theorem advance_replied {t : τ} (h : accepts t = false) {phase : Phase α} (s : σ)
    (hphase : phase = .pending ∨ phase = .done (reply t)) :
    (P.dispatch accepts reply).advance t phase s = (.done (reply t), s) := by
  rcases hphase with rfl | rfl <;> simp [advance, dispatch, h]

theorem Respects.dispatch {R : σ → σ → Prop} (h : P.Respects R) : (P.dispatch accepts reply).Respects R where
  start t s s' hs := by
    simp only [Program.dispatch]
    split
    next => exact h.start t s s' hs
    next => exact ⟨rfl, hs⟩
  finish := h.finish

/-! ## The tasks that are let through -/

variable (accepts reply) in
/-- The second configuration is the first without the tasks that are not accepted, none of which waits. -/
structure Restricts (c c' : Config τ σ α) : Prop where
  shared : c.shared = c'.shared
  tasks : (c.tasks.filter fun task => accepts task.1) = c'.tasks
  others : ∀ t phase, (t, phase) ∈ c.tasks → accepts t = false → phase = .pending ∨ phase = .done (reply t)

theorem Restricts.boot (s : σ) (ts : List τ) : Restricts accepts reply (boot s ts) (boot s (ts.filter accepts)) where
  shared := rfl
  tasks := by
    simp only [Tasks.boot, List.filter_map]
    rfl
  others t phase hm _ := by
    simp only [Tasks.boot, List.mem_map, Prod.mk.injEq] at hm
    obtain ⟨_, _, _, rfl⟩ := hm
    exact .inl rfl

/-- The task at one place moved on, and the others are where they were. -/
theorem Restricts.others_put {c c' : Config τ σ α} (h : Restricts accepts reply c c')
    {before after : List (τ × Phase α)} {t : τ} {phase phase' : Phase α}
    (hsplit : c.tasks = before ++ (t, phase) :: after)
    (ht : accepts t = false → phase' = .pending ∨ phase' = .done (reply t)) (u : τ) (other : Phase α)
    (hm : (u, other) ∈ before ++ (t, phase') :: after) (hu : accepts u = false) :
    other = .pending ∨ other = .done (reply u) := by
  simp only [List.mem_append, List.mem_cons, Prod.mk.injEq] at hm
  rcases hm with hm | ⟨rfl, rfl⟩ | hm
  · exact h.others u other (by simp [hsplit, hm]) hu
  · exact ht hu
  · exact h.others u other (by simp [hsplit, hm]) hu

/-- A turn of an accepted task is its turn in the program, and any other turn is nobody's there. -/
theorem Restricts.step {c c' : Config τ σ α} (h : Restricts accepts reply c c') (i : Nat) :
    ∃ turns, Restricts accepts reply ((P.dispatch accepts reply).step c i) (P.run c' turns) := by
  cases hi : c.tasks[i]? with
  | none =>
    rw [step_of_none hi]
    exact ⟨[], h⟩
  | some task =>
    obtain ⟨t, phase⟩ := task
    obtain ⟨before, after, hsplit, hstep⟩ := step_split (P := P.dispatch accepts reply) hi
    have htasks := h.tasks
    rw [hsplit, List.filter_append, List.filter_cons] at htasks
    rw [hstep]
    cases ht : accepts t with
    | true =>
      -- the turn of the task in the program is at its place among the accepted
      simp only [ht, if_true] at htasks
      have hturn : c'.tasks[(before.filter fun task => accepts task.1).length]? = some (t, phase) := by
        rw [← htasks]
        simp
      refine ⟨[(before.filter fun task => accepts task.1).length], ?_⟩
      rw [run_cons, run_nil, step_eq hturn, advance_accepted ht, h.shared]
      refine { shared := rfl, tasks := ?_, others := h.others_put hsplit fun hrefused => ?_ }
      · simp [← htasks, ht]
      · cases ht.symm.trans hrefused
    | false =>
      have hphase := h.others t phase (List.mem_of_getElem? hi) ht
      simp only [ht, Bool.false_eq_true, if_false] at htasks
      rw [advance_replied ht c.shared hphase]
      refine ⟨[], { shared := h.shared, tasks := ?_, others := h.others_put hsplit fun _ => .inr rfl }⟩
      simp [← htasks, ht]

theorem Restricts.run {c c' : Config τ σ α} (h : Restricts accepts reply c c') (schedule : List Nat) :
    ∃ turns, Restricts accepts reply ((P.dispatch accepts reply).run c schedule) (P.run c' turns) := by
  induction schedule generalizing c c' with
  | nil => exact ⟨[], h⟩
  | cons i schedule ih =>
    obtain ⟨turn, hstep⟩ := h.step (P := P) i
    obtain ⟨turns, hrun⟩ := ih hstep
    rw [← run_append] at hrun
    exact ⟨turn ++ turns, hrun⟩

/-- **The rule for dispatched tasks.** Some schedule of the accepted tasks alone comes to the same state and to
their answers; the others have no answer but their reply. -/
theorem run_dispatch (P : Program τ σ α) (accepts : τ → Bool) (reply : τ → α) (s : σ) (ts : List τ)
    (schedule : List Nat) : ∃ turns, Restricts accepts reply
      ((P.dispatch accepts reply).run (Tasks.boot s ts) schedule) (P.run (Tasks.boot s (ts.filter accepts)) turns) :=
  (Restricts.boot s ts).run schedule

/-! ## Programs that agree on the tasks -/

theorem tasks_step (c : Config τ σ α) (i : Nat) : (P.step c i).tasks.map Prod.fst = c.tasks.map Prod.fst := by
  cases hi : c.tasks[i]? with
  | none => rw [step_of_none hi]
  | some task =>
    obtain ⟨t, phase⟩ := task
    obtain ⟨before, after, hsplit, hstep⟩ := step_split (P := P) hi
    rw [hstep, hsplit]
    simp

/-- Dispatchers that accept the same of the tasks that run come to the same. -/
theorem run_dispatch_congr {accepts' : τ → Bool} {c : Config τ σ α}
    (h : ∀ t ∈ c.tasks.map Prod.fst, accepts t = accepts' t) (schedule : List Nat) :
    (P.dispatch accepts reply).run c schedule = (P.dispatch accepts' reply).run c schedule := by
  induction schedule generalizing c with
  | nil => rfl
  | cons i schedule ih =>
    have hstep : (P.dispatch accepts reply).step c i = (P.dispatch accepts' reply).step c i := by
      cases hi : c.tasks[i]? with
      | none => rw [step_of_none hi, step_of_none hi]
      | some task =>
        obtain ⟨t, phase⟩ := task
        have ht : accepts t = accepts' t := h t (List.mem_map_of_mem (List.mem_of_getElem? hi))
        have hadvance : (P.dispatch accepts reply).advance t phase c.shared =
            (P.dispatch accepts' reply).advance t phase c.shared := by
          cases phase <;> simp [advance, dispatch, ht]
        rw [step_eq hi, step_eq hi, hadvance]
    rw [run_cons, run_cons, hstep]
    refine ih fun t ht => h t ?_
    rwa [tasks_step] at ht

end Program

end Tasks
