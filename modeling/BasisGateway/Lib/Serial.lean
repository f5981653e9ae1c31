/-
Runs that are serial. A task can also be taken at once, both parts without
another task between them. Where each part of a run either answers as its
task taken at once would there, or leaves its task waiting and the state as
it was, the run comes to what its tasks come to one after another, in the
order of their answers (`run_serial`).
-/
import BasisGateway.Lib.Tasks
import Mathlib.Data.List.Basic

namespace Tasks

variable {τ σ α : Type}

/-- The task and its answer, once it has answered. -/
def answer? : τ × Phase α → Option (τ × α)
  | (t, .done a) => some (t, a)
  | _ => none

/-- The tasks that have answered, and their answers. -/
def Config.answered (c : Config τ σ α) : List (τ × α) := c.tasks.filterMap answer?

@[simp] theorem answered_boot (s : σ) (ts : List τ) : (boot s ts : Config τ σ α).answered = [] := by
  simp [Config.answered, boot, answer?]

theorem mem_answered {c : Config τ σ α} {t : τ} {a : α} : (t, a) ∈ c.answered ↔ (t, .done a) ∈ c.tasks := by
  rw [Config.answered, List.mem_filterMap]
  constructor
  · rintro ⟨⟨u, phase⟩, hm, hanswer⟩
    cases phase with
    | done b =>
      cases hanswer
      exact hm
    | _ => cases hanswer
  · exact fun hm => ⟨_, hm, rfl⟩

/-- A task that had not answered comes to another phase. -/
theorem answered_set {c : Config τ σ α} {i : Nat} {t : τ} {phase : Phase α} (hi : c.tasks[i]? = some (t, phase))
    (hopen : answer? (t, phase) = none) (s : σ) (phase' : Phase α) :
    (⟨s, c.tasks.set i (t, phase')⟩ : Config τ σ α).answered.Perm (c.answered ++ (answer? (t, phase')).toList) := by
  obtain ⟨hlt, hget⟩ := List.getElem?_eq_some_iff.1 hi
  obtain ⟨before, after, hbefore, -, hset⟩ : ∃ before after, c.tasks = before ++ c.tasks[i] :: after ∧
      before.length = i ∧ c.tasks.set i (t, phase') = before ++ (t, phase') :: after := List.exists_of_set hlt
  rw [hget] at hbefore
  have hanswered : c.answered = before.filterMap answer? ++ after.filterMap answer? := by
    rw [Config.answered, hbefore, List.filterMap_append, List.filterMap_cons, hopen]
  rw [hanswered, Config.answered, hset, List.filterMap_append, List.filterMap_cons]
  cases answer? (t, phase') with
  | none => simp
  | some answered =>
    rw [Option.toList_some]
    exact List.perm_middle.trans (List.perm_append_singleton ..).symm

namespace Program

variable (P : Program τ σ α)

/-! ## One after another -/

/-- The task at once. -/
def serve (t : τ) (s : σ) : α × σ :=
  match P.start t s with
  | (some a, s') => (a, s')
  | (none, s') => P.finish t s'

def stateAfter : List τ → σ → σ
  | [], s => s
  | t :: ts, s => stateAfter ts (P.serve t s).2

def answersOf : List τ → σ → List (τ × α)
  | [], _ => []
  | t :: ts, s => (t, (P.serve t s).1) :: answersOf ts (P.serve t s).2

/-! ## The order of the answers -/

/-- The task, if this part answers. -/
def ending (t : τ) : Phase α → σ → List τ
  | .pending, s => if (P.start t s).1.isSome then [t] else []
  | .waiting, _ => [t]
  | .done _, _ => []

/-- The tasks that a schedule brings to their answers, in that order. -/
def order : Config τ σ α → List Nat → List τ
  | _, [] => []
  | c, i :: schedule => (c.tasks[i]?.elim [] fun task => P.ending task.1 task.2 c.shared) ++
      order (P.step c i) schedule

theorem order_append (earlier later : List Nat) (c : Config τ σ α) :
    P.order c (earlier ++ later) = P.order c earlier ++ P.order (P.run c earlier) later := by
  induction earlier generalizing c with
  | nil => rfl
  | cons i earlier ih => rw [List.cons_append, order, order, ih, run_cons, List.append_assoc]

/-! ## Serial runs -/

/-- A part that answers does so as its task at once; any other leaves the state as it was. -/
def AtOnce (t : τ) : Phase α → σ → Prop
  | .pending, s => (P.start t s).1 = none → (P.start t s).2 = s
  | .waiting, s => P.start t s = (none, s)
  | .done _, _ => True

variable {P}

theorem Throughout.imp {R R' : τ → Phase α → σ → Prop} (himp : ∀ t phase s, R t phase s → R' t phase s) :
    ∀ {schedule : List Nat} {c : Config τ σ α}, P.Throughout R c schedule → P.Throughout R' c schedule
  | [], _, _ => trivial
  | _ :: _, _, ⟨hi, hrest⟩ => ⟨fun t phase htask => himp t phase _ (hi t phase htask), hrest.imp himp⟩

theorem throughout_of_forall {R : τ → Phase α → σ → Prop} (h : ∀ t phase s, R t phase s) :
    ∀ (schedule : List Nat) (c : Config τ σ α), P.Throughout R c schedule
  | [], _ => trivial
  | i :: schedule, c => ⟨fun t phase _ => h t phase _, throughout_of_forall h schedule (P.step c i)⟩

/-- What a turn does to the state, and to the answers. -/
theorem step_serial {c : Config τ σ α} {i : Nat} {t : τ} {phase : Phase α} (hi : c.tasks[i]? = some (t, phase))
    (hatOnce : P.AtOnce t phase c.shared) :
    (P.step c i).shared = P.stateAfter (P.ending t phase c.shared) c.shared ∧
    (P.step c i).answered.Perm (c.answered ++ P.answersOf (P.ending t phase c.shared) c.shared) := by
  rw [step_eq hi]
  cases phase with
  | pending =>
    have hset := answered_set hi rfl (P.advance t .pending c.shared).2 (P.advance t .pending c.shared).1
    cases hstart : P.start t c.shared with
    | mk answer s =>
      cases answer with
      | none =>
        have hs : s = c.shared := by
          have hidle := hatOnce (by rw [hstart])
          rwa [hstart] at hidle
        simpa [advance, ending, hstart, stateAfter, answersOf, answer?, hs] using hset
      | some a => simpa [advance, ending, hstart, stateAfter, answersOf, serve, answer?] using hset
  | waiting =>
    have hset := answered_set hi rfl (P.advance t .waiting c.shared).2 (P.advance t .waiting c.shared).1
    have hstart : P.start t c.shared = (none, c.shared) := hatOnce
    simpa [advance, ending, hstart, stateAfter, answersOf, serve, answer?] using hset
  | done a =>
    have hsame : c.tasks.set i (t, .done a) = c.tasks := by
      obtain ⟨hlt, hget⟩ := List.getElem?_eq_some_iff.1 hi
      rw [← hget, List.set_getElem_self]
    simp [advance, ending, stateAfter, answersOf, hsame]

theorem stateAfter_append (ts us : List τ) (s : σ) :
    P.stateAfter (ts ++ us) s = P.stateAfter us (P.stateAfter ts s) := by
  induction ts generalizing s with
  | nil => rfl
  | cons t ts ih => exact ih (P.serve t s).2

theorem answersOf_append (ts us : List τ) (s : σ) :
    P.answersOf (ts ++ us) s = P.answersOf ts s ++ P.answersOf us (P.stateAfter ts s) := by
  induction ts generalizing s with
  | nil => rfl
  | cons t ts ih =>
    show _ :: P.answersOf (ts ++ us) (P.serve t s).2 = _
    rw [ih]
    rfl

/-- **The rule for serial runs.** -/
theorem run_serial : ∀ (schedule : List Nat) {c : Config τ σ α}, P.Throughout P.AtOnce c schedule →
    (P.run c schedule).shared = P.stateAfter (P.order c schedule) c.shared ∧
    (P.run c schedule).answered.Perm (c.answered ++ P.answersOf (P.order c schedule) c.shared)
  | [], c, _ => by simp [order, stateAfter, answersOf]
  | i :: schedule, c, ⟨hi, hrest⟩ => by
    obtain ⟨hshared, hanswered⟩ := run_serial schedule hrest
    rw [run_cons, order]
    cases htask : c.tasks[i]? with
    | none =>
      have hstep : P.step c i = c := by simp only [step, htask]
      rw [hstep] at hshared hanswered ⊢
      exact ⟨hshared, hanswered⟩
    | some task =>
      obtain ⟨hstate, hanswer⟩ := step_serial htask (hi task.1 task.2 htask)
      rw [Option.elim_some, stateAfter_append, answersOf_append, ← hstate]
      refine ⟨hshared, hanswered.trans ?_⟩
      rw [← List.append_assoc]
      exact hanswer.append_right _

end Program

end Tasks
