/-
The gateway one request at a time. Interleaved requests come to what the same
requests come to when each is served at once, in the order in which they were
answered: the same answers and calls, the same writer and readiness, and a
trace in which no request's entries stand between another's.

In default mode this is so of every interleaving. In strict mode it is so as
long as no request resumes degraded, and none is let through by a probe of
its own; what the second part of a request does is then what its first part
would let it do there.
-/
import BasisGateway.Correlation
import BasisGateway.Lib.Serial

namespace BasisGateway

open Script Tasks

/-! ## One request at a time -/

/-- The requests, each served at once. -/
def servings (app : App) : List (Endpoint × Request) → World → List ((Endpoint × Request) × Served)
  | [], _ => []
  | task :: tasks, w =>
    let served := task.1.serve app task.2 id w
    (task, served) :: servings app tasks served.world

@[simp] theorem map_fst_servings (app : App) (tasks : List (Endpoint × Request)) (w : World) :
    (servings app tasks w).map Prod.fst = tasks := by
  induction tasks generalizing w with
  | nil => rfl
  | cons task tasks ih => rw [servings, List.map_cons, ih]

/-- The world after them. -/
def World.afterServing (app : App) : List (Endpoint × Request) → World → World
  | [], w => w
  | task :: tasks, w => afterServing app tasks (task.1.serve app task.2 id w).world

/-- What a request that was served at once comes to. -/
def Served.outcome (served : Served) : Outcome := (served.answer, calls served.observed)

/-- A request at once, in the two-part program. -/
theorem serve_handlers (app : App) (task : Endpoint × Request) (w : World) :
    (handlers app).serve task w =
      ((task.1.serve app task.2 id w).outcome, (task.1.serve app task.2 id w).world) := by
  cases hbegin : task.1.begin app task.2 w with
  | mk begun w₁ =>
    have hcalls : calls (w₁.since w) = [] := by
      have h := task.1.calls_begin app task.2 w
      rwa [hbegin] at h
    cases begun with
    | some answer =>
      simp only [Program.serve, handlers, Endpoint.serve, Served.outcome, hbegin, Option.map_some, hcalls]
    | none =>
      simp only [Program.serve, handlers, Endpoint.serve, Served.outcome, hbegin, Option.map_none, calls_append,
        hcalls, List.nil_append, id_eq]

theorem stateAfter_handlers (app : App) (tasks : List (Endpoint × Request)) (w : World) :
    (handlers app).stateAfter tasks w = World.afterServing app tasks w := by
  induction tasks generalizing w with
  | nil => rfl
  | cons task tasks ih =>
    rw [Program.stateAfter, World.afterServing, serve_handlers]
    exact ih _

theorem answersOf_handlers (app : App) (tasks : List (Endpoint × Request)) (w : World) :
    (handlers app).answersOf tasks w = (servings app tasks w).map fun s => (s.1, s.2.outcome) := by
  induction tasks generalizing w with
  | nil => rfl
  | cons task tasks ih =>
    rw [Program.answersOf, servings, List.map_cons, serve_handlers, ih]

/-- Served at once, a request leaves its entries together. -/
theorem Endpoint.trace_serve (endpoint : Endpoint) (app : App) (req : Request) (w : World) :
    (endpoint.serve app req id w).world.trace = w.trace ++ (endpoint.serve app req id w).observed := by
  have hbegun := endpoint.trace_begin app req w
  rw [← endpoint.since_begin] at hbegun
  cases hbegin : endpoint.begin app req w with
  | mk begun w₁ =>
    rw [hbegin] at hbegun
    cases begun with
    | some answer => simpa only [Endpoint.serve, hbegin] using hbegun
    | none =>
      have hbegun : w₁.trace = w.trace ++ w₁.since w := hbegun
      rw [Endpoint.serve_of_begin hbegin]
      simp only [id_eq, World.replay_trace]
      rw [hbegun, List.append_assoc]

theorem trace_afterServing (app : App) (tasks : List (Endpoint × Request)) (w : World) :
    (World.afterServing app tasks w).trace = w.trace ++ (servings app tasks w).flatMap (·.2.observed) := by
  induction tasks generalizing w with
  | nil => simp [World.afterServing, servings]
  | cons task tasks ih =>
    rw [World.afterServing, ih, Endpoint.trace_serve, servings, List.flatMap_cons, List.append_assoc]

/-! ## Turns that are not disturbed -/

/-- In strict mode, a turn that comes while the writer is degraded is the first of a request whose probe fails. -/
def Undisturbed (app : App) (task : Endpoint × Request) (phase : Phase Outcome) (w : World) : Prop :=
  app.auditFailClosed = true → w.degraded = true → match phase with
    | .pending => (w.afterEmit (task.1.probe task.2)).degraded = true
    | .waiting => False
    | .done _ => True

theorem undisturbed_of_default {app : App} (h : app.auditFailClosed = false) (task : Endpoint × Request)
    (phase : Phase Outcome) (w : World) : Undisturbed app task phase w := by
  intro hstrict
  rw [h] at hstrict
  cases hstrict

theorem atOnce_of_undisturbed {app : App} {task : Endpoint × Request} {phase : Phase Outcome} {w : World}
    (h : Undisturbed app task phase w) : (handlers app).AtOnce task phase w := by
  by_cases hstrict : (app.auditFailClosed && w.degraded) = true
  · obtain ⟨hmode, hdegraded⟩ := Bool.and_eq_true_iff.1 hstrict
    cases phase with
    | pending =>
      intro hwaits
      have hprobe : (w.afterEmit (task.1.probe task.2)).degraded = true := h hmode hdegraded
      simp only [handlers, Endpoint.begin_eq, hstrict, hprobe, if_true, Option.map_some, reduceCtorEq] at hwaits
    | waiting => exact (h hmode hdegraded).elim
    | done _ => trivial
  · have hstart : (handlers app).start task w = (none, w) := by
      simp only [handlers, Endpoint.begin_eq, hstrict, Bool.false_eq_true, if_false, Option.map_none]
    cases phase with
    | pending => exact fun _ => by rw [hstart]
    | waiting => exact hstart
    | done _ => trivial

/-! ## Every interleaving -/

/-- **Interleaved requests are served one at a time.** Any requests in any interleaving, in default mode, or in
strict mode as long as its turns are not disturbed. The run leaves the world that its requests leave when each is
served at once, in the order of their answers; it answers them as these do, with the same calls; its trace is
theirs, request after request; a request that was answered before another began stands before it; and every
request whose turn came twice is among them. -/
theorem requests_serialize (app : App) (w : World) (requests : List (Endpoint × Request)) (schedule : List Nat)
    (hcalm : (handlers app).Throughout (Undisturbed app) (boot w requests) schedule) :
    let final := (handlers app).run (boot w requests) schedule
    let order := (handlers app).order (boot w requests)
    final.shared = World.afterServing app (order schedule) w ∧
    final.answered.Perm ((servings app (order schedule) w).map fun s => (s.1, s.2.outcome)) ∧
    final.shared.trace = w.trace ++ (servings app (order schedule) w).flatMap (·.2.observed) ∧
    (∀ earlier later, schedule = earlier ++ later → order earlier <+: order schedule) ∧
    ∀ (i : Nat) task, requests[i]? = some task → 2 ≤ schedule.count i → task ∈ order schedule := by
  intro final order
  obtain ⟨hshared, hanswered⟩ := Program.run_serial schedule (hcalm.imp fun _ _ _ => atOnce_of_undisturbed)
  rw [answered_boot, List.nil_append, answersOf_handlers] at hanswered
  have hworld : final.shared = World.afterServing app (order schedule) w :=
    hshared.trans (stateAfter_handlers app (order schedule) w)
  refine ⟨hworld, hanswered, ?_, fun earlier later hsplit => ?_, fun i task hi hturns => ?_⟩
  · rw [hworld, trace_afterServing]
  · rw [hsplit]
    exact ⟨_, (Program.order_append _ earlier later _).symm⟩
  · obtain ⟨outcome, hdone⟩ := Program.done_of_two_turns (P := handlers app) (s := w) hi hturns
    have hmem := (hanswered.mem_iff (a := (task, outcome))).1 (mem_answered.2 (List.mem_of_getElem? hdone))
    obtain ⟨s, hs, hfst⟩ := List.mem_map.1 hmem
    rw [← map_fst_servings app (order schedule) w]
    exact List.mem_map.2 ⟨s, hs, congrArg Prod.fst hfst⟩

/-- In default mode the condition holds of every run. -/
theorem undisturbed_run {app : App} (h : app.auditFailClosed = false) (schedule : List Nat)
    (c : Config (Endpoint × Request) World Outcome) : (handlers app).Throughout (Undisturbed app) c schedule :=
  Program.throughout_of_forall (undisturbed_of_default h) schedule c

/-- The theorem at two interleaved requests in default mode: the second is answered first. -/
theorem requests_serialize_two :
    let app := echoingApp.inDefaultMode brittleConfig
    let final := (handlers app).run (boot acceptingWorld twoRequests) [0, 1, 1, 0]
    let order := (handlers app).order (boot acceptingWorld twoRequests)
    order [0, 1, 1, 0] = twoRequests.reverse ∧
    final.shared = World.afterServing app (order [0, 1, 1, 0]) acceptingWorld ∧
    final.answered.Perm ((servings app (order [0, 1, 1, 0]) acceptingWorld).map fun s => (s.1, s.2.outcome)) ∧
    final.shared.trace =
      acceptingWorld.trace ++ (servings app (order [0, 1, 1, 0]) acceptingWorld).flatMap (·.2.observed) ∧
    (∀ earlier later, [0, 1, 1, 0] = earlier ++ later → order earlier <+: order [0, 1, 1, 0]) ∧
    ∀ (i : Nat) task, twoRequests[i]? = some task → 2 ≤ [0, 1, 1, 0].count i → task ∈ order [0, 1, 1, 0] := by
  refine ⟨?_, requests_serialize (echoingApp.inDefaultMode brittleConfig) acceptingWorld twoRequests [0, 1, 1, 0]
    (undisturbed_run rfl _ _)⟩
  simp only [Program.order, Program.step, boot, twoRequests, List.map_cons, List.map_nil, start_handlers,
    List.getElem?_cons_zero, List.getElem?_cons_succ, List.set_cons_zero, List.set_cons_succ, Program.advance,
    Option.elim_none, Option.elim_some, Program.ending, Option.isSome_none]
  rfl

end BasisGateway
