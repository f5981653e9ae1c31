/-
Which requests come to a handler. The route of `/v1/evaluate` is there as soon
as the application is; that of the operation-aware endpoint is there once its
router is registered. On a path without a route the framework answers 404, and
no handler runs, so a process serves the requests it routes as its handlers
serve them alone.
-/
import BasisGateway.Interleaving
import BasisGateway.Lib.Dispatch

namespace BasisGateway

open Tasks

/-- The framework, by its own answer where no route matches. -/
structure Framework where
  notFound : Request → JSONResponse
  notFound_statusCode : ∀ req, (notFound req).statusCode = 404

/-- Whether the endpoint has a route. The operation-aware one has it where its router is registered. -/
def Endpoint.routed (registered : Bool) : Endpoint → Bool
  | .evaluate => true
  | .operationAware => registered

/-- The requests of an application with these routes, as tasks over the shared world. -/
def routes (framework : Framework) (registered : Bool) (app : App) : Program (Endpoint × Request) World Outcome :=
  (handlers app).dispatch (fun task => task.1.routed registered) fun task => (.ok (framework.notFound task.2), [])

section

variable {framework : Framework} {registered : Bool} {app : App}

/-- The world is left as the handlers leave it that serve the routed requests alone. -/
theorem shared_routes (framework : Framework) (registered : Bool) (app : App) (w : World)
    (requests : List (Endpoint × Request)) (schedule : List Nat) : ∃ turns,
      ((routes framework registered app).run (boot w requests) schedule).shared =
        ((handlers app).run (boot w (requests.filter fun task => task.1.routed registered)) turns).shared := by
  obtain ⟨turns, hrun⟩ := (handlers app).run_dispatch (fun task => task.1.routed registered)
    (fun task => (.ok (framework.notFound task.2), [])) w requests schedule
  exact ⟨turns, hrun.shared⟩

/-- An answer is the framework's, or one of the handlers serving the routed requests alone. -/
theorem answer_of_routes {w : World} {requests : List (Endpoint × Request)} {schedule : List Nat}
    {task : Endpoint × Request} {outcome : Outcome}
    (hm : (task, .done outcome) ∈ ((routes framework registered app).run (boot w requests) schedule).tasks) :
    (task.1.routed registered = false ∧ outcome = (.ok (framework.notFound task.2), [])) ∨
      task.1.routed registered = true ∧ ∃ turns, (task, .done outcome) ∈
        ((handlers app).run (boot w (requests.filter fun task => task.1.routed registered)) turns).tasks := by
  obtain ⟨turns, hrun⟩ := (handlers app).run_dispatch (fun task => task.1.routed registered)
    (fun task => (.ok (framework.notFound task.2), [])) w requests schedule
  cases hrouted : task.1.routed registered with
  | false =>
    rcases hrun.others task _ hm hrouted with hpending | hdone
    · cases hpending
    · exact .inl ⟨rfl, Phase.done.inj hdone⟩
  | true =>
    refine .inr ⟨rfl, turns, ?_⟩
    rw [← hrun.tasks, List.mem_filter]
    exact ⟨hm, hrouted⟩

/-- A request that is granted came to its handler. -/
theorem granted_of_routes {w : World} {requests : List (Endpoint × Request)} {schedule : List Nat}
    {task : Endpoint × Request} {response : JSONResponse} {asked : List Call}
    (hm : (task, .done (.ok response, asked)) ∈
      ((routes framework registered app).run (boot w requests) schedule).tasks)
    (hstatus : response.statusCode = 200) :
    task.1.routed registered = true ∧ ∃ turns, (task, .done (.ok response, asked)) ∈
      ((handlers app).run (boot w (requests.filter fun task => task.1.routed registered)) turns).tasks := by
  rcases answer_of_routes hm with ⟨-, hanswer⟩ | hserved
  · obtain ⟨hresponse, -⟩ := Prod.mk.inj hanswer
    rw [Except.ok.inj hresponse, framework.notFound_statusCode] at hstatus
    exact absurd hstatus (by decide)
  · exact hserved

end

end BasisGateway
