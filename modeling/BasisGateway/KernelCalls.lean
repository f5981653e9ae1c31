/-
From a kernel call back to its request: a call that was observed is the call
of an admitted request, and carries what admission composed.
-/
import BasisGateway.FailClosed

namespace BasisGateway

open Script

/-- The calls of a request are its script's, if the strict-mode check lets it through. -/
theorem Endpoint.mem_calls_serve {endpoint : Endpoint} {app : App} {req : Request} {between : World → World}
    {w : World} {call : Call} (h : call ∈ calls (endpoint.serve app req between w).observed) :
    ∃ present, call ∈ callsOf (endpoint.script app req present).effects := by
  have hcalls := endpoint.calls_begin app req w
  rcases hb : endpoint.begin app req w with ⟨- | answer, w₁⟩
  · rw [hb] at hcalls
    rw [serve_of_begin hb, calls_append, hcalls, List.nil_append, calls_observed] at h
    exact ⟨_, h⟩
  · simp only [serve, hb] at h hcalls
    rw [hcalls] at h
    cases h

namespace Evaluate

variable {app : App} {req : Request}

/-- Once its request is built, the kernel is called, with that request. -/
theorem callsOf_decideScript {a : Admitted} {call : KernelCall}
    (hk : (a.input req).kernelCall app.models req.readings = .ok call) :
    callsOf (decideScript app req a).effects = [.evaluator, .kernel call] := by
  rcases hr : (a.evaluator.enforcementPoint call).result with exc | decision
  · obtain ⟨stop, hs⟩ := decided_error req a.evaluator a.subject exc
    simp [decideScript_raised hk hr hs]
  · simp [decideScript_decided hk hr]

/-- The kernel is called with the input of the admitted request. -/
theorem kernelCall_of_mem {a : Admitted} {call : KernelCall}
    (h : Call.kernel call ∈ callsOf (decideScript app req a).effects) :
    (a.input req).kernelCall app.models req.readings = .ok call := by
  rcases hk : (a.input req).kernelCall app.models req.readings with exc | call'
  · obtain ⟨stop, hs⟩ := decided_error req a.evaluator a.subject exc
    simp [decideScript_unbuilt hk hs] at h
  · simp only [callsOf_decideScript hk, List.mem_cons, reduceCtorEq, List.not_mem_nil, or_false, false_or,
      Call.kernel.injEq] at h
    rw [h]

/-- The calls of a request that goes through every gate. -/
theorem callsOf_of_through {a : Admitted} (ha : Through app req a) {call : KernelCall}
    (hk : (a.input req).kernelCall app.models req.readings = .ok call) :
    callsOf (script app req).effects = [.bodyRead, .authenticate, .evaluator, .kernel call] := by
  have hadmission : admissionScript app req = ⟨[.record .bodyRead, .record .authenticate], .ok a⟩ := by
    simp only [admissionScript, perform_bind, Gate.script, ha.body, ha.compose, ha.bearer, ha.authentication,
      ha.evaluator, pure_eq, bind_ok, List.nil_append, List.append_nil]
  rw [script, hadmission, bind_ok]
  simp only [List.cons_append, List.nil_append, callsOf_record, callsOf_decideScript hk]

/-- A kernel call is the one of a request that went through every gate. -/
theorem through_of_kernel {call : KernelCall} (h : Call.kernel call ∈ callsOf (script app req).effects) :
    ∃ a, Through app req a ∧ (a.input req).kernelCall app.models req.readings = .ok call := by
  unfold script at h
  rcases admissionScript_cases app req with ⟨a, ha, hS⟩ | ⟨before, stop, hstop, hS⟩
  · rw [hS, bind_ok] at h
    have hmem : Call.kernel call ∈ callsOf (decideScript app req a).effects := by simpa using h
    exact ⟨a, ha, kernelCall_of_mem hmem⟩
  · rw [hS, bind_error] at h
    rcases hstop.before_cases with rfl | rfl <;> simp at h

end Evaluate

namespace OperationAware

variable {app : App} {req : Request}

/-- Once its request is built, the kernel is called, with that request. -/
theorem callsOf_decideScript (present : Bool) {a : Admitted} {call : OperationAwareKernelCall}
    (hk : a.composed.kernelCall app.models app.printable req.readings = .ok call) :
    callsOf (decideScript app req present a).effects = [.evaluator, .operationAwareKernel call] := by
  rcases hr : a.evaluator.enforcementPoint call with exc | result
  · obtain ⟨stop, hs⟩ := evaluated_error req a.subject exc
    simp only [decideScript_raised present hk hr hs, callsOf_record, callsOf_stop]
  · obtain ⟨es, hcalls, heffects, -⟩ := decideScript_returned present hk hr
    simp only [heffects, hcalls, callsOf_record]

/-- The kernel is called with the composed input of the request. -/
theorem kernelCall_of_mem {present : Bool} {a : Admitted} {call : OperationAwareKernelCall}
    (h : Call.operationAwareKernel call ∈ callsOf (decideScript app req present a).effects) :
    a.composed.kernelCall app.models app.printable req.readings = .ok call := by
  rcases hk : a.composed.kernelCall app.models app.printable req.readings with exc | call'
  · obtain ⟨stop, hs⟩ := evaluated_error req a.subject exc
    simp [decideScript_unbuilt present hk hs] at h
  · simp only [callsOf_decideScript present hk, List.mem_cons, reduceCtorEq, List.not_mem_nil, or_false, false_or,
      Call.operationAwareKernel.injEq] at h
    rw [h]

/-- The calls of a request that goes through every gate. -/
theorem callsOf_of_through (present : Bool) {a : Admitted} (ha : Through app req a)
    {call : OperationAwareKernelCall}
    (hk : a.composed.kernelCall app.models app.printable req.readings = .ok call) :
    callsOf (script app req present).effects =
      [.bodyRead, .authenticate, .evaluator, .operationAwareKernel call] := by
  have hadmission : admissionScript app req = ⟨[.record .bodyRead, .record .authenticate], .ok a⟩ := by
    simp only [admissionScript, perform_bind, Gate.script, ha.body, ha.bearer, ha.authentication, ha.producerTrust,
      ha.composition, ha.evaluator, pure_eq, bind_ok, List.nil_append, List.append_nil]
  rw [script, hadmission, bind_ok]
  simp only [List.cons_append, List.nil_append, callsOf_record, callsOf_decideScript present hk]

/-- A kernel call is the one of a request that went through every gate. -/
theorem through_of_kernel {present : Bool} {call : OperationAwareKernelCall}
    (h : Call.operationAwareKernel call ∈ callsOf (script app req present).effects) :
    ∃ a, Through app req a ∧
      script app req present =
        (⟨[.record .bodyRead, .record .authenticate], .ok a⟩ >>= decideScript app req present) ∧
      a.composed.kernelCall app.models app.printable req.readings = .ok call := by
  unfold script at h ⊢
  rcases admissionScript_cases app req with ⟨a, ha, hS⟩ | ⟨before, stop, hstop, hS⟩
  · rw [hS, bind_ok] at h
    have hmem : Call.operationAwareKernel call ∈ callsOf (decideScript app req present a).effects := by
      simpa using h
    exact ⟨a, ha, by rw [hS], kernelCall_of_mem hmem⟩
  · rw [hS, bind_error] at h
    rcases hstop.before_cases with rfl | rfl <;> simp at h

end OperationAware

end BasisGateway
