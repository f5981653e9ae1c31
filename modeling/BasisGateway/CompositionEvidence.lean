/-
The evidence of a composition, on `/v1/evaluate`. The kernel's action,
resource id and context determine the caller's: what was not composed passes
through unchanged, and what was composed is written down under the reserved
prefix, where no caller can write.
-/
import BasisGateway.KernelCalls
import BasisGateway.StrictMode

namespace BasisGateway

open Script

/-! ## The entries -/

/-- The three keys only a composed resource id has. -/
def resourceEvidenceKeys : List String :=
  ["basis_gateway.resource_composed", "basis_gateway.original_resource_id", "basis_gateway.composed_resource_id"]

/-- The evidence of a composed action. -/
def actionEvidence (action resourceType : String) : List (String × String) :=
  [("basis_gateway.action_composed", "true"), ("basis_gateway.original_action", action),
    ("basis_gateway.resource_type", resourceType), ("basis_gateway.composed_action", action ++ ":" ++ resourceType)]

/-- The evidence of a composed resource id, but for the resource type, which that of the action has. -/
def resourceEvidence (resourceType resourceId : String) : List (String × String) :=
  [("basis_gateway.resource_composed", "true"), ("basis_gateway.original_resource_id", resourceId),
    ("basis_gateway.composed_resource_id", resourceType ++ ":" ++ resourceId)]

/-- All the evidence of a composition, each key once. -/
def compositionEvidence (action : String) : Option String → Option String → List (String × String)
  | none, _ => []
  | some resourceType, none => actionEvidence action resourceType
  | some resourceType, some resourceId => actionEvidence action resourceType ++ resourceEvidence resourceType resourceId

/-- Every key any evidence has. -/
def evidenceKeys : List String :=
  ["basis_gateway.action_composed", "basis_gateway.original_action", "basis_gateway.resource_type",
    "basis_gateway.composed_action"] ++ resourceEvidenceKeys

theorem keys_compositionEvidence (action : String) (resourceType resourceId : Option String) :
    ((compositionEvidence action resourceType resourceId).map Prod.fst).Sublist evidenceKeys := by
  rcases resourceType with - | resourceType
  · exact List.nil_sublist _
  rcases resourceId with - | resourceId
  · exact List.sublist_append_left _ _
  · exact List.Sublist.refl _

theorem evidenceKeys_nodup : evidenceKeys.Nodup := by decide

theorem evidenceKeys_reserved : ∀ key ∈ evidenceKeys, startsWith key reservedContextPrefix = true := by
  decide

/-- A context without collisions has no reserved key. -/
theorem not_reserved_of_mem {context : Context} (h : reservedKeyCollisions context = []) {key : String}
    (hk : key ∈ context.keys) : startsWith key reservedContextPrefix = false := by
  by_contra hr
  have hmem : key ∈ reservedKeyCollisions context := by
    rw [reservedKeyCollisions, List.mem_insertionSort]
    exact List.mem_filter.2 ⟨hk, by simpa using hr⟩
  rw [h] at hmem
  cases hmem

theorem evidenceKey_notMem {context : Context} (h : reservedKeyCollisions context = []) {key : String}
    (hk : key ∈ evidenceKeys) : key ∉ context.keys := fun hm => by
  have hr := evidenceKeys_reserved key hk
  rw [not_reserved_of_mem h hm] at hr
  cases hr

theorem entries_update_evidence {context : Context} (h : reservedKeyCollisions context = [])
    {evidence : List (String × String)} (hkeys : (evidence.map Prod.fst).Sublist evidenceKeys) :
    (context.update evidence).entries = context.entries ++ evidence :=
  OrderedDict.entries_update_of_disjoint (evidenceKeys_nodup.sublist hkeys)
    fun _ hk => evidenceKey_notMem h (hkeys.subset hk)

/-- The second builder finds the resource type written, with the value it writes. -/
theorem update_resourceEvidence (d : Context) {resourceType : String}
    (h : d.get? evidenceResourceType = some resourceType) (resourceId : String) :
    d.update (buildResourceCompositionEvidence resourceId resourceType (resourceType ++ ":" ++ resourceId)) =
      d.update (resourceEvidence resourceType resourceId) := by
  have hget : ((d.set evidenceResourceComposed "true").set evidenceOriginalResourceId resourceId).get?
      evidenceResourceType = some resourceType := by
    rw [OrderedDict.get?_set_ne _ _ (by decide), OrderedDict.get?_set_ne _ _ (by decide), h]
  simp only [buildResourceCompositionEvidence, OrderedDict.update, List.foldl_cons, List.foldl_nil,
    OrderedDict.set_of_get? hget]
  rfl

/-- The kernel's context is the caller's, and then the evidence. -/
theorem entries_resourceContext {context : Context} {action composedAction : String}
    {resourceType resourceId : Option String} {resource : ResourceCompositionResult}
    {printable : Char → Bool} (hctx : reservedKeyCollisions context = [])
    (ha : composeAction printable action resourceType = .ok composedAction)
    (hr : composeResourceId printable resourceType resourceId = .ok resource) :
    (Evaluate.resourceContext (Evaluate.actionContext context action resourceType composedAction) resource).entries =
      context.entries ++ compositionEvidence action resourceType resourceId := by
  have hcomposed := composeAction_ok ha
  have hkeys := keys_compositionEvidence action resourceType resourceId
  cases composesResource_of_ok hr with
  | absent =>
    rcases resourceType with - | resourceType
    · exact (List.append_nil _).symm
    · rw [hcomposed]
      exact entries_update_evidence hctx hkeys
  | typed => exact (List.append_nil _).symm
  | composed resourceType resourceId =>
    have hget : (context.update (buildCompositionEvidence action resourceType composedAction)).get?
        evidenceResourceType = some resourceType := by
      simp [buildCompositionEvidence, OrderedDict.update, OrderedDict.get?_set, evidenceComposedAction,
        evidenceResourceType]
    simp only [Evaluate.actionContext, Evaluate.resourceContext]
    rw [update_resourceEvidence _ hget, hcomposed]
    show ((context.update (actionEvidence action resourceType)).update _).entries = _
    rw [OrderedDict.update, OrderedDict.update, ← List.foldl_append, ← OrderedDict.update]
    exact entries_update_evidence hctx hkeys

/-! ## What the kernel request says of the caller's -/

/-- The kernel request carries the caller's words: its context unchanged, and the evidence of each
composition under the reserved prefix. The evidence of both stands in the one context, so the resource
type they share has one value. -/
structure Evidenced (request : EvaluateRequest) (kernel : DecisionRequest) : Prop where
  caller : ∀ key value, request.context.get? key = some value → kernel.context.get? key = some value
  unforged : ∀ key ∈ request.context.keys, startsWith key "basis_gateway." = false
  nothingElse : ∀ key ∈ kernel.context.keys, key ∈ request.context.keys ∨ startsWith key "basis_gateway." = true
  reserved : (∃ key ∈ kernel.context.keys, startsWith key "basis_gateway." = true) ↔
    request.resourceType.isSome = true
  uncomposed : request.resourceType = none →
    kernel.action = request.action ∧ kernel.resourceId = request.resourceId
  action : ∀ resourceType, request.resourceType = some resourceType →
    kernel.action = request.action ++ ":" ++ resourceType ∧
    kernel.context.get? "basis_gateway.action_composed" = some "true" ∧
    kernel.context.get? "basis_gateway.original_action" = some request.action ∧
    kernel.context.get? "basis_gateway.resource_type" = some resourceType ∧
    kernel.context.get? "basis_gateway.composed_action" = some (request.action ++ ":" ++ resourceType)
  resource : ∀ resourceType resourceId, request.resourceType = some resourceType →
    request.resourceId = some resourceId →
      ':' ∉ resourceId.toList ∧ kernel.resourceId = some (resourceType ++ ":" ++ resourceId) ∧
      kernel.context.get? "basis_gateway.resource_composed" = some "true" ∧
      kernel.context.get? "basis_gateway.original_resource_id" = some resourceId ∧
      kernel.context.get? "basis_gateway.resource_type" = some resourceType ∧
      kernel.context.get? "basis_gateway.composed_resource_id" = some (resourceType ++ ":" ++ resourceId)
  resourceKeys : ∀ key ∈ ["basis_gateway.resource_composed", "basis_gateway.original_resource_id",
      "basis_gateway.composed_resource_id"],
    key ∈ kernel.context.keys ↔ request.resourceType.isSome = true ∧ request.resourceId.isSome = true

section

variable {app : App} {req : Request} {request : EvaluateRequest} {composed : Evaluate.Composed}
  {kernel : DecisionRequest}

/-- What `compose` composed. -/
theorem Evaluate.compose_result (h : compose app req request = .ok composed) :
    reservedKeyCollisions request.context = [] ∧
    ∃ resource, composeAction app.printable request.action request.resourceType = .ok composed.action ∧
      composeResourceId app.printable request.resourceType request.resourceId = .ok resource ∧
      composed.resourceId = resource.resourceId ∧
      composed.context = resourceContext
        (actionContext request.context request.action request.resourceType composed.action) resource := by
  simp only [compose] at h
  split at h
  next => cases h
  next hc =>
    split at h
    next => split at h <;> cases h
    next ha =>
      split at h
      next => split at h <;> cases h
      next hr =>
        cases h
        exact ⟨not_not.1 hc, _, ha, hr, rfl, rfl⟩

theorem key_mem_evidence (action : String) {resourceType resourceId : Option String} {key : String}
    (hkey : key ∈ resourceEvidenceKeys) :
    key ∈ (compositionEvidence action resourceType resourceId).map Prod.fst ↔
      resourceType.isSome = true ∧ resourceId.isSome = true := by
  simp only [resourceEvidenceKeys, List.mem_cons, List.not_mem_nil, or_false] at hkey
  rcases resourceType with - | resourceType
  · simp [compositionEvidence]
  rcases resourceId with - | resourceId
  · rcases hkey with rfl | rfl | rfl <;> simp [compositionEvidence, actionEvidence]
  · rcases hkey with rfl | rfl | rfl <;> simp [compositionEvidence, resourceEvidence]

theorem evidenced_of_compose (h : Evaluate.compose app req request = .ok composed)
    (haction : kernel.action = composed.action) (hresource : kernel.resourceId = composed.resourceId)
    (hcontext : kernel.context = composed.context) : Evidenced request kernel := by
  obtain ⟨hres, resource, ha, hr, hrid, hctx⟩ := Evaluate.compose_result h
  have hentries : kernel.context.entries = request.context.entries ++
      compositionEvidence request.action request.resourceType request.resourceId := by
    rw [hcontext, hctx]
    exact entries_resourceContext hres ha hr
  have hget (key value : String) : kernel.context.get? key = some value ↔
      (key, value) ∈ request.context.entries ∨
        (key, value) ∈ compositionEvidence request.action request.resourceType request.resourceId := by
    rw [OrderedDict.get?_eq_some_iff, hentries, List.mem_append]
  have hkeys (key : String) : key ∈ kernel.context.keys ↔ key ∈ request.context.keys ∨
      key ∈ (compositionEvidence request.action request.resourceType request.resourceId).map Prod.fst := by
    rw [OrderedDict.keys, hentries, List.map_append, List.mem_append, OrderedDict.keys]
  have hsub := (keys_compositionEvidence request.action request.resourceType request.resourceId).subset
  have hcomposed := composeAction_ok ha
  exact
    { caller := fun key value hv => (hget key value).2 (.inl ((OrderedDict.get?_eq_some_iff ..).1 hv))
      unforged := fun key => not_reserved_of_mem hres
      nothingElse := fun key hk => ((hkeys key).1 hk).imp_right fun hm => evidenceKeys_reserved key (hsub hm)
      reserved := by
        constructor
        · rintro ⟨key, hk, hr⟩
          rcases (hkeys key).1 hk with hk | hk
          · cases hr.symm.trans (not_reserved_of_mem hres hk)
          · cases hrt : request.resourceType with
            | none => simp [hrt, compositionEvidence] at hk
            | some => rfl
        · intro hsome
          obtain ⟨resourceType, hrt⟩ := Option.isSome_iff_exists.1 hsome
          refine ⟨"basis_gateway.resource_type", (hkeys _).2 (.inr ?_), by decide⟩
          rcases hid : request.resourceId with - | resourceId <;> simp [hrt, compositionEvidence, actionEvidence]
      uncomposed := fun hnone => by
        rw [haction, hresource, hrid, hcomposed, hnone]
        refine ⟨rfl, ?_⟩
        have hcases := composesResource_of_ok hr
        rw [hnone] at hcases
        generalize request.resourceId = resourceId at hcases ⊢
        cases hcases with
        | absent | typed => rfl
      action := fun resourceType hrt => by
        have hact : kernel.action = request.action ++ ":" ++ resourceType := by
          rw [haction, hcomposed, hrt, Option.elim_some]
        have hentry (entry : String × String) (he : entry ∈ actionEvidence request.action resourceType) :
            kernel.context.get? entry.1 = some entry.2 := by
          refine (hget entry.1 entry.2).2 (.inr ?_)
          rcases request.resourceId with - | resourceId
          · rwa [hrt]
          · rw [hrt]
            exact List.mem_append_left _ he
        simp only [actionEvidence, List.forall_mem_cons, List.not_mem_nil, false_imp_iff, implies_true,
          and_true] at hentry
        exact ⟨hact, hentry⟩
      resource := fun resourceType resourceId hrt hrid' => by
        have hcases := composesResource_of_ok hr
        rw [hrt, hrid'] at hcases
        cases hcases with
        | composed _ _ hlocal =>
          have hentry (entry : String × String)
              (he : entry ∈ actionEvidence request.action resourceType ++ resourceEvidence resourceType resourceId) :
              kernel.context.get? entry.1 = some entry.2 := by
            refine (hget entry.1 entry.2).2 (.inr ?_)
            rwa [hrt, hrid']
          simp only [actionEvidence, resourceEvidence, List.cons_append, List.nil_append, List.forall_mem_cons,
            List.not_mem_nil, false_imp_iff, implies_true, and_true] at hentry
          obtain ⟨-, -, htype, -, hcomposedEntry, horiginal, htyped⟩ := hentry
          refine ⟨?_, by rw [hresource, hrid], hcomposedEntry, horiginal, htype, htyped⟩
          simpa [isTypedResourceId, hasChar] using hlocal
      resourceKeys := fun key hkey => by
        have hnot : key ∉ request.context.keys :=
          evidenceKey_notMem hres (List.mem_append_right _ hkey)
        rw [hkeys, or_iff_right hnot, key_mem_evidence _ hkey] }

end

/-- All a caller says in a body but its request id. -/
structure EvaluateRequest.SameWords (request₁ request₂ : EvaluateRequest) : Prop where
  action : request₁.action = request₂.action
  resourceType : request₁.resourceType = request₂.resourceType
  resourceId : request₁.resourceId = request₂.resourceId
  context : request₁.context.Same request₂.context

section

variable {request request₁ request₂ : EvaluateRequest} {kernel kernel₁ kernel₂ : DecisionRequest}

/-- The resource type is what its key says. -/
theorem Evidenced.resourceType_eq (h : Evidenced request kernel) :
    kernel.context.get? "basis_gateway.resource_type" = request.resourceType := by
  cases hrt : request.resourceType with
  | some resourceType =>
    obtain ⟨-, -, -, htype, -⟩ := h.action resourceType hrt
    exact htype
  | none =>
    rw [OrderedDict.get?_eq_none_iff]
    intro hm
    have hsome := h.reserved.1 ⟨_, hm, by decide⟩
    rw [hrt] at hsome
    cases hsome

/-- The caller's context is what the kernel's says outside the prefix. -/
theorem Evidenced.context_eq (h : Evidenced request kernel) (key : String) :
    request.context.get? key =
      if startsWith key "basis_gateway." then none else kernel.context.get? key := by
  by_cases hkey : key ∈ request.context.keys
  · obtain ⟨value, hvalue⟩ := Option.isSome_iff_exists.1 ((OrderedDict.mem_keys_iff ..).1 hkey)
    rw [h.unforged key hkey, hvalue, h.caller key value hvalue]
    rfl
  · rw [(OrderedDict.get?_eq_none_iff ..).2 hkey]
    split
    next => rfl
    next hr =>
      refine ((OrderedDict.get?_eq_none_iff ..).2 fun hm => ?_).symm
      exact hr ((h.nothingElse key hm).resolve_left hkey)

/-- Two requests that look the same to the kernel are the same. -/
theorem Evidenced.sameWords (h₁ : Evidenced request₁ kernel₁) (h₂ : Evidenced request₂ kernel₂)
    (haction : kernel₁.action = kernel₂.action) (hresource : kernel₁.resourceId = kernel₂.resourceId)
    (hcontext : kernel₁.context.Same kernel₂.context) : request₁.SameWords request₂ := by
  have hrt : request₁.resourceType = request₂.resourceType := by
    rw [← h₁.resourceType_eq, ← h₂.resourceType_eq, hcontext]
  refine ⟨?_, hrt, ?_, fun key => by rw [h₁.context_eq, h₂.context_eq, hcontext]⟩
  · cases hrt₁ : request₁.resourceType with
    | none => rw [← (h₁.uncomposed hrt₁).1, ← (h₂.uncomposed (hrt ▸ hrt₁)).1, haction]
    | some resourceType =>
      obtain ⟨-, -, horiginal₁, -⟩ := h₁.action resourceType hrt₁
      obtain ⟨-, -, horiginal₂, -⟩ := h₂.action resourceType (hrt ▸ hrt₁)
      rw [hcontext, horiginal₂] at horiginal₁
      exact (Option.some.inj horiginal₁).symm
  · cases hrt₁ : request₁.resourceType with
    | none => rw [← (h₁.uncomposed hrt₁).2, ← (h₂.uncomposed (hrt ▸ hrt₁)).2, hresource]
    | some resourceType =>
      have hiff : request₁.resourceId.isSome = true ↔ request₂.resourceId.isSome = true := by
        have hkey₁ := h₁.resourceKeys "basis_gateway.original_resource_id" (by simp)
        have hkey₂ := h₂.resourceKeys "basis_gateway.original_resource_id" (by simp)
        rw [OrderedDict.mem_keys_iff] at hkey₁ hkey₂
        rw [hcontext, hkey₂, ← hrt, hrt₁] at hkey₁
        simpa using hkey₁.symm
      rcases hid₁ : request₁.resourceId with - | resourceId₁
      · have hnone : request₂.resourceId = none := by simpa [hid₁] using hiff
        exact hnone.symm
      obtain ⟨resourceId₂, hid₂⟩ := Option.isSome_iff_exists.1 (hiff.1 (by rw [hid₁]; rfl))
      obtain ⟨-, -, -, horiginal₁, -⟩ := h₁.resource resourceType resourceId₁ hrt₁ hid₁
      obtain ⟨-, -, -, horiginal₂, -⟩ := h₂.resource resourceType resourceId₂ (hrt ▸ hrt₁) hid₂
      rw [hcontext, horiginal₂] at horiginal₁
      rw [hid₂, Option.some.inj horiginal₁]

end

/-! ## Served requests -/

namespace Evaluate

variable {app : App} {req : Request}

/-- A reserved key is refused before the token is looked at. -/
theorem compose_of_reserved {request : EvaluateRequest} (h : reservedKeyCollisions request.context ≠ []) :
    ∃ refusal : Refusal, refusal.response.statusCode = 400 ∧
      compose app req request = .error (.refuse refusal) := by
  simp only [compose, ne_eq, h, not_false_eq_true, if_true]
  exact ⟨_, rfl, rfl⟩

theorem collisions_of_mem {context : Context} {key : String} (hkey : key ∈ context.keys)
    (hr : startsWith key reservedContextPrefix = true) : reservedKeyCollisions context ≠ [] := fun h => by
  rw [not_reserved_of_mem h hkey] at hr
  cases hr

/-- What the kernel was called with is evidence of the body. -/
theorem evidenced_of_kernel {between : World → World} {w : World} {call : KernelCall}
    (h : Call.kernel call ∈ calls (Endpoint.evaluate.serve app req between w).observed) :
    ∃ bytes request, req.body = .ok bytes ∧ app.parseEvaluateRequest bytes = .ok request ∧
      Evidenced request call.request := by
  obtain ⟨present, hscript⟩ := Endpoint.mem_calls_serve h
  obtain ⟨a, ha, hk⟩ := through_of_kernel hscript
  have hcalls := EvaluationInput.calls_of_kernelCall hk
  obtain ⟨bytes, hbytes, hparse⟩ := bodyGate_ok ha.body
  exact ⟨bytes, a.request, hbytes, hparse,
    evidenced_of_compose ha.compose hcalls.action hcalls.resourceId hcalls.context⟩

/-- A body that does not get past composition is answered 400. -/
theorem script_of_uncomposed (hbody : ∀ bytes request, req.body = .ok bytes →
    app.parseEvaluateRequest bytes = .ok request → reservedKeyCollisions request.context ≠ []) :
    ∃ refusal : Refusal, refusal.response.statusCode = 400 ∧ script app req =
      ⟨[.record .bodyRead, .emit refusal.event], .error (.answered refusal.response)⟩ := by
  rcases hb : body app req with stop | request
  · obtain ⟨refusal, rfl, h400⟩ : ∃ refusal, stop = .refuse refusal ∧ refusal.response.statusCode = 400 := by
      unfold body bodyGate at hb
      split at hb
      next => cases hb
      next => split at hb <;> (cases hb; exact ⟨_, rfl, rfl⟩)
    refine ⟨refusal, h400, ?_⟩
    simp only [script, admissionScript, perform_bind, Gate.script, hb, bind_error]
    rfl
  · obtain ⟨bytes, hbytes, hparse⟩ := bodyGate_ok hb
    obtain ⟨refusal, h400, hc⟩ : ∃ refusal : Refusal, refusal.response.statusCode = 400 ∧
        compose app req request = .error (.refuse refusal) :=
      compose_of_reserved (hbody bytes request hbytes hparse)
    refine ⟨refusal, h400, ?_⟩
    simp only [script, admissionScript, perform_bind, Gate.script, hb, hc, pure_eq, bind_ok, bind_error]
    rfl

end Evaluate

/-- **Composition evidence is unforgeable and lossless.** For any app, requests and shared states,
whatever runs while a body is awaited. The kernel is called with evidence of the body; two bodies whose
action, resource id and context look the same to the kernel say the same; and a body with a reserved
context key never reaches the kernel, and is answered 400 unless the strict-mode check answered
before. -/
theorem composition_evidence (app : App) :
    (∀ req between w call,
      Call.kernel call ∈ calls (Endpoint.evaluate.serve app req between w).observed →
        ∃ bytes request, req.body = .ok bytes ∧ app.parseEvaluateRequest bytes = .ok request ∧
          Evidenced request call.request) ∧
    (∀ req₁ req₂ between₁ between₂ w₁ w₂ call₁ call₂ bytes₁ bytes₂ request₁ request₂,
      Call.kernel call₁ ∈ calls (Endpoint.evaluate.serve app req₁ between₁ w₁).observed →
      Call.kernel call₂ ∈ calls (Endpoint.evaluate.serve app req₂ between₂ w₂).observed →
      req₁.body = .ok bytes₁ → app.parseEvaluateRequest bytes₁ = .ok request₁ →
      req₂.body = .ok bytes₂ → app.parseEvaluateRequest bytes₂ = .ok request₂ →
      call₁.request.action = call₂.request.action → call₁.request.resourceId = call₂.request.resourceId →
      call₁.request.context.Same call₂.request.context → request₁.SameWords request₂) ∧
    ∀ req between w, (∀ bytes request, req.body = .ok bytes → app.parseEvaluateRequest bytes = .ok request →
        ∃ key ∈ request.context.keys, startsWith key "basis_gateway." = true) →
      let served := Endpoint.evaluate.serve app req between w
      kernelCalls served.observed = [] ∧
      ∃ response, served.answer = .ok response ∧
        (if (Endpoint.evaluate.begin app req w).1 = none then response.statusCode = 400
          else response = auditFailClosed req.correlationId) := by
  refine ⟨fun req between w call => Evaluate.evidenced_of_kernel, ?_, ?_⟩
  · intro req₁ req₂ between₁ between₂ w₁ w₂ call₁ call₂ bytes₁ bytes₂ request₁ request₂ hcall₁ hcall₂
      hbytes₁ hparse₁ hbytes₂ hparse₂ haction hresource hcontext
    obtain ⟨_, _, hbytes₁', hparse₁', h₁⟩ := Evaluate.evidenced_of_kernel hcall₁
    obtain ⟨_, _, hbytes₂', hparse₂', h₂⟩ := Evaluate.evidenced_of_kernel hcall₂
    obtain rfl := Except.ok.inj (hbytes₁.symm.trans hbytes₁')
    obtain rfl := Except.ok.inj (hbytes₂.symm.trans hbytes₂')
    obtain rfl := Except.ok.inj (hparse₁.symm.trans hparse₁')
    obtain rfl := Except.ok.inj (hparse₂.symm.trans hparse₂')
    exact h₁.sameWords h₂ haction hresource hcontext
  · intro req between w hbody served
    obtain ⟨refusal, h400, hscript⟩ := Evaluate.script_of_uncomposed fun bytes request hbytes hparse => by
      obtain ⟨key, hkey, hr⟩ := hbody bytes request hbytes hparse
      exact Evaluate.collisions_of_mem hkey hr
    have hscript' (present : Bool) : Endpoint.evaluate.script app req present = _ := hscript
    rcases hb : Endpoint.evaluate.begin app req w with ⟨- | answer, w₁⟩
    · refine ⟨?_, refusal.response, ?_, ?_⟩
      · simp only [served, Endpoint.kernelCalls_of_begin hb, hscript']
        rfl
      · simp only [served, Endpoint.serve_of_begin hb, hscript']
        rfl
      · simpa only [if_true] using h400
    · have hcalls := Endpoint.evaluate.calls_begin app req w
      rw [hb] at hcalls
      refine ⟨?_, auditFailClosed req.correlationId, ?_, ?_⟩
      · simp only [served, Endpoint.serve, hb, kernelCalls, hcalls, List.filter_nil]
      · simp only [served, Endpoint.serve, hb, Endpoint.begin_answers hb]
      · simp only [reduceCtorEq, if_false]

/-- An application whose every body has a reserved context key. -/
def forgingApp : App :=
  { permissiveApp with
    parseEvaluateRequest := fun _ => .ok
      { requestId := none, action := "read:ahu", action_not_blank := readAhu_not_blank, resourceType := none
        resourceId := none, context := OrderedDict.empty.set "basis_gateway.forged" "true" } }

/-- In strict mode, the second of two such requests on a sink that is down is answered 503. -/
theorem reserved_context_suspended :
    let first := Endpoint.evaluate.serve forgingApp bearerRequest id
      ((freshStartup brittleStartup).serving sinkDown)
    let second := Endpoint.evaluate.serve forgingApp bearerRequest id first.world
    (∃ request, bearerRequest.body.bind forgingApp.parseEvaluateRequest = .ok request ∧
      ∃ key ∈ request.context.keys, startsWith key "basis_gateway." = true) ∧
    first.answer.map (·.statusCode) = .ok 400 ∧ second.answer.map (·.statusCode) = .ok 503 := by
  refine ⟨⟨_, rfl, "basis_gateway.forged", by decide, by decide⟩, ?_, ?_⟩ <;> decide +kernel

end BasisGateway
