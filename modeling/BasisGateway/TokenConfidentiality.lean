/-
The raw token does not show. Two requests that differ only in their bearer
tokens, where the verifier has the same verdict on both, get one answer and
leave the same gateway events. On `/v1/evaluate` the kernel is handed the
token, so there its result must not depend on it; on the operation-aware
endpoint nothing past authentication reads it.
-/
import BasisGateway.ProducerCertificates
import BasisGateway.ProducerGate
import BasisGateway.Lib.TwoRuns

namespace BasisGateway

open Script

/-! ## The gateway's own events -/

/-- How many events the kernel writes on the audit writer when it is called. -/
def ownWrites (app : App) : Call → Nat
  | .kernel call => (app.evaluator.map fun evaluator => (evaluator.enforcementPoint call).writes.length).getD 0
  | _ => 0

/-- The gateway's events: what the kernel writes itself, `skipped` of the next, is left out. -/
def gatewayEvents (app : App) (skipped : Nat) : List Observation → List AuditEvent
  | [] => []
  | .called call _ :: os => gatewayEvents app (ownWrites app call) os
  | .wrote event _ :: os => match skipped with
    | 0 => event :: gatewayEvents app 0 os
    | n + 1 => gatewayEvents app n os

/-- The event a gateway step emits. -/
def Effect.emitted? : Effect → Option AuditEvent
  | .emit event => some event
  | _ => none

/-- After each call of the kernel come the events it writes. -/
inductive Framed (app : App) : List Effect → Prop
  | nil : Framed app []
  | emit (event : AuditEvent) {es : List Effect} (h : Framed app es) : Framed app (.emit event :: es)
  | record (call : Call) (events : List AuditEvent) (hevents : events.length = ownWrites app call)
      {es : List Effect} (h : Framed app es) : Framed app (.record call :: events.map .write ++ es)

namespace World

theorem act_reaches (e : Effect) (w : World) : (act e w).reaches = w.reaches := by
  funext event
  simp only [reaches, act_isSome, act_pipeline]

theorem replay_reaches (es : List Effect) (w : World) : (w.replay es).reaches = w.reaches := by
  funext event
  simp only [reaches, replay_isSome, replay_pipeline]

/-- Without a writer nothing is written. -/
theorem observed_of_writer_none : ∀ (es : List Effect) {w : World}, w.writer.isSome = false →
    ∀ app skipped, gatewayEvents app skipped (w.observed es) = []
  | [], _, _, _, _ => rfl
  | e :: es, w, hw, app, skipped => by
    have hrest := observed_of_writer_none es ((act_isSome e w).trans hw) app
    cases e with
    | emit event =>
      have hnot : w.reaches event = false := by simp [reaches, hw]
      simp only [observed, observe, hnot, Bool.false_eq_true, if_false, List.nil_append, hrest]
    | write event => simp only [observed, observe, hw, Bool.false_eq_true, if_false, List.nil_append, hrest]
    | record call => exact hrest (ownWrites app call)

/-- With one, the kernel's events are the next to be written, and are skipped. -/
theorem gatewayEvents_writes (app : App) (es : List Effect) : ∀ (events : List AuditEvent) {w : World},
    w.writer.isSome = true → gatewayEvents app events.length (w.observed (events.map .write ++ es)) =
      gatewayEvents app 0 ((w.replay (events.map .write)).observed es)
  | [], _, _ => rfl
  | event :: events, w, hw => by
    have hrest := gatewayEvents_writes app es events ((act_isSome (.write event) w).trans hw)
    simp only [List.map_cons, List.cons_append, observed, observe, hw, if_true, List.nil_append,
      List.length_cons, gatewayEvents]
    exact hrest

/-- What is observed of the gateway's events is those of its effects that reach the sink. -/
theorem gatewayEvents_observed {app : App} {es : List Effect} (h : Framed app es) (w : World) :
    gatewayEvents app 0 (w.observed es) = (es.filterMap Effect.emitted?).filter w.reaches := by
  cases hw : w.writer.isSome with
  | false =>
    rw [observed_of_writer_none es hw]
    refine (List.filter_eq_nil_iff.2 fun event _ => ?_).symm
    simp [reaches, hw]
  | true =>
    induction h generalizing w with
    | nil => rfl
    | @emit event es h ih =>
      have hrest := ih (act (.emit event) w) ((act_isSome _ w).trans hw)
      rw [act_reaches] at hrest
      simp only [observed, observe, List.filterMap_cons, Effect.emitted?, List.filter_cons]
      split
      next => simp only [List.cons_append, List.nil_append, gatewayEvents, hrest]
      next => simp only [List.nil_append, hrest]
    | @record call events hevents es h ih =>
      have hwrites : (events.map Effect.write).filterMap Effect.emitted? = [] := by
        simp [List.filterMap_eq_nil_iff, Effect.emitted?]
      have hskip := gatewayEvents_writes app es events ((act_isSome (.record call) w).trans hw)
      have hrest := ih ((act (.record call) w).replay (events.map .write))
        (((replay_isSome _ _).trans (act_isSome _ w)).trans hw)
      rw [replay_reaches, act_reaches] at hrest
      simp only [List.cons_append, observed, observe, List.nil_append, gatewayEvents, ← hevents, hskip, hrest,
        List.filterMap_cons, Effect.emitted?, List.filterMap_append, hwrites]

end World

theorem Framed.append {app : App} {es fs : List Effect} (h : Framed app es) (hfs : Framed app fs) :
    Framed app (es ++ fs) := by
  induction h with
  | nil => exact hfs
  | emit event _ ih => exact .emit event ih
  | record call events hevents _ ih =>
    have hrecord := Framed.record call events hevents ih
    simpa using hrecord

/-- A call that writes nothing itself. -/
theorem Framed.call {app : App} (call : Call) (h : ownWrites app call = 0) {es : List Effect}
    (hes : Framed app es) : Framed app (.record call :: es) :=
  .record call [] h.symm hes

theorem Framed.stop {app : App} : ∀ stop : Stop, Framed app stop.effects
  | .refuse refusal => .emit refusal.event .nil
  | .escape _ => .nil

/-- The script of an admitted request, and then its kernel, is framed. -/
theorem Endpoint.framed_script (endpoint : Endpoint) (app : App) (req : Request) (present : Bool) :
    Framed app (endpoint.script app req present).effects := by
  have hbefore {before : List Effect} (h : before = [.record .bodyRead] ∨
      before = [.record .bodyRead, .record .authenticate]) : Framed app before := by
    rcases h with rfl | rfl
    · exact .call .bodyRead rfl .nil
    · exact .call .bodyRead rfl (.call .authenticate rfl .nil)
  cases endpoint with
  | evaluate =>
    show Framed app (Evaluate.script app req).effects
    unfold Evaluate.script
    rcases Evaluate.admissionScript_cases app req with ⟨a, ha, hS⟩ | ⟨before, stop, hstop, hS⟩
    · rw [hS, bind_ok]
      refine (hbefore (.inr rfl)).append ?_
      rcases hk : (a.input req).kernelCall app.models req.readings with exc | call
      · obtain ⟨stop, hs⟩ := Evaluate.decided_error req a.evaluator a.subject exc
        rw [Evaluate.decideScript_unbuilt hk hs]
        exact .emit _ (.call .evaluator rfl (.stop stop))
      have hwrites : (a.evaluator.enforcementPoint call).writes.length = ownWrites app (.kernel call) := by
        simp [ownWrites, Evaluate.presentEvaluator_ok ha.evaluator]
      rcases hr : (a.evaluator.enforcementPoint call).result with exc | decision
      · obtain ⟨stop, hs⟩ := Evaluate.decided_error req a.evaluator a.subject exc
        rw [Evaluate.decideScript_raised hk hr hs]
        exact .emit _ (.call .evaluator rfl (.record _ _ hwrites (.stop stop)))
      · rw [Evaluate.decideScript_decided hk hr]
        have h : Framed app _ :=
          .emit (a.receipt req) (.call .evaluator rfl (.record (.kernel call) _ hwrites .nil))
        simpa using h
    · rw [hS, bind_error]
      exact (hbefore hstop.before_cases).append (.stop stop)
  | operationAware =>
    show Framed app (OperationAware.script app req present).effects
    unfold OperationAware.script
    rcases OperationAware.admissionScript_cases app req with ⟨a, ha, hS⟩ | ⟨before, stop, hstop, hS⟩
    · rw [hS, bind_ok]
      refine (hbefore (.inr rfl)).append ?_
      rcases hk : a.composed.kernelCall app.models app.printable req.readings with exc | call
      · obtain ⟨stop, hs⟩ := OperationAware.evaluated_error req a.subject exc
        rw [OperationAware.decideScript_unbuilt present hk hs]
        exact .call .evaluator rfl (.stop stop)
      rcases hr : a.evaluator.enforcementPoint call with exc | result
      · obtain ⟨stop, hs⟩ := OperationAware.evaluated_error req a.subject exc
        rw [OperationAware.decideScript_raised present hk hr hs]
        exact .call .evaluator rfl (.call (.operationAwareKernel call) rfl (.stop stop))
      · rw [OperationAware.decideScript_result present hk hr, bind_ok]
        refine .call .evaluator rfl (.call (.operationAwareKernel call) rfl ?_)
        unfold OperationAware.durableRecordScript
        split
        next => exact .emit _ .nil
        next =>
          split
          next =>
            split
            next => exact .nil
            next => exact .emit _ .nil
          next => exact .nil
    · rw [hS, bind_error]
      exact (hbefore hstop.before_cases).append (.stop stop)

/-! ## Another token -/

/-- The same request with another bearer token; the raw headers repeat it. -/
def Request.withToken (req : Request) (authorization : Option String) (headers : RawHeaders) : Request :=
  { req with authorization := authorization, headers := headers }

/-- The headers but the `Authorization` header. -/
def otherHeaders (headers : RawHeaders) : RawHeaders :=
  headers.filter fun h => h.1.map lowerByte ≠ asciiBytes "authorization"

theorem producerAssertions_otherHeaders (headers : RawHeaders) :
    producerAssertions (otherHeaders headers) = producerAssertions headers := by
  have hname : asciiBytes "authorization" ≠ producerClientCertHeaderNameLower := by decide +kernel
  induction headers with
  | nil => rfl
  | cons h headers ih =>
    simp only [producerAssertions, otherHeaders] at ih ⊢
    by_cases ha : h.1.map lowerByte = asciiBytes "authorization"
    · rw [List.filter_cons_of_neg (by simpa using ha), ih, List.filterMap_cons_none]
      rw [ha, if_neg hname]
    · rw [List.filter_cons_of_pos (by simpa using ha), List.filterMap_cons, List.filterMap_cons, ih]

/-- Producer trust reads no header but the certificate's. -/
theorem resolve_of_otherHeaders {headers₁ headers₂ : RawHeaders} (h : otherHeaders headers₁ = otherHeaders headers₂)
    (x509 : X509) (subject : NormalizedSubject) (config : GatewayConfig) :
    resolveOperationProducerTrust x509 headers₁ subject config =
      resolveOperationProducerTrust x509 headers₂ subject config := by
  have hassertions : producerAssertions headers₁ = producerAssertions headers₂ := by
    rw [← producerAssertions_otherHeaders headers₁, h, producerAssertions_otherHeaders]
  simp only [resolveOperationProducerTrust, resolveMtlsOperationProducerTrust,
    retrieveTrustedProducerCertificateAssertion, hassertions]

/-- One verdict on two tokens: the same value, or exceptions of one class. -/
inductive SameVerdict {α : Type} : Except PyExc α → Except PyExc α → Prop
  | returned (a : α) : SameVerdict (.ok a) (.ok a)
  | raised (exc₁ exc₂ : PyExc) (h : exc₁.cls = exc₂.cls) : SameVerdict (.error exc₁) (.error exc₂)

/-- The verifier of the configured mode has one verdict on both tokens. -/
def SameForVerifier (verifiers : Verifiers) (token₁ token₂ : String) : AuthMode → Prop
  | .oidc => ∀ verify, verifiers.oidcVerifier = some verify → SameVerdict (verify token₁) (verify token₂)
  | .basisLocalToken =>
    ∀ verify, verifiers.basisLocalTrust = some verify → SameVerdict (verify token₁) (verify token₂)

theorem SameVerdict.refl {α : Type} : ∀ r : Except PyExc α, SameVerdict r r
  | .ok a => .returned a
  | .error exc => .raised exc exc rfl

/-- What is done with the value keeps the verdict the same. -/
theorem SameVerdict.bind {α β : Type} {r s : Except PyExc α} (h : SameVerdict r s) (f : α → Except PyExc β) :
    SameVerdict (r >>= f) (s >>= f) := by
  cases h with
  | returned a => exact .refl (f a)
  | raised exc₁ exc₂ hcls => exact .raised exc₁ exc₂ hcls

theorem authenticate_sameVerdict {verifiers : Verifiers} {token₁ token₂ : String} {mode : AuthMode}
    (h : SameForVerifier verifiers token₁ token₂ mode) :
    SameVerdict (authenticate verifiers mode token₁) (authenticate verifiers mode token₂) := by
  unfold authenticate
  cases mode with
  | oidc =>
    rcases hv : verifiers.oidcVerifier with - | verify
    · exact .refl _
    · exact (h verify hv).bind mapClaims
  | basisLocalToken =>
    rcases hv : verifiers.basisLocalTrust with - | verify
    · exact .refl _
    · exact (h verify hv).bind fun result => pure (basisLocalIdentity result)

theorem isInstance_of_cls {exc₁ exc₂ : PyExc} (h : exc₁.cls = exc₂.cls) (cls : ExcClass) :
    exc₁.isInstance cls = exc₂.isInstance cls := by
  simp only [PyExc.isInstance, h]

/-- One verdict on the tokens is one outcome of the gate: only the class of an exception is told. -/
theorem authenticationGate_alike {app : App} {token₁ token₂ : String}
    (h : SameVerdict (app.authenticate app.authMode token₁) (app.authenticate app.authMode token₂))
    (req : Request) (failed : String → AuditEvent) :
    authenticationGate app req token₁ failed = authenticationGate app req token₂ failed := by
  unfold authenticationGate
  generalize app.authenticate app.authMode token₁ = verdict₁, app.authenticate app.authMode token₂ = verdict₂
    at h
  cases h with
  | returned identity => rfl
  | raised exc₁ exc₂ hcls => simp only [isInstance_of_cls hcls]

/-! ## Two scripts -/

/-- Gates that end alike are steps that agree. -/
theorem Gate.agree {α β : Type} {R : α → β → Prop} {gate₁ : Gate α} {gate₂ : Gate β}
    (h : Except.Alike R gate₁ gate₂) :
    Script.Agree Effect.emitted? R (Gate.script gate₁) (Gate.script gate₂) := by
  cases h with
  | ok h => exact .pure h
  | error stop => exact ⟨rfl, .error stop.exit⟩

theorem Gate.agree_of_eq {α : Type} {gate₁ gate₂ : Gate α} (h : gate₁ = gate₂) :
    Script.Agree Effect.emitted? Eq (Gate.script gate₁) (Gate.script gate₂) :=
  Gate.agree (.of_eq h)

/-- The tokens two requests carry. -/
def TokensAre (token₁ token₂ : String) (t₁ t₂ : String) : Prop := t₁ = token₁ ∧ t₂ = token₂

theorem bearerGate_alike {req₁ req₂ : Request} {failed₁ failed₂ : String → AuditEvent} {token₁ token₂ : String}
    (h₁ : extractBearerToken req₁.authorization = .ok token₁)
    (h₂ : extractBearerToken req₂.authorization = .ok token₂) :
    Except.Alike (TokensAre token₁ token₂) (bearerGate req₁ failed₁) (bearerGate req₂ failed₂) := by
  simp only [bearerGate, h₁, h₂]
  exact .ok ⟨rfl, rfl⟩

/-- The call with another token in its identity context. -/
def KernelCall.withToken (call : KernelCall) (token : String) : KernelCall :=
  { call with identityContext := { call.identityContext with token := token } }

/-- The kernel of `/v1/evaluate` does not tell the two tokens apart, nor does its identity context. -/
structure TokenBlind (app : App) (token₁ token₂ : String) : Prop where
  identityContext : ∀ context : CoreIdentityContext,
    app.models.identityContext { context with token := token₁ } =
      app.models.identityContext { context with token := token₂ }
  kernel : ∀ evaluator (call : KernelCall), app.evaluator = some evaluator →
    (evaluator.enforcementPoint (call.withToken token₁)).result =
      (evaluator.enforcementPoint (call.withToken token₂)).result

/-- Two values are one, with two tokens. -/
def Differ {α : Type} (withToken : α → String → α) (token₁ token₂ : String) (a₁ a₂ : α) : Prop :=
  ∃ a, a₁ = withToken a token₁ ∧ a₂ = withToken a token₂

def EvaluationInput.withToken (input : EvaluationInput) (token : String) : EvaluationInput :=
  { input with rawToken := token }

theorem buildIdentityContext_alike {models : CoreModels} {token₁ token₂ : String}
    (h : ∀ context : CoreIdentityContext, models.identityContext { context with token := token₁ } =
      models.identityContext { context with token := token₂ })
    (now : DateTime) (subject : Subject) (claims : Claims) :
    Except.Alike (Differ (fun (context : CoreIdentityContext) token => { context with token := token })
        token₁ token₂)
      (buildIdentityContext models now subject token₁ claims)
      (buildIdentityContext models now subject token₂ claims) := by
  unfold buildIdentityContext
  rcases hi : timestampClaim models "iat" claims with exc | issuedAt
  · exact .error exc
  rcases he : timestampClaim models "exp" claims with exc | expiresAt
  · exact .error exc
  let context : CoreIdentityContext :=
    { subject, token := token₁, issuedAt := issuedAt.getD now, expiresAt }
  have hvalid := h context
  show Except.Alike _ (constructing models.identityContext { context with token := token₁ })
    (constructing models.identityContext { context with token := token₂ })
  simp only [constructing, hvalid]
  rcases models.identityContext { context with token := token₂ } with exc | u
  · exact .error exc
  · exact .ok ⟨context, rfl, rfl⟩

theorem kernelCall_alike {models : CoreModels} {token₁ token₂ : String}
    (h : ∀ context : CoreIdentityContext, models.identityContext { context with token := token₁ } =
      models.identityContext { context with token := token₂ })
    (readings : Readings) (input : EvaluationInput) :
    Except.Alike (Differ KernelCall.withToken token₁ token₂)
      ((input.withToken token₁).kernelCall models readings)
      ((input.withToken token₂).kernelCall models readings) := by
  have hcontext (subject : Subject) :=
    buildIdentityContext_alike h (.utc readings.issuedNow) subject input.claims
  unfold EvaluationInput.kernelCall EvaluationInput.withToken
  rcases hs : buildSubject models input.normalizedSubject with exc | subject
  · exact .error exc
  simp only [bind, Except.bind]
  have hsubject := hcontext subject
  generalize buildIdentityContext models (.utc readings.issuedNow) subject token₁ input.claims = r₁,
    buildIdentityContext models (.utc readings.issuedNow) subject token₂ input.claims = r₂ at hsubject
  cases hsubject with
  | error exc => exact .error exc
  | ok hdiffer =>
    obtain ⟨context, rfl, rfl⟩ := hdiffer
    simp only
    split
    next exc _ => exact .error exc
    next request _ =>
      exact .ok ⟨{ request, subject, identityContext := context, correlationId := input.correlationId },
        rfl, rfl⟩

/-- The kernel evaluator agrees: the call and what the kernel writes do not show. -/
theorem GatewayEvaluator.script_agree {app : App} {token₁ token₂ : String} (hblind : TokenBlind app token₁ token₂)
    {evaluator : GatewayEvaluator} (hevaluator : app.evaluator = some evaluator) (readings : Readings)
    (input : EvaluationInput) : Script.Agree Effect.emitted? Eq
      (evaluator.script app.models readings (input.withToken token₁))
      (evaluator.script app.models readings (input.withToken token₂)) := by
  have hcalls := kernelCall_alike hblind.identityContext readings input
  have hhidden (call : KernelCall) : (Effect.record (.kernel call) ::
      (evaluator.enforcementPoint call).writes.map .write).filterMap Effect.emitted? = [] := by
    simp [List.filterMap_eq_nil_iff, Effect.emitted?]
  unfold GatewayEvaluator.script
  generalize (input.withToken token₁).kernelCall app.models readings = r₁,
    (input.withToken token₂).kernelCall app.models readings = r₂ at hcalls
  cases hcalls with
  | error exc => exact .refl _
  | ok hdiffer =>
    obtain ⟨call, rfl, rfl⟩ := hdiffer
    exact .hidden (hhidden _) (hhidden _) (hblind.kernel evaluator call hevaluator)

section

variable {app : App} {req : Request} {authorization₁ authorization₂ : Option String}
  {headers₁ headers₂ : RawHeaders} {token₁ token₂ : String}

/-- Two tokens that both can be extracted, of which authentication has one verdict, in headers that
differ in nothing else. -/
structure SameCaller (app : App) (authorization₁ authorization₂ : Option String)
    (headers₁ headers₂ : RawHeaders) (token₁ token₂ : String) : Prop where
  first : extractBearerToken authorization₁ = .ok token₁
  second : extractBearerToken authorization₂ = .ok token₂
  headers : otherHeaders headers₁ = otherHeaders headers₂
  verdict : SameVerdict (app.authenticate app.authMode token₁) (app.authenticate app.authMode token₂)

namespace Evaluate

def Admitted.withToken (a : Admitted) (token : String) : Admitted := { a with token := token }

/-- Two requests admitted with their tokens, and nothing else that differs. -/
def AdmittedAlike (app : App) (token₁ token₂ : String) (a₁ a₂ : Admitted) : Prop :=
  Differ Admitted.withToken token₁ token₂ a₁ a₂ ∧ app.evaluator = some a₁.evaluator

theorem admission_agree (h : SameCaller app authorization₁ authorization₂ headers₁ headers₂ token₁ token₂) :
    Script.Agree Effect.emitted? (AdmittedAlike app token₁ token₂)
      (admissionScript app (req.withToken authorization₁ headers₁))
      (admissionScript app (req.withToken authorization₂ headers₂)) := by
  have hbody : body app (req.withToken authorization₁ headers₁) =
      body app (req.withToken authorization₂ headers₂) := rfl
  have hcompose (request : EvaluateRequest) : compose app (req.withToken authorization₁ headers₁) request =
      compose app (req.withToken authorization₂ headers₂) request := rfl
  have hidentity : authentication app (req.withToken authorization₁ headers₁) token₁ =
      authentication app (req.withToken authorization₂ headers₂) token₂ :=
    authenticationGate_alike h.verdict (req.withToken authorization₁ headers₁) _
  have hevaluator (subject : NormalizedSubject) :
      Except.Alike (fun e₁ e₂ => e₁ = e₂ ∧ app.evaluator = some e₁)
        (presentEvaluator app (req.withToken authorization₁ headers₁) subject)
        (presentEvaluator app (req.withToken authorization₂ headers₂) subject) := by
    unfold presentEvaluator
    rcases he : app.evaluator with - | evaluator
    · exact .error _
    · exact .ok ⟨rfl, rfl⟩
  unfold admissionScript
  refine (Script.Agree.refl _).bind fun _ _ _ => ?_
  refine (Gate.agree_of_eq hbody).bind ?_
  rintro request _ rfl
  refine (Gate.agree_of_eq (hcompose request)).bind ?_
  rintro composed _ rfl
  refine (Gate.agree (bearerGate_alike h.first h.second)).bind ?_
  rintro t₁ t₂ ⟨rfl, rfl⟩
  refine (Script.Agree.refl _).bind fun _ _ _ => ?_
  refine (Gate.agree_of_eq hidentity).bind ?_
  rintro identity _ rfl
  refine (Gate.agree (hevaluator identity.1)).bind ?_
  rintro evaluator _ ⟨rfl, he⟩
  exact .pure ⟨⟨{ request, composed, token := t₁, subject := identity.1, identityContext := identity.2,
                  evaluator }, rfl, rfl⟩, he⟩

theorem decide_agree (hblind : TokenBlind app token₁ token₂) {a₁ a₂ : Admitted}
    (ha : AdmittedAlike app token₁ token₂ a₁ a₂) : Script.Agree Effect.emitted? Eq
      (decideScript app (req.withToken authorization₁ headers₁) a₁)
      (decideScript app (req.withToken authorization₂ headers₂) a₂) := by
  obtain ⟨⟨a, rfl, rfl⟩, he⟩ := ha
  have hreceipt : (a.withToken token₁).receipt (req.withToken authorization₁ headers₁) =
      (a.withToken token₂).receipt (req.withToken authorization₂ headers₂) := rfl
  have hdecided (outcome : Except PyExc DecisionResponse) :
      decided (req.withToken authorization₁ headers₁) a.evaluator a.subject outcome =
        decided (req.withToken authorization₂ headers₂) a.evaluator a.subject outcome := rfl
  unfold decideScript
  refine (Script.Agree.of_eq (by rw [hreceipt])).bind fun _ _ _ => ?_
  refine (Script.Agree.refl _).bind fun _ _ _ => ?_
  refine (GatewayEvaluator.script_agree hblind he req.readings (a.input req)).bind ?_
  rintro outcome _ rfl
  refine (Gate.agree_of_eq (hdecided outcome)).bind ?_
  rintro decision _ rfl
  exact .pure rfl

end Evaluate

namespace OperationAware

def Admitted.withToken (a : Admitted) (token : String) : Admitted := { a with token := token }

theorem producerTrust_of_otherHeaders (h : otherHeaders headers₁ = otherHeaders headers₂)
    (subject : NormalizedSubject) :
    producerTrust app (req.withToken authorization₁ headers₁) subject =
      producerTrust app (req.withToken authorization₂ headers₂) subject := by
  have hresolve (config : GatewayConfig) : resolveOperationProducerTrust app.x509
      (req.withToken authorization₁ headers₁).headers subject config =
        resolveOperationProducerTrust app.x509 (req.withToken authorization₂ headers₂).headers subject config :=
    resolve_of_otherHeaders h app.x509 subject config
  simp only [producerTrust, hresolve]
  rfl

theorem admission_agree (h : SameCaller app authorization₁ authorization₂ headers₁ headers₂ token₁ token₂) :
    Script.Agree Effect.emitted? (Differ Admitted.withToken token₁ token₂)
      (admissionScript app (req.withToken authorization₁ headers₁))
      (admissionScript app (req.withToken authorization₂ headers₂)) := by
  have hbody : body app (req.withToken authorization₁ headers₁) =
      body app (req.withToken authorization₂ headers₂) := rfl
  have hidentity : authentication app (req.withToken authorization₁ headers₁) token₁ =
      authentication app (req.withToken authorization₂ headers₂) token₂ :=
    authenticationGate_alike h.verdict (req.withToken authorization₁ headers₁) _
  have hcomposition (request : OperationAwareEvaluateRequest) (subject : NormalizedSubject)
      (identityContext : IdentityContext) (trust : OperationProducerTrust) :
      composition app (req.withToken authorization₁ headers₁) request subject identityContext trust =
        composition app (req.withToken authorization₂ headers₂) request subject identityContext trust := rfl
  have hevaluator (subject : NormalizedSubject) :
      presentEvaluator app (req.withToken authorization₁ headers₁) subject =
        presentEvaluator app (req.withToken authorization₂ headers₂) subject := rfl
  unfold admissionScript
  refine (Script.Agree.refl _).bind fun _ _ _ => ?_
  refine (Gate.agree_of_eq hbody).bind ?_
  rintro request _ rfl
  refine (Gate.agree (bearerGate_alike h.first h.second)).bind ?_
  rintro t₁ t₂ ⟨rfl, rfl⟩
  refine (Script.Agree.refl _).bind fun _ _ _ => ?_
  refine (Gate.agree_of_eq hidentity).bind ?_
  rintro identity _ rfl
  refine (Gate.agree_of_eq (producerTrust_of_otherHeaders h.headers identity.1)).bind ?_
  rintro trust _ rfl
  refine (Gate.agree_of_eq (hcomposition request identity.1 identity.2 trust)).bind ?_
  rintro composed _ rfl
  refine (Gate.agree_of_eq (hevaluator identity.1)).bind ?_
  rintro evaluator _ rfl
  exact .pure ⟨{ request, token := t₁, subject := identity.1, identityContext := identity.2, trust, composed,
                 evaluator }, rfl, rfl⟩

/-- Past admission nothing reads the token. -/
theorem decide_agree (present : Bool) {a₁ a₂ : Admitted} (ha : Differ Admitted.withToken token₁ token₂ a₁ a₂) :
    Script.Agree Effect.emitted? Eq
      (decideScript app (req.withToken authorization₁ headers₁) present a₁)
      (decideScript app (req.withToken authorization₂ headers₂) present a₂) := by
  obtain ⟨a, rfl, rfl⟩ := ha
  exact .refl _

end OperationAware

theorem Endpoint.script_agree {endpoint : Endpoint}
    (h : SameCaller app authorization₁ authorization₂ headers₁ headers₂ token₁ token₂)
    (hblind : endpoint = .evaluate → TokenBlind app token₁ token₂) (present : Bool) :
    Script.Agree Effect.emitted? Eq (endpoint.script app (req.withToken authorization₁ headers₁) present)
      (endpoint.script app (req.withToken authorization₂ headers₂) present) := by
  cases endpoint with
  | evaluate =>
    exact (Evaluate.admission_agree h).bind fun a₁ a₂ ha => Evaluate.decide_agree (hblind rfl) ha
  | operationAware =>
    exact (OperationAware.admission_agree h).bind fun a₁ a₂ ha => OperationAware.decide_agree present ha

end

/-! ## Two requests -/

theorem gatewayEvents_append_probe (app : App) (endpoint : Endpoint) (req : Request) (w : World)
    (os : List Observation) :
    gatewayEvents app 0 ((endpoint.begin app req w).2.since w ++ os) =
      gatewayEvents app 0 ((endpoint.begin app req w).2.since w) ++ gatewayEvents app 0 os := by
  rw [Endpoint.since_begin]
  split
  next =>
    rw [World.observe]
    split <;> rfl
  next => rfl

/-- **The raw token is confidential.** Two requests that differ only in their bearer tokens, both of
which can be extracted, and on which the verifier of the configured mode has one verdict (one value, or
exceptions of one class), get one answer and leave the same gateway events; on `/v1/evaluate` this
assumes that the kernel does not tell the tokens apart, on the operation-aware endpoint nothing. -/
theorem token_confidential (endpoint : Endpoint) (app : App) (verifiers : Verifiers) (req : Request)
    (authorization₁ authorization₂ : Option String) (headers₁ headers₂ : RawHeaders) (token₁ token₂ : String)
    (between : World → World) (w : World)
    (hfirst : extractBearerToken authorization₁ = .ok token₁)
    (hsecond : extractBearerToken authorization₂ = .ok token₂)
    (hheaders : otherHeaders headers₁ = otherHeaders headers₂)
    (hverdict : SameForVerifier verifiers token₁ token₂ (app.withVerifiers verifiers).authMode)
    (hblind : endpoint = .evaluate → TokenBlind (app.withVerifiers verifiers) token₁ token₂) :
    let gateway := app.withVerifiers verifiers
    let served₁ := endpoint.serve gateway (req.withToken authorization₁ headers₁) between w
    let served₂ := endpoint.serve gateway (req.withToken authorization₂ headers₂) between w
    served₁.answer = served₂.answer ∧
    gatewayEvents gateway 0 served₁.observed = gatewayEvents gateway 0 served₂.observed := by
  intro gateway served₁ served₂
  have hcaller : SameCaller gateway authorization₁ authorization₂ headers₁ headers₂ token₁ token₂ :=
    ⟨hfirst, hsecond, hheaders, authenticate_sameVerdict hverdict⟩
  have hbegin : endpoint.begin gateway (req.withToken authorization₁ headers₁) w =
      endpoint.begin gateway (req.withToken authorization₂ headers₂) w := by
    rw [Endpoint.begin_eq, Endpoint.begin_eq]
    cases endpoint <;> rfl
  rcases hb : endpoint.begin gateway (req.withToken authorization₂ headers₂) w with ⟨- | answer, w₁⟩
  · have hagree : Script.Agree Effect.emitted? Eq
        (endpoint.script gateway (req.withToken authorization₁ headers₁) (between w₁).writer.isSome)
        (endpoint.script gateway (req.withToken authorization₂ headers₂) (between w₁).writer.isSome) :=
      Endpoint.script_agree hcaller hblind (between w₁).writer.isSome
    have hprobe := gatewayEvents_append_probe gateway endpoint (req.withToken authorization₂ headers₂) w
    rw [hb] at hprobe
    simp only [served₁, served₂, Endpoint.serve_of_begin (hbegin.trans hb), Endpoint.serve_of_begin hb, hprobe,
      World.gatewayEvents_observed (Endpoint.framed_script endpoint gateway _ _)]
    exact ⟨by rw [hagree.result.eq], by rw [hagree.shown]⟩
  · simp only [served₁, served₂, Endpoint.serve, hbegin, hb, and_self]

/-- The theorem at two tokens of one operator, both allowed. -/
theorem token_confidential_operator :
    let gateway := permissiveApp.withVerifiers operatorVerifiers
    let served₁ := Endpoint.evaluate.serve gateway (bearerRequest.withToken (some "Bearer one") []) id acceptingWorld
    let served₂ := Endpoint.evaluate.serve gateway (bearerRequest.withToken (some "Bearer two") []) id acceptingWorld
    served₁.answer.map (·.statusCode) = .ok 200 ∧ served₁.answer = served₂.answer ∧
    gatewayEvents gateway 0 served₁.observed = gatewayEvents gateway 0 served₂.observed :=
  ⟨by decide +kernel, token_confidential .evaluate permissiveApp operatorVerifiers bearerRequest
    (some "Bearer one") (some "Bearer two") [] [] "one" "two" id acceptingWorld (by decide +kernel)
    (by decide +kernel) rfl (fun _ h => by cases h; exact .returned _)
    (fun _ => ⟨fun _ => rfl, fun _ _ h => by cases h; rfl⟩)⟩

end BasisGateway
