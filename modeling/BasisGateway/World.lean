/-
The state the requests of one process share while it serves: the audit
writer, the readiness tracker it signals, and a record of what the handlers
ask of the outside (the body, the authenticator, the kernels, the sink).

The sink and the constructor of `AuditEvent` are not the gateway's own: the
pipeline says what each of the sink's calls does, and which events the
constructor refuses. Nothing of either is ever read back.
-/
import BasisGateway.Audit.Events
import BasisGateway.Audit.WriterFacts
import BasisGateway.Lib.Scripts
import BasisGateway.Api.Responses

namespace BasisGateway

/-- What is outside the gateway's own audit code. -/
structure AuditPipeline where
  /-- Raised by `AuditEvent(…)`. -/
  construct : AuditEvent → Except PyExc Unit
  /-- The inner writer's `write`, at each of its calls. -/
  sink : Nat → AuditEvent → WriteOutcome

/-- A call a handler makes, audit writes apart. -/
inductive Call
  | bodyRead
  | authenticate
  | evaluator
  | kernel (call : KernelCall)
  | operationAwareKernel (call : OperationAwareKernelCall)

/-- Something a handler did: a call, with the writer's flag at that moment; or a write on the
sink. -/
inductive Observation
  | called (call : Call) (degraded : Bool)
  | wrote (event : AuditEvent) (outcome : WriteOutcome)

/-- The shared state. -/
structure World where
  pipeline : AuditPipeline
  /-- The calls made on the sink so far. -/
  attempts : Nat
  writer : Option GatewayAuditWriter
  readiness : ReadinessState
  trace : List Observation

/-- How a handler ends, short of its last line: an early `return`, or an exception it lets through. -/
inductive Exit
  | answered (response : JSONResponse)
  | raised (exc : PyExc)

/-- A program of a handler. -/
abbrev HandlerM := Prog World Exit

namespace World

/-- `getattr(audit_writer, "degraded", …)`, and no writer is never degraded. -/
def degraded (w : World) : Bool := (w.writer.map (·.degraded)).getD false

/-- The audit state the writer works on. -/
def auditState (w : World) (writer : GatewayAuditWriter) : AuditState := ⟨writer, w.readiness, []⟩

/-- The world after a write attempt that left this audit state. -/
def attempted (w : World) (event : AuditEvent) (outcome : WriteOutcome) (s : AuditState) : World :=
  { w with
    attempts := w.attempts + 1
    writer := some s.writer
    readiness := s.readiness
    trace := w.trace ++ [.wrote event outcome] }

end World

/-- `writer.write(event)`, on the writer of `app.state`. -/
def writeAudit (event : AuditEvent) : HandlerM Unit := do
  let w ← get
  match w.writer with
  | none => pure ()
  | some writer =>
    let outcome := w.pipeline.sink w.attempts event
    set (w.attempted event outcome ((GatewayAuditWriter.write outcome).exec (w.auditState writer)).2)

/-- The common part of the four `emit_…` functions, from `if writer is None` on: the event is built
and written inside a `try` that swallows every exception. -/
def emit (event : AuditEvent) : HandlerM Unit := do
  let w ← get
  match w.writer with
  | none => pure ()
  | some _ =>
    match w.pipeline.construct event with
    | .error _ => pure ()
    | .ok _ => writeAudit event

/-- Note a call. -/
def record (call : Call) : HandlerM Unit :=
  modify fun w => { w with trace := w.trace ++ [.called call w.degraded] }

/-! ## Their effects -/

/-- What a handler can do to the world. -/
inductive Effect
  | emit (event : AuditEvent)
  | write (event : AuditEvent)
  | record (call : Call)

namespace World

def afterWrite (event : AuditEvent) (w : World) : World :=
  match w.writer with
  | none => w
  | some writer =>
    let outcome := w.pipeline.sink w.attempts event
    w.attempted event outcome (GatewayAuditWriter.afterWrite outcome (w.auditState writer))

/-- Whether an event reaches the sink: there is a writer, and the event can be built. -/
def reaches (w : World) (event : AuditEvent) : Bool :=
  w.writer.isSome && (w.pipeline.construct event).isOk

def afterEmit (event : AuditEvent) (w : World) : World :=
  if w.reaches event then w.afterWrite event else w

def afterRecord (call : Call) (w : World) : World :=
  { w with trace := w.trace ++ [.called call w.degraded] }

def act : Effect → World → World
  | .emit event => afterEmit event
  | .write event => afterWrite event
  | .record call => afterRecord call

abbrev replay (es : List Effect) (w : World) : World := Script.replay act es w

/-- What was observed since `w₀`. -/
def since (w w₀ : World) : List Observation := w.trace.drop w₀.trace.length

end World

open Prog

theorem writeAudit_settles (event : AuditEvent) :
    (writeAudit event).Settles (World.act (.write event)) := by
  intro w
  rw [writeAudit, exec_bind, exec_get]
  show exec (match w.writer with | none => _ | some _ => _) w = (.ok (), w.afterWrite event)
  unfold World.afterWrite
  split
  next => rfl
  next writer _ =>
    simp only [GatewayAuditWriter.write_settles (w.pipeline.sink w.attempts event) (w.auditState writer)]
    rfl

theorem emit_settles (event : AuditEvent) : (emit event).Settles (World.act (.emit event)) := by
  intro w
  rw [emit, exec_bind, exec_get]
  show exec (match w.writer with | none => _ | some _ => _) w = (.ok (), w.afterEmit event)
  unfold World.afterEmit World.reaches
  rcases hw : w.writer with - | writer
  · rfl
  · rcases hc : w.pipeline.construct event with exc | u
    · rfl
    · exact writeAudit_settles event w

theorem record_settles (call : Call) : (record call).Settles (World.act (.record call)) :=
  fun _ => rfl

/-! ## What the effects change

Each effect appends to the trace and keeps the pipeline and the presence of a writer. -/

namespace World

@[simp] theorem afterWrite_pipeline (event : AuditEvent) (w : World) :
    (w.afterWrite event).pipeline = w.pipeline := by
  unfold afterWrite; split <;> rfl

@[simp] theorem afterWrite_isSome (event : AuditEvent) (w : World) :
    (w.afterWrite event).writer.isSome = w.writer.isSome := by
  unfold afterWrite; split <;> simp_all [attempted]

@[simp] theorem act_pipeline (e : Effect) (w : World) : (act e w).pipeline = w.pipeline := by
  cases e with
  | emit event => simp only [act, afterEmit]; split <;> simp
  | write event => exact afterWrite_pipeline event w
  | record call => rfl

@[simp] theorem act_isSome (e : Effect) (w : World) : (act e w).writer.isSome = w.writer.isSome := by
  cases e with
  | emit event => simp only [act, afterEmit]; split <;> simp
  | write event => exact afterWrite_isSome event w
  | record call => rfl

/-- What one effect shows. -/
def observe (e : Effect) (w : World) : List Observation :=
  match e with
  | .emit event => if w.reaches event then [.wrote event (w.pipeline.sink w.attempts event)] else []
  | .write event => if w.writer.isSome then [.wrote event (w.pipeline.sink w.attempts event)] else []
  | .record call => [.called call w.degraded]

theorem act_trace (e : Effect) (w : World) : (act e w).trace = w.trace ++ observe e w := by
  have hwrite (event : AuditEvent) : (w.afterWrite event).trace =
      w.trace ++ if w.writer.isSome then [.wrote event (w.pipeline.sink w.attempts event)] else [] := by
    unfold afterWrite
    cases w.writer with
    | none => simp
    | some writer => rfl
  cases e with
  | emit event =>
    simp only [act, afterEmit, observe]
    split
    next h =>
      rw [hwrite, if_pos]
      simp only [reaches, Bool.and_eq_true] at h
      exact h.1
    next => simp
  | write event => exact hwrite event
  | record call => rfl

/-- What a list of effects shows. -/
def observed : List Effect → World → List Observation
  | [], _ => []
  | e :: es, w => observe e w ++ observed es (act e w)

theorem replay_trace : ∀ (es : List Effect) (w : World), (w.replay es).trace = w.trace ++ observed es w
  | [], w => by simp [observed]
  | e :: es, w => by
    rw [replay, Script.replay_cons, ← replay, replay_trace es (act e w), act_trace, observed,
      List.append_assoc]

@[simp] theorem replay_since (es : List Effect) (w : World) : (w.replay es).since w = observed es w := by
  rw [since, replay_trace, List.drop_left]

@[simp] theorem replay_pipeline (es : List Effect) (w : World) : (w.replay es).pipeline = w.pipeline :=
  Script.replay_induct (I := fun w' => w'.pipeline = w.pipeline)
    (fun e s h => (act_pipeline e s).trans h) es w rfl

@[simp] theorem replay_isSome (es : List Effect) (w : World) :
    (w.replay es).writer.isSome = w.writer.isSome :=
  Script.replay_induct (I := fun w' => w'.writer.isSome = w.writer.isSome)
    (fun e s h => (act_isSome e s).trans h) es w rfl

theorem observed_append : ∀ (es fs : List Effect) (w : World),
    observed (es ++ fs) w = observed es w ++ observed fs (w.replay es)
  | [], fs, w => rfl
  | e :: es, fs, w => by
    rw [List.cons_append, observed, observed_append es fs, observed, List.append_assoc]
    rfl

end World

/-! ## Calls -/

/-- The call an observation is of, if it is one. -/
def Observation.call? : Observation → Option Call
  | .called call _ => some call
  | .wrote _ _ => none

def Effect.call? : Effect → Option Call
  | .record call => some call
  | _ => none

/-- The calls among these observations, in order. -/
def calls (os : List Observation) : List Call := os.filterMap Observation.call?

@[simp] theorem calls_append (os ps : List Observation) : calls (os ++ ps) = calls os ++ calls ps :=
  List.filterMap_append

/-- The calls a list of effects makes are the same in every world. -/
theorem calls_observed : ∀ (es : List Effect) (w : World),
    calls (w.observed es) = es.filterMap Effect.call?
  | [], _ => rfl
  | e :: es, w => by
    rw [World.observed, calls_append, calls_observed es]
    cases e with
    | emit event => simp only [World.observe]; split <;> rfl
    | write event => simp only [World.observe]; split <;> rfl
    | record call => rfl

end BasisGateway
