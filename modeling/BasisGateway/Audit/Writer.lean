/-
The audit writer (`audit/writer.py`): a wrapper that counts the inner
writer's failures, degrades the `audit_writer` readiness component after
`failure_threshold` failures in a row, and restores it on the next success.

The writer and the readiness tracker it signals are one state here, with a
log of the calls made on the tracker.
-/
import BasisGateway.Lib.Effects
import BasisGateway.Errors
import BasisGateway.Readiness

namespace BasisGateway

/-- A call on the readiness tracker. -/
inductive ReadinessCall
  | markReady (component : String)
  | markNotReady (reason component : String)
  deriving DecidableEq, Repr

/-- `_AUDIT_WRITER_COMPONENT`. -/
def auditWriterComponent : String := "audit_writer"

/-- The mutable fields of `GatewayAuditWriter`, and its threshold. -/
structure GatewayAuditWriter where
  failureThreshold : Int
  threshold_pos : 1 ≤ failureThreshold
  failedWriteCount : Nat
  consecutiveFailureCount : Nat
  degraded : Bool

/-- `__init__`. -/
def GatewayAuditWriter.init (failureThreshold : Int) : GatewayAuditWriter where
  failureThreshold := max 1 failureThreshold
  threshold_pos := by omega
  failedWriteCount := 0
  consecutiveFailureCount := 0
  degraded := false

/-- The writer, the tracker it signals and the calls made on the tracker. -/
structure AuditState where
  writer : GatewayAuditWriter
  readiness : ReadinessState
  calls : List ReadinessCall

namespace AuditState

def markReady (s : AuditState) : AuditState :=
  { s with
    readiness := s.readiness.markReady auditWriterComponent
    calls := s.calls ++ [.markReady auditWriterComponent] }

/-- The reason `write` gives when the threshold is crossed. -/
def degradedReason (consecutive : Nat) : String :=
  "Audit write failures exceeded threshold (" ++ toString consecutive ++ " consecutive failures)"

def markNotReady (s : AuditState) : AuditState :=
  let reason := degradedReason s.writer.consecutiveFailureCount
  { s with
    readiness := s.readiness.markNotReady reason auditWriterComponent
    calls := s.calls ++ [.markNotReady reason auditWriterComponent] }

end AuditState

namespace GatewayAuditWriter

/-- The `except` clause of `write`. -/
def onFailure : Prog AuditState PyExc Unit := do
  modify fun s => { s with writer := { s.writer with
    failedWriteCount := s.writer.failedWriteCount + 1
    consecutiveFailureCount := s.writer.consecutiveFailureCount + 1 } }
  let s ← get
  if s.writer.failureThreshold ≤ s.writer.consecutiveFailureCount ∧ s.writer.degraded = false then
    modify fun s => { s with writer := { s.writer with degraded := true } }
    modify AuditState.markNotReady

/-- The rest of `write`, after the inner writer returned. -/
def onSuccess : Prog AuditState PyExc Unit := do
  let s ← get
  if s.writer.degraded then
    modify fun s => { s with writer := { s.writer with degraded := false } }
    modify AuditState.markReady
  modify fun s => { s with writer := { s.writer with consecutiveFailureCount := 0 } }

/-- `write`, where `inner` is what `self._inner.write(event)` does. -/
def write (inner : Except PyExc Unit) : Prog AuditState PyExc Unit := do
  let returned ← tryCatch (do liftExcept inner; pure true) fun _ => do onFailure; pure false
  if returned then onSuccess
where
  liftExcept : Except PyExc Unit → Prog AuditState PyExc Unit
    | .ok _ => pure ()
    | .error exc => throw exc

/-! ## What a write does -/

/-- The state after a failure: counted, and degraded at the threshold. -/
def afterFailure (s : AuditState) : AuditState :=
  let counted := { s with writer := { s.writer with
    failedWriteCount := s.writer.failedWriteCount + 1
    consecutiveFailureCount := s.writer.consecutiveFailureCount + 1 } }
  if s.writer.failureThreshold ≤ ↑(s.writer.consecutiveFailureCount + 1) ∧ s.writer.degraded = false then
    { counted with writer := { counted.writer with degraded := true } }.markNotReady
  else counted

/-- The state after a success: recovered when degraded, and the count reset. -/
def afterSuccess (s : AuditState) : AuditState :=
  let recovered := if s.writer.degraded = true then
      { s with writer := { s.writer with degraded := false } }.markReady else s
  { recovered with writer := { recovered.writer with consecutiveFailureCount := 0 } }

def afterWrite : Except PyExc Unit → AuditState → AuditState
  | .error _ => afterFailure
  | .ok _ => afterSuccess

open Prog

theorem onFailure_settles : Settles onFailure afterFailure := by
  intro s
  simp only [onFailure, exec_bind, exec_modify, exec_get, exec_ite, afterFailure]
  split <;> rfl

theorem onSuccess_settles : Settles onSuccess afterSuccess := by
  intro s
  simp only [onSuccess, exec_bind, exec_modify, exec_get, exec_ite, afterSuccess]
  split <;> rfl

/-- `write` never raises, whatever the inner writer does. -/
theorem write_settles (inner : Except PyExc Unit) : Settles (write inner) (afterWrite inner) := by
  intro s
  cases inner with
  | error exc =>
    simp only [write, write.liftExcept, exec_bind, exec_tryCatch, exec_throw, onFailure_settles s,
      exec_pure]
    rfl
  | ok _ =>
    simp only [write, write.liftExcept, exec_bind, exec_tryCatch, exec_pure, if_true,
      onSuccess_settles s]
    rfl

end GatewayAuditWriter

end BasisGateway
