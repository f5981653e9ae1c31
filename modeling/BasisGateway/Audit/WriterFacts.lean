/-
What any number of writes does. The counters are functions of the outcomes
so far: the failures, and the failures since the last success. The flag, the
readiness component and its reason follow from the second counter, and the
tracker is called on the flag's edges only.

The invariant fixes the whole readiness state: the one before the first
write, with `audit_writer` down when the writer is degraded.
-/
import Mathlib.Data.List.DropRight
import BasisGateway.Lib.Episodes
import BasisGateway.Audit.Writer

namespace BasisGateway

open Prog

/-- What one call on the inner writer does: return, or raise. -/
abbrev WriteOutcome := Except PyExc Unit

def WriteOutcome.failed : WriteOutcome → Bool
  | .ok _ => false
  | .error _ => true

/-- The length of the longest suffix of failures. -/
def trailingFailures (outcomes : List WriteOutcome) : Nat :=
  (outcomes.rtakeWhile WriteOutcome.failed).length

def failures (outcomes : List WriteOutcome) : Nat := outcomes.countP WriteOutcome.failed

/-- A new writer, its component registered as ready. -/
def AuditState.start (failureThreshold : Int) (rs : ReadinessState) : AuditState where
  writer := .init failureThreshold
  readiness := rs.markReady auditWriterComponent
  calls := []

namespace GatewayAuditWriter

/-- `write` called once for each outcome, in order. -/
def writes (outcomes : List WriteOutcome) : Prog AuditState PyExc Unit := forM outcomes write

def afterWrites (outcomes : List WriteOutcome) (s : AuditState) : AuditState :=
  outcomes.foldl (fun s outcome => afterWrite outcome s) s

/-- No sequence of writes raises. -/
theorem writes_settles (outcomes : List WriteOutcome) :
    Settles (writes outcomes) (afterWrites outcomes) := settles_forM write_settles outcomes

theorem afterWrites_append (outcomes more : List WriteOutcome) (s : AuditState) :
    afterWrites (outcomes ++ more) s = afterWrites more (afterWrites outcomes s) :=
  List.foldl_append

theorem afterWrites_concat (outcomes : List WriteOutcome) (outcome : WriteOutcome) (s : AuditState) :
    afterWrites (outcomes ++ [outcome]) s = afterWrite outcome (afterWrites outcomes s) :=
  afterWrites_append outcomes [outcome] s

/-! ## One write, by cases -/

/-- A failure short of the threshold, or after it: counted, and nothing signalled. -/
theorem afterFailure_quiet {s : AuditState}
    (h : ¬(s.writer.failureThreshold ≤ ↑(s.writer.consecutiveFailureCount + 1) ∧
      s.writer.degraded = false)) :
    afterFailure s = { s with writer := { s.writer with
      failedWriteCount := s.writer.failedWriteCount + 1
      consecutiveFailureCount := s.writer.consecutiveFailureCount + 1 } } := if_neg h

/-- The failure that reaches the threshold. -/
theorem afterFailure_degrades {s : AuditState}
    (h : s.writer.failureThreshold ≤ ↑(s.writer.consecutiveFailureCount + 1))
    (hd : s.writer.degraded = false) :
    afterFailure s =
      { writer := { s.writer with
          failedWriteCount := s.writer.failedWriteCount + 1
          consecutiveFailureCount := s.writer.consecutiveFailureCount + 1
          degraded := true }
        readiness := s.readiness.markNotReady
          (AuditState.degradedReason (s.writer.consecutiveFailureCount + 1)) auditWriterComponent
        calls := s.calls ++ [.markNotReady
          (AuditState.degradedReason (s.writer.consecutiveFailureCount + 1)) auditWriterComponent] } :=
  if_pos ⟨h, hd⟩

theorem afterSuccess_quiet {s : AuditState} (hd : s.writer.degraded = false) :
    afterSuccess s = { s with writer := { s.writer with consecutiveFailureCount := 0 } } := by
  simp [afterSuccess, hd]

/-- The success that ends an episode. -/
theorem afterSuccess_recovers {s : AuditState} (hd : s.writer.degraded = true) :
    afterSuccess s =
      { writer := { s.writer with consecutiveFailureCount := 0, degraded := false }
        readiness := s.readiness.markReady auditWriterComponent
        calls := s.calls ++ [.markReady auditWriterComponent] } := by
  simp [afterSuccess, hd, AuditState.markReady]

/-! ## The invariant -/

/-- The reason given when the threshold is crossed: the count is the threshold then. -/
def thresholdReason (failureThreshold : Int) : String :=
  AuditState.degradedReason (max 1 failureThreshold).toNat

/-- The readiness state `rs` with `audit_writer` registered, and down when `degraded`. -/
def signalled (failureThreshold : Int) (rs : ReadinessState) (degraded : Bool) : ReadinessState :=
  if degraded then rs.markReady auditWriterComponent |>.markNotReady (thresholdReason failureThreshold)
    auditWriterComponent
  else rs.markReady auditWriterComponent

/-- What holds of the writer and of the tracker after writes with these outcomes. -/
structure WriterInv (failureThreshold : Int) (rs : ReadinessState) (outcomes : List WriteOutcome)
    (s : AuditState) : Prop where
  threshold : s.writer.failureThreshold = max 1 failureThreshold
  consecutive : s.writer.consecutiveFailureCount = trailingFailures outcomes
  failed : s.writer.failedWriteCount = failures outcomes
  degraded : s.writer.degraded = true ↔ max 1 failureThreshold ≤ trailingFailures outcomes
  readiness : s.readiness = signalled failureThreshold rs s.writer.degraded

theorem WriterInv.start (failureThreshold : Int) (rs : ReadinessState) :
    WriterInv failureThreshold rs [] (.start failureThreshold rs) where
  threshold := rfl
  consecutive := rfl
  failed := rfl
  degraded := by
    simp only [AuditState.start, init, trailingFailures, List.rtakeWhile_nil, List.length_nil,
      Bool.false_eq_true, false_iff]
    omega
  readiness := rfl

@[simp] theorem trailingFailures_concat_ok (outcomes : List WriteOutcome) (u : Unit) :
    trailingFailures (outcomes ++ [.ok u]) = 0 := by
  simp [trailingFailures, WriteOutcome.failed]

@[simp] theorem trailingFailures_concat_error (outcomes : List WriteOutcome) (exc : PyExc) :
    trailingFailures (outcomes ++ [.error exc]) = trailingFailures outcomes + 1 := by
  simp [trailingFailures, List.rtakeWhile_concat, WriteOutcome.failed]

@[simp] theorem failures_concat_ok (outcomes : List WriteOutcome) (u : Unit) :
    failures (outcomes ++ [.ok u]) = failures outcomes := by
  simp [failures, WriteOutcome.failed]

@[simp] theorem failures_concat_error (outcomes : List WriteOutcome) (exc : PyExc) :
    failures (outcomes ++ [.error exc]) = failures outcomes + 1 := by
  simp [failures, WriteOutcome.failed]

variable {failureThreshold : Int} {rs : ReadinessState} {outcomes : List WriteOutcome} {s : AuditState}

/-- When a failure crosses the threshold, the count is the threshold itself. -/
theorem WriterInv.crossing (h : WriterInv failureThreshold rs outcomes s)
    (hle : s.writer.failureThreshold ≤ ↑(s.writer.consecutiveFailureCount + 1))
    (hd : s.writer.degraded = false) :
    s.writer.consecutiveFailureCount + 1 = (max 1 failureThreshold).toNat := by
  have hth := h.threshold
  have hco := h.consecutive
  have hdeg := h.degraded
  rw [hd] at hdeg
  simp only [Bool.false_eq_true, false_iff] at hdeg
  omega

/-- The step of the invariant for a failure. -/
theorem WriterInv.failure (h : WriterInv failureThreshold rs outcomes s) (exc : PyExc) :
    WriterInv failureThreshold rs (outcomes ++ [.error exc]) (afterWrite (.error exc) s) := by
  have hth := h.threshold
  have hco := h.consecutive
  have hdeg := h.degraded
  by_cases hc : s.writer.failureThreshold ≤ ↑(s.writer.consecutiveFailureCount + 1) ∧
      s.writer.degraded = false
  · obtain ⟨hle, hd⟩ := hc
    have hat := h.crossing hle hd
    rw [afterWrite, afterFailure_degrades hle hd]
    refine ⟨hth, by simp [hco], by simp [h.failed], ?_, ?_⟩
    · simp only [trailingFailures_concat_error, true_iff]
      omega
    · simp only [signalled, if_true, thresholdReason, h.readiness, hd, hat, Bool.false_eq_true,
        if_false]
  · rw [afterWrite, afterFailure_quiet hc]
    refine ⟨hth, by simp [hco], by simp [h.failed], ?_, h.readiness⟩
    simp only [trailingFailures_concat_error]
    rw [not_and_or] at hc
    rcases hc with hc | hc
    · rw [hdeg]; omega
    · rw [Bool.not_eq_false] at hc
      simp only [hc, true_iff]
      have := hdeg.1 hc
      omega

/-- The step of the invariant for a success. -/
theorem WriterInv.success (h : WriterInv failureThreshold rs outcomes s) (u : Unit) :
    WriterInv failureThreshold rs (outcomes ++ [.ok u]) (afterWrite (.ok u) s) := by
  have hbelow : ¬ max 1 failureThreshold ≤ ↑(trailingFailures (outcomes ++ [.ok u])) := by
    rw [trailingFailures_concat_ok]
    omega
  cases hd : s.writer.degraded with
  | false =>
    rw [afterWrite, afterSuccess_quiet hd]
    exact ⟨h.threshold, by simp, by simp [h.failed], iff_of_false (by simp [hd]) hbelow, h.readiness⟩
  | true =>
    rw [afterWrite, afterSuccess_recovers hd]
    refine ⟨h.threshold, by simp, by simp [h.failed], iff_of_false (by simp) hbelow, ?_⟩
    simp [signalled, h.readiness, hd]

theorem WriterInv.write (h : WriterInv failureThreshold rs outcomes s) :
    ∀ outcome, WriterInv failureThreshold rs (outcomes ++ [outcome]) (afterWrite outcome s)
  | .error exc => h.failure exc
  | .ok u => h.success u

/-- **The invariant holds after every sequence of writes.** -/
theorem writerInv_afterWrites (failureThreshold : Int) (rs : ReadinessState)
    (outcomes : List WriteOutcome) :
    WriterInv failureThreshold rs outcomes (afterWrites outcomes (.start failureThreshold rs)) := by
  induction outcomes using List.reverseRecOn with
  | nil => exact .start failureThreshold rs
  | append_singleton outcomes outcome ih =>
    rw [afterWrites_concat]
    exact ih.write outcome

/-! ## The calls on the tracker -/

/-- The state after these writes on a new writer. -/
def reached (failureThreshold : Int) (rs : ReadinessState) (outcomes : List WriteOutcome) : AuditState :=
  (exec (writes outcomes) (.start failureThreshold rs)).2

theorem reached_eq (failureThreshold : Int) (rs : ReadinessState) (outcomes : List WriteOutcome) :
    reached failureThreshold rs outcomes = afterWrites outcomes (.start failureThreshold rs) := by
  rw [reached, writes_settles]

theorem writerInv_reached (failureThreshold : Int) (rs : ReadinessState) (outcomes : List WriteOutcome) :
    WriterInv failureThreshold rs outcomes (reached failureThreshold rs outcomes) := by
  rw [reached_eq]
  exact writerInv_afterWrites failureThreshold rs outcomes

/-- The state after the first `k` of these writes. -/
def reachedAt (failureThreshold : Int) (rs : ReadinessState) (outcomes : List WriteOutcome) (k : Nat) :
    AuditState := reached failureThreshold rs (outcomes.take k)

theorem reachedAt_succ {k : Nat} (hk : k < outcomes.length) :
    reachedAt failureThreshold rs outcomes (k + 1) =
      afterWrite outcomes[k] (reachedAt failureThreshold rs outcomes k) := by
  simp only [reachedAt, reached_eq]
  rw [List.take_succ_eq_append_getElem hk, afterWrites_concat]

/-- A write calls the tracker on the flag's edges and at no other time. -/
theorem calls_afterWrite (h : WriterInv failureThreshold rs outcomes s) (outcome : WriteOutcome) :
    let s' := afterWrite outcome s
    (s.writer.degraded = false → s'.writer.degraded = true → s'.calls =
      s.calls ++ [.markNotReady (thresholdReason failureThreshold) auditWriterComponent]) ∧
    (s.writer.degraded = true → s'.writer.degraded = false → s'.calls =
      s.calls ++ [.markReady auditWriterComponent]) ∧
    (s.writer.degraded = s'.writer.degraded → s'.calls = s.calls) := by
  cases outcome with
  | error exc =>
    by_cases hc : s.writer.failureThreshold ≤ ↑(s.writer.consecutiveFailureCount + 1) ∧
        s.writer.degraded = false
    · obtain ⟨hle, hd⟩ := hc
      simp [afterWrite, afterFailure_degrades hle hd, hd, h.crossing hle hd, thresholdReason]
    · simp only [afterWrite, afterFailure_quiet hc]
      cases s.writer.degraded <;> simp
  | ok u =>
    cases hd : s.writer.degraded with
    | false => simp [afterWrite, afterSuccess_quiet hd, hd]
    | true => simp [afterWrite, afterSuccess_recovers hd]

/-- The tracker's log of calls records the edges of `degraded`. -/
theorem edgeLog_calls (failureThreshold : Int) (rs : ReadinessState) (outcomes : List WriteOutcome)
    {k : Nat} (hk : k < outcomes.length) :
    EdgeLog (fun k => (reachedAt failureThreshold rs outcomes k).writer.degraded)
      (fun k => (reachedAt failureThreshold rs outcomes k).calls)
      (fun _ => .markNotReady (thresholdReason failureThreshold) auditWriterComponent)
      (fun _ => .markReady auditWriterComponent) k := by
  have hinv := writerInv_reached failureThreshold rs (outcomes.take k)
  obtain ⟨hrise, hfall, hsame⟩ := calls_afterWrite hinv outcomes[k]
  constructor <;> rw [reachedAt_succ hk] <;> assumption

/-- The log of calls is only written: the rest of a write does not depend on it. -/
theorem afterWrite_calls (outcome : WriteOutcome) (w : GatewayAuditWriter) (rs : ReadinessState)
    (calls calls' : List ReadinessCall) :
    (afterWrite outcome ⟨w, rs, calls⟩).writer = (afterWrite outcome ⟨w, rs, calls'⟩).writer ∧
      (afterWrite outcome ⟨w, rs, calls⟩).readiness = (afterWrite outcome ⟨w, rs, calls'⟩).readiness := by
  cases outcome with
  | error exc =>
    by_cases hc : w.failureThreshold ≤ ↑(w.consecutiveFailureCount + 1) ∧ w.degraded = false
    · simp only [afterWrite, afterFailure, if_pos hc]
      exact ⟨rfl, rfl⟩
    · simp only [afterWrite, afterFailure, if_neg hc]
      exact ⟨trivial, trivial⟩
  | ok u => cases hd : w.degraded <;> simp [afterWrite, afterSuccess, hd, AuditState.markReady]

/-! ## The report -/

theorem trailingFailures_le (outcomes : List WriteOutcome) :
    trailingFailures outcomes ≤ failures outcomes := by
  have hsuffix := List.rtakeWhile_suffix WriteOutcome.failed outcomes
  have hall : (outcomes.rtakeWhile WriteOutcome.failed).countP WriteOutcome.failed =
      (outcomes.rtakeWhile WriteOutcome.failed).length :=
    List.countP_eq_length.2 fun _ => List.mem_rtakeWhile_imp
  rw [trailingFailures, ← hall]
  exact hsuffix.sublist.countP_le

theorem failures_take_mono (outcomes : List WriteOutcome) (k : Nat) :
    failures (outcomes.take k) ≤ failures (outcomes.take (k + 1)) :=
  (List.take_sublist_take_left (Nat.le_succ k)).countP_le

/-- What can be read off the writer and the tracker after writes with these outcomes. -/
structure WriterReport (failureThreshold : Int) (rs : ReadinessState) (outcomes : List WriteOutcome)
    (s : AuditState) : Prop where
  consecutive : s.writer.consecutiveFailureCount = trailingFailures outcomes
  failed : s.writer.failedWriteCount = failures outcomes
  consecutive_le_failed : s.writer.consecutiveFailureCount ≤ s.writer.failedWriteCount
  degraded : s.writer.degraded = true ↔ max 1 failureThreshold ≤ s.writer.consecutiveFailureCount
  component : s.readiness.components.get? auditWriterComponent = some !s.writer.degraded
  reason : (s.readiness.reasons.get? auditWriterComponent).isSome = s.writer.degraded
  others : ∀ c, c ≠ auditWriterComponent →
    s.readiness.components.get? c = rs.components.get? c ∧ s.readiness.reasons.get? c = rs.reasons.get? c
  ready : s.readiness.isReady = true ↔
    (∀ c, c ≠ auditWriterComponent → rs.components.get? c ≠ some false) ∧ s.writer.degraded = false

theorem signalled_components (failureThreshold : Int) (rs : ReadinessState) (degraded : Bool) :
    (signalled failureThreshold rs degraded).components = rs.components.set auditWriterComponent !degraded := by
  cases degraded <;> simp [signalled]

theorem signalled_reasons (failureThreshold : Int) (rs : ReadinessState) (degraded : Bool) (c : String) :
    (signalled failureThreshold rs degraded).reasons.get? c =
      if c = auditWriterComponent then if degraded then some (thresholdReason failureThreshold) else none
      else rs.reasons.get? c := by
  cases degraded <;> by_cases hc : c = auditWriterComponent <;>
    simp [signalled, OrderedDict.get?_set, OrderedDict.get?_erase, hc]

/-- The whole is ready when every other component is and the writer is not degraded. -/
theorem signalled_isReady (failureThreshold : Int) (rs : ReadinessState) (degraded : Bool) :
    (signalled failureThreshold rs degraded).isReady = true ↔
      (∀ c, c ≠ auditWriterComponent → rs.components.get? c ≠ some false) ∧ degraded = false := by
  rw [ReadinessState.isReady_iff, signalled_components]
  constructor
  · rintro ⟨-, h⟩
    refine ⟨fun c hc => by simpa [OrderedDict.get?_set, hc] using h c, ?_⟩
    simpa using h auditWriterComponent
  · rintro ⟨h, rfl⟩
    refine ⟨⟨auditWriterComponent, by simp⟩, fun c => ?_⟩
    by_cases hc : c = auditWriterComponent
    · simp [hc]
    · simpa [OrderedDict.get?_set, hc] using h c hc

theorem WriterInv.report (h : WriterInv failureThreshold rs outcomes s) :
    WriterReport failureThreshold rs outcomes s where
  consecutive := h.consecutive
  failed := h.failed
  consecutive_le_failed := by
    rw [h.consecutive, h.failed]
    exact trailingFailures_le outcomes
  degraded := by rw [h.degraded, h.consecutive]
  component := by simp [h.readiness, signalled_components]
  reason := by
    rw [h.readiness, signalled_reasons]
    cases s.writer.degraded <;> rfl
  others c hc := by
    rw [h.readiness, signalled_components, signalled_reasons, OrderedDict.get?_set_ne _ _ hc, if_neg hc]
    exact ⟨rfl, rfl⟩
  ready := by
    rw [h.readiness]
    exact signalled_isReady failureThreshold rs s.writer.degraded

/-- **The writer and the readiness tracker stay in step.** Whatever the outcomes, no write
raises; after every prefix the counters, the flag and the component are those of the outcomes
so far; the tracker is called once when an episode of degradation starts, once when it ends,
and at no other write. -/
theorem readiness_follows_audit_writes (failureThreshold : Int) (rs : ReadinessState)
    (outcomes : List WriteOutcome) :
    let reached := reachedAt failureThreshold rs outcomes
    let degradedAt k := (reached k).writer.degraded
    let degrade := ReadinessCall.markNotReady (thresholdReason failureThreshold) auditWriterComponent
    let recover := ReadinessCall.markReady auditWriterComponent
    (exec (writes outcomes) (.start failureThreshold rs)).1 = .ok () ∧
    (∀ k, WriterReport failureThreshold rs (outcomes.take k) (reached k)) ∧
    (∀ k, (reached k).writer.failedWriteCount ≤ (reached (k + 1)).writer.failedWriteCount) ∧
    (∀ i j, j ≤ outcomes.length → EpisodeSince degradedAt i j →
      (reached j).calls = (reached i).calls ++ [degrade]) ∧
    (∀ i j, j < outcomes.length → EpisodeSince degradedAt i j → degradedAt (j + 1) = false →
      (reached (j + 1)).calls = (reached i).calls ++ [degrade, recover]) ∧
    (∀ k, k < outcomes.length → degradedAt k = degradedAt (k + 1) →
      (reached (k + 1)).calls = (reached k).calls) := by
  intro reached degradedAt degrade recover
  have hedge : ∀ k, k < outcomes.length →
      EdgeLog degradedAt (fun k => (reached k).calls) (fun _ => degrade) (fun _ => recover) k :=
    fun k hk => edgeLog_calls failureThreshold rs outcomes hk
  refine ⟨by rw [writes_settles], fun k => (writerInv_reached ..).report, fun k => ?_, ?_, ?_, ?_⟩
  · have hfailed k : (reached k).writer.failedWriteCount = failures (outcomes.take k) :=
      (writerInv_reached failureThreshold rs (outcomes.take k)).failed
    rw [hfailed, hfailed]
    exact failures_take_mono outcomes k
  · exact fun i j hj hep => hep.log_eq fun k hk => hedge k (by omega)
  · exact fun i j hj hep hend => hep.log_end hend fun k hk => hedge k (by omega)
  · exact fun k hk hsame => (hedge k hk).same hsame

end GatewayAuditWriter

end BasisGateway
