/-
The readiness tracker (`readiness.py`): one flag and at most one reason for
each registered component. Every method holds the lock for its whole body,
so each is one step here.
-/
import BasisGateway.Lib.OrderedDict

namespace BasisGateway

/-- `ReadinessState`, less its lock. -/
structure ReadinessState where
  components : OrderedDict String Bool
  reasons : OrderedDict String String

namespace ReadinessState

/-- A tracker with nothing registered, as a fresh process starts with. -/
def fresh : ReadinessState := ⟨.empty, .empty⟩

def markReady (rs : ReadinessState) (component : String := "app") : ReadinessState where
  components := rs.components.set component true
  reasons := rs.reasons.erase component

def markNotReady (rs : ReadinessState) (reason : String := "application not initialized")
    (component : String := "app") : ReadinessState where
  components := rs.components.set component false
  reasons := rs.reasons.set component reason

/-- All registered components are ready, and there is one. -/
def isReady (rs : ReadinessState) : Bool :=
  if rs.components.entries.isEmpty then false else rs.components.all id

/-- `self._reasons.get(component, f"{component} not ready")`. -/
def reasonOf (rs : ReadinessState) (component : String) : String :=
  (rs.reasons.get? component).getD (component ++ " not ready")

/-- The reason of the first component that is not ready. -/
def reason (rs : ReadinessState) : String :=
  match rs.components.entries.find? (fun e => !e.2) with
  | some (component, _) => rs.reasonOf component
  | none => ""

/-- The reason of every component that is not ready. -/
def allReasons (rs : ReadinessState) : List (String × String) :=
  (rs.components.entries.filter fun e => !e.2).map fun e => (e.1, rs.reasonOf e.1)

@[ext] theorem ext {rs₁ rs₂ : ReadinessState} (hc : rs₁.components = rs₂.components)
    (hr : rs₁.reasons = rs₂.reasons) : rs₁ = rs₂ := by
  cases rs₁; cases rs₂; cases hc; cases hr; rfl

/-! ## What a mark changes -/

@[simp] theorem fresh_components : fresh.components = .empty := rfl
@[simp] theorem fresh_reasons : fresh.reasons = .empty := rfl

@[simp] theorem markReady_components (rs : ReadinessState) (c : String) :
    (rs.markReady c).components = rs.components.set c true := rfl

@[simp] theorem markNotReady_components (rs : ReadinessState) (r c : String) :
    (rs.markNotReady r c).components = rs.components.set c false := rfl

@[simp] theorem markReady_reasons (rs : ReadinessState) (c : String) :
    (rs.markReady c).reasons = rs.reasons.erase c := rfl

@[simp] theorem markNotReady_reasons (rs : ReadinessState) (r c : String) :
    (rs.markNotReady r c).reasons = rs.reasons.set c r := rfl

theorem markReady_of_ready {rs : ReadinessState} {c : String} (hc : rs.components.get? c = some true)
    (hr : rs.reasons.get? c = none) : rs.markReady c = rs :=
  ext (OrderedDict.set_of_get? hc) (OrderedDict.erase_of_get?_none hr)

@[simp] theorem markReady_markReady (rs : ReadinessState) (c : String) :
    (rs.markReady c).markReady c = rs.markReady c := by
  ext1 <;> simp

/-- A component that becomes ready again leaves no trace of having been down. -/
@[simp] theorem markReady_markNotReady (rs : ReadinessState) (r c : String) :
    (rs.markNotReady r c).markReady c = rs.markReady c := by
  ext1 <;> simp

/-- `isReady` by lookups: something is registered, and nothing is registered as not ready. -/
theorem isReady_iff (rs : ReadinessState) :
    rs.isReady = true ↔
      (∃ c, (rs.components.get? c).isSome = true) ∧ ∀ c, rs.components.get? c ≠ some false := by
  have hall := rs.components.all_eq_true_iff id
  have hnil := rs.components.entries_eq_nil_iff
  simp only [isReady, List.isEmpty_iff, id_eq] at hall ⊢
  split
  next h => simp [hnil.1 h]
  next h =>
    rw [hall]
    have hsome : ∃ c, (rs.components.get? c).isSome = true := by
      by_contra hn
      simp only [not_exists, Bool.not_eq_true, Option.isSome_eq_false_iff,
        Option.isNone_iff_eq_none] at hn
      exact h (hnil.2 hn)
    simp only [hsome, true_and]
    refine ⟨fun hv c hc => by simpa using hv c false hc, fun hv c v hc => ?_⟩
    cases v with
    | true => rfl
    | false => exact absurd hc (hv c)

/-- A component that is not ready keeps the whole from being ready. -/
theorem isReady_eq_false {rs : ReadinessState} {c : String} (h : rs.components.get? c = some false) :
    rs.isReady = false := by
  rw [← Bool.not_eq_true, isReady_iff]
  exact fun hr => hr.2 c h

end ReadinessState

end BasisGateway
