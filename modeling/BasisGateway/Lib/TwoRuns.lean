/-
Two runs compared. `Agree seen R S T` says that `seen` shows the same of the
effects of both scripts, and that both return values related by `R` or stop
with one exception. It is kept by every way of building a script, so two
programs that differ in a secret agree as soon as their steps do.
-/
import BasisGateway.Lib.Scripts

/-- Both values, related by `R`, or both the same exception. -/
inductive Except.Alike {ε α β : Type} (R : α → β → Prop) : Except ε α → Except ε β → Prop
  | ok {a : α} {b : β} (h : R a b) : Alike R (.ok a) (.ok b)
  | error (e : ε) : Alike R (.error e) (.error e)

namespace Except.Alike

variable {ε α β : Type} {R R' : α → β → Prop}

theorem refl : ∀ r : Except ε α, Alike Eq r r
  | .ok _ => .ok rfl
  | .error e => .error e

theorem of_eq {r s : Except ε α} (h : r = s) : Alike Eq r s := h ▸ refl r

theorem eq {r s : Except ε α} (h : Alike Eq r s) : r = s := by
  cases h with
  | ok h => rw [h]
  | error e => rfl

end Except.Alike

namespace Script

variable {E ε α β α' β' γ : Type}

/-- The scripts show the same effects, and answer alike. -/
structure Agree (seen : E → Option γ) (R : α → β → Prop) (S : Script E ε α) (T : Script E ε β) : Prop where
  shown : S.effects.filterMap seen = T.effects.filterMap seen
  result : Except.Alike R S.result T.result

namespace Agree

variable {seen : E → Option γ} {R : α → β → Prop} {R' : α' → β' → Prop}

theorem refl (S : Script E ε α) : Agree seen Eq S S := ⟨rfl, .refl S.result⟩

theorem of_eq {S T : Script E ε α} (h : S = T) : Agree seen Eq S T := h ▸ refl S

theorem pure {a : α} {b : β} (h : R a b) : Agree seen R (pure a : Script E ε α) (pure b) := ⟨rfl, .ok h⟩

/-- Effects that differ agree if nothing of either is shown. -/
theorem hidden {es fs : List E} (hes : es.filterMap seen = []) (hfs : fs.filterMap seen = []) {a : α} {b : β}
    (h : R a b) : Agree seen R (⟨es, .ok a⟩ : Script E ε α) ⟨fs, .ok b⟩ := ⟨hes.trans hfs.symm, .ok h⟩

theorem bind {S : Script E ε α} {T : Script E ε β} (h : Agree seen R S T) {f : α → Script E ε α'}
    {g : β → Script E ε β'} (hfg : ∀ a b, R a b → Agree seen R' (f a) (g b)) :
    Agree seen R' (S >>= f) (T >>= g) := by
  obtain ⟨es, r⟩ := S
  obtain ⟨fs, s⟩ := T
  obtain ⟨hshown, hresult⟩ := h
  cases hresult with
  | error e => exact ⟨hshown, .error e⟩
  | @ok a b hab =>
    have hrest := hfg a b hab
    rw [bind_ok, bind_ok]
    refine ⟨?_, hrest.result⟩
    rw [List.filterMap_append, List.filterMap_append, hrest.shown]
    exact congrArg (· ++ _) hshown

end Agree

end Script
