/-
Programs over a state that may raise. A raised exception keeps the state
the program had reached, as an exception does in a language with mutable
objects; `tryCatch` is the catch-all clause.

`exec` runs a program, and the equations below compute a run step by step.
`Settles p f` says `p` always returns, leaving the state `f` computes: a
program that settles can be replaced by its effect wherever it occurs.
-/
import Mathlib.Init

/-- A program over a state `σ` that answers an `α` or raises an `ε`. -/
abbrev Prog (σ ε α : Type) := ExceptT ε (StateM σ) α

namespace Prog

variable {σ ε α β : Type}

/-- The answer of `p` from `s`, and the state it leaves. -/
def exec (p : Prog σ ε α) (s : σ) : Except ε α × σ := p.run.run s

@[simp] theorem exec_pure (a : α) (s : σ) : exec (pure a : Prog σ ε α) s = (.ok a, s) := rfl

@[simp] theorem exec_throw (e : ε) (s : σ) : exec (throw e : Prog σ ε α) s = (.error e, s) := rfl

@[simp] theorem exec_get (s : σ) : exec (get : Prog σ ε σ) s = (.ok s, s) := rfl

@[simp] theorem exec_set (s s' : σ) : exec (set s' : Prog σ ε Unit) s = (.ok (), s') := rfl

@[simp] theorem exec_modify (f : σ → σ) (s : σ) :
    exec (modify f : Prog σ ε Unit) s = (.ok (), f s) := rfl

theorem exec_bind (p : Prog σ ε α) (f : α → Prog σ ε β) (s : σ) :
    exec (p >>= f) s =
      match exec p s with
      | (.ok a, s') => exec (f a) s'
      | (.error e, s') => (.error e, s') := by
  simp only [exec, ExceptT.run_bind, StateT.run_bind]
  rcases h : StateT.run p.run s with ⟨_ | _, s'⟩
  · simp only [bind]
    rfl
  · simp only [bind]

theorem exec_ite (c : Prop) [Decidable c] (p q : Prog σ ε α) (s : σ) :
    exec (if c then p else q) s = if c then exec p s else exec q s := by
  split <;> rfl

theorem exec_bind_ok {p : Prog σ ε α} {f : α → Prog σ ε β} {s s' : σ} {a : α}
    (h : exec p s = (.ok a, s')) : exec (p >>= f) s = exec (f a) s' := by
  rw [exec_bind, h]

theorem exec_bind_error {p : Prog σ ε α} {f : α → Prog σ ε β} {s s' : σ} {e : ε}
    (h : exec p s = (.error e, s')) : exec (p >>= f) s = (.error e, s') := by
  rw [exec_bind, h]

theorem exec_tryCatch (p : Prog σ ε α) (handler : ε → Prog σ ε α) (s : σ) :
    exec (tryCatch p handler) s =
      match exec p s with
      | (.ok a, s') => (.ok a, s')
      | (.error e, s') => exec (handler e) s' := by
  simp only [exec, tryCatch, tryCatchThe, MonadExceptOf.tryCatch, ExceptT.tryCatch, ExceptT.run,
    ExceptT.mk]
  simp only [StateT.run, bind, StateT.bind]
  rcases p s with ⟨_ | _, s'⟩ <;> rfl

/-! ## Programs that always return -/

/-- `p` returns from every state, and leaves what `f` computes from it. -/
def Settles (p : Prog σ ε Unit) (f : σ → σ) : Prop := ∀ s, exec p s = (.ok (), f s)

theorem Settles.bind {p : Prog σ ε Unit} {f : σ → σ} (h : Settles p f) (q : Unit → Prog σ ε β)
    (s : σ) : exec (p >>= q) s = exec (q ⟨⟩) (f s) := exec_bind_ok (h s)

/-- Running a settling program once for each element of a list folds its effect. -/
theorem settles_forM {p : α → Prog σ ε Unit} {f : α → σ → σ} (h : ∀ a, Settles (p a) (f a)) :
    ∀ l : List α, Settles (forM l p) (fun s => l.foldl (fun s a => f a s) s)
  | [], s => rfl
  | a :: l, s => by
    rw [List.forM_cons, (h a).bind, settles_forM h l]
    rfl

end Prog
