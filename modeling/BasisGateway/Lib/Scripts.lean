/-
Scripts: what a program does to a state it only writes, as the list of its
effects and its answer. `Follows p S` says `p` replays the effects of `S` and
answers as `S` does, from every state in `I`. A program that follows a script
cannot tell two states of `I` apart: its answer and its effects are the
script's, whatever the states hold.
-/
import BasisGateway.Lib.Effects

/-- Effects, in order, and then an answer. -/
structure Script (E ε α : Type) where
  effects : List E
  result : Except ε α

namespace Script

variable {σ E ε α β : Type}

/-- Do one thing. -/
def perform (e : E) : Script E ε Unit := ⟨[e], .ok ()⟩

/-- Stop with this exception. -/
def stop (e : ε) : Script E ε α := ⟨[], .error e⟩

def andThen (S : Script E ε α) (f : α → Script E ε β) : Script E ε β :=
  match S.result with
  | .ok a => ⟨S.effects ++ (f a).effects, (f a).result⟩
  | .error e => ⟨S.effects, .error e⟩

instance : Monad (Script E ε) where
  pure a := ⟨[], .ok a⟩
  bind := andThen

theorem pure_eq (a : α) : (pure a : Script E ε α) = ⟨[], .ok a⟩ := rfl

theorem bind_ok (es : List E) (a : α) (f : α → Script E ε β) :
    (⟨es, .ok a⟩ : Script E ε α) >>= f = ⟨es ++ (f a).effects, (f a).result⟩ := rfl

theorem bind_error (es : List E) (e : ε) (f : α → Script E ε β) :
    (⟨es, .error e⟩ : Script E ε α) >>= f = ⟨es, .error e⟩ := rfl

theorem perform_bind (e : E) (f : Unit → Script E ε β) :
    (perform e : Script E ε Unit) >>= f = ⟨e :: (f ()).effects, (f ()).result⟩ := rfl

theorem result_bind (S : Script E ε α) (f : α → Script E ε β) :
    (S >>= f).result = S.result >>= fun a => (f a).result := by
  obtain ⟨es, e | a⟩ := S
  · rfl
  · rfl

/-! ## How a script stops -/

/-- If `S` stops, it is with a `P`. -/
def StopsOnly (P : ε → Prop) (S : Script E ε α) : Prop := ∀ e, S.result = .error e → P e

theorem StopsOnly.pure {P : ε → Prop} (a : α) : StopsOnly P (pure a : Script E ε α) := by
  intro e he
  cases he

theorem StopsOnly.perform {P : ε → Prop} (e : E) : StopsOnly P (perform e : Script E ε Unit) := by
  intro e he
  cases he

/-- What comes after is asked only about the answer it starts from. -/
theorem StopsOnly.bind {P : ε → Prop} {S : Script E ε α} {f : α → Script E ε β} (hS : StopsOnly P S)
    (hf : ∀ a, S.result = .ok a → StopsOnly P (f a)) : StopsOnly P (S >>= f) := by
  obtain ⟨es, r⟩ := S
  cases r with
  | error e =>
    intro e' he'
    cases he'
    exact hS e rfl
  | ok a => exact hf a rfl

/-! ## Replaying effects -/

variable (act : E → σ → σ) (I : σ → Prop)

/-- The state after these effects. -/
def replay (es : List E) (s : σ) : σ := es.foldl (fun s e => act e s) s

@[simp] theorem replay_nil (s : σ) : replay act [] s = s := rfl

@[simp] theorem replay_cons (e : E) (es : List E) (s : σ) :
    replay act (e :: es) s = replay act es (act e s) := rfl

theorem replay_append (es fs : List E) (s : σ) :
    replay act (es ++ fs) s = replay act fs (replay act es s) := List.foldl_append

variable {act I}

/-- What one effect keeps, any number of them keep. -/
theorem replay_induct (hI : ∀ e s, I s → I (act e s)) : ∀ (es : List E) (s : σ), I s → I (replay act es s)
  | [], _, h => h
  | e :: es, s, h => replay_induct hI es (act e s) (hI e s h)

/-! ## Programs that follow a script -/

variable (act I) in
/-- From every state in `I`, `p` does what `S` says. -/
def Follows (p : Prog σ ε α) (S : Script E ε α) : Prop :=
  ∀ s, I s → p.exec s = (S.result, replay act S.effects s)

theorem Follows.pure (a : α) : Follows act I (pure a : Prog σ ε α) (pure a : Script E ε α) :=
  fun _ _ => rfl

theorem Follows.stop (e : ε) : Follows act I (throw e : Prog σ ε α) (stop e) := fun _ _ => rfl

theorem Follows.perform {p : Prog σ ε Unit} {e : E} (h : p.Settles (act e)) :
    Follows act I p (perform e) := fun s _ => h s

theorem Follows.bind (hI : ∀ e s, I s → I (act e s)) {p : Prog σ ε α} {S : Script E ε α}
    {f : α → Prog σ ε β} {g : α → Script E ε β} (hp : Follows act I p S)
    (hf : ∀ a, Follows act I (f a) (g a)) : Follows act I (p >>= f) (S >>= g) := by
  intro s hs
  obtain ⟨es, r⟩ := S
  cases r with
  | error e => exact Prog.exec_bind_error (hp s hs)
  | ok a =>
    rw [Prog.exec_bind_ok (hp s hs), hf a _ (replay_induct hI es s hs), bind_ok, replay_append]

/-- A loop of single effects. -/
theorem Follows.forM (hI : ∀ e s, I s → I (act e s)) {γ : Type} {p : γ → Prog σ ε Unit} {e : γ → E}
    (h : ∀ c, (p c).Settles (act (e c))) :
    ∀ cs : List γ, Follows act I (forM cs p) ⟨cs.map e, .ok ()⟩
  | [] => .pure ()
  | c :: cs => by
    rw [List.forM_cons]
    exact (Follows.perform (h c)).bind hI fun _ => Follows.forM hI h cs

end Script
