/-
Programs that read a shared state, one atomic read at a time, while others
update it. A schedule says whose turn it is, so the runs are all the ways in
which updates fall between the reads.

What a program answers depends on a schedule through the states its reads see
(`answers_iff`), and these are what the updates before each read leave
(`seen_eq_states`). A program that reads a part of a larger state cannot tell
the updates of the whole from those they make of the part (`answers_on_iff`).
-/
import BasisGateway.Lib.Scripts

/-- A program that answers an `α`, or reads a `σ` and goes on. -/
inductive Reads (σ α : Type)
  | done (answer : α)
  | read (next : σ → Reads σ α)

/-- Whose turn it is: the program's, for one read, or that of an update. -/
inductive Turn (υ : Type)
  | read
  | update (u : υ)
  deriving DecidableEq, Repr

def Turn.isRead {υ : Type} : Turn υ → Bool
  | .read => true
  | .update _ => false

namespace Reads

variable {σ τ υ ω α β : Type}

/-- One read. -/
def ask (f : σ → β) : Reads σ β := .read fun s => .done (f s)

def andThen : Reads σ α → (α → Reads σ β) → Reads σ β
  | .done a, f => f a
  | .read next, f => .read fun s => (next s).andThen f

instance : Monad (Reads σ) where
  pure := .done
  bind := andThen

theorem pure_eq (a : α) : (pure a : Reads σ α) = .done a := rfl

theorem ask_bind (f : σ → α) (g : α → Reads σ β) : ask f >>= g = .read fun s => g (f s) := rfl

/-- The answer, when the reads see these states one after the other. -/
def answer : Reads σ α → List σ → Option α
  | .done a, _ => some a
  | .read _, [] => none
  | .read next, s :: states => (next s).answer states

/-- The program answers after `n` reads at most. -/
def Within : Nat → Reads σ α → Prop
  | _, .done _ => True
  | 0, .read _ => False
  | n + 1, .read next => ∀ s, Within n (next s)

theorem exists_answer_of_within : ∀ {n : Nat} (p : Reads σ α) (states : List σ),
    p.Within n → n ≤ states.length → ∃ a, p.answer states = some a
  | _, .done a, _, _, _ => ⟨a, rfl⟩
  | n + 1, .read next, s :: states, hp, hn => by
    have hlength : n ≤ states.length := by simpa using hn
    exact exists_answer_of_within (next s) states (hp s) hlength

/-! ## Runs -/

section

variable (act : υ → σ → σ)

/-- One turn. -/
def step : Reads σ α × σ → Turn υ → Reads σ α × σ
  | (.done a, s), .read => (.done a, s)
  | (.read next, s), .read => (next s, s)
  | (p, s), .update u => (p, act u s)

def run (c : Reads σ α × σ) (turns : List (Turn υ)) : Reads σ α × σ := turns.foldl (step act) c

/-- By the end of the schedule the program has given this answer. -/
def Answers (p : Reads σ α) (s : σ) (turns : List (Turn υ)) (a : α) : Prop := (run act (p, s) turns).1 = .done a

/-- The states at the turns that are reads. -/
def seen : σ → List (Turn υ) → List σ
  | _, [] => []
  | s, .read :: turns => s :: seen s turns
  | s, .update u :: turns => seen (act u s) turns

/-- The states that the updates of each list leave after those of the lists before it. -/
def states : σ → List (List υ) → List σ
  | _, [] => []
  | s, gap :: gaps => Script.replay act gap s :: states (Script.replay act gap s) gaps

end

/-- The updates before each read of a schedule. -/
def gaps : List (Turn υ) → List (List υ)
  | [] => []
  | .read :: turns => [] :: gaps turns
  | .update u :: turns =>
    match gaps turns with
    | [] => []
    | gap :: rest => (u :: gap) :: rest

variable {act : υ → σ → σ}

/-- **The schedule matters through the states that are seen.** -/
theorem answers_iff {a : α} : ∀ (turns : List (Turn υ)) (p : Reads σ α) (s : σ),
    Answers act p s turns a ↔ p.answer (seen act s turns) = some a
  | [], .done b, s => by simp [Answers, run, answer]
  | [], .read next, s => by simp [Answers, run, seen, answer]
  | .read :: turns, .done b, s => by
    have ih := answers_iff (a := a) turns (.done b) s
    exact ih
  | .read :: turns, .read next, s => answers_iff turns (next s) s
  | .update u :: turns, p, s => by
    have hstep : step act (p, s) (.update u) = (p, act u s) := by cases p <;> rfl
    have ih := answers_iff (a := a) turns p (act u s)
    rw [Answers, run] at ih ⊢
    rw [List.foldl_cons, hstep, ih, seen]

/-- **What is seen is what the gaps leave.** -/
theorem seen_eq_states (s : σ) (turns : List (Turn υ)) : seen act s turns = states act s (gaps turns) := by
  induction turns generalizing s with
  | nil => rfl
  | cons turn turns ih =>
    cases turn with
    | read => rw [seen, gaps, states, ih, Script.replay_nil]
    | update u =>
      rw [seen, ih, gaps]
      cases gaps turns with
      | nil => rfl
      | cons gap rest => rfl

/-- Without updates there is nothing in the gaps. -/
theorem gaps_eq_nil {turns : List (Turn υ)} (h : ∀ u, Turn.update u ∉ turns) : ∀ gap ∈ gaps turns, gap = [] := by
  induction turns with
  | nil =>
    intro gap hgap
    cases hgap
  | cons turn turns ih =>
    have hrest := ih fun u hu => h u (List.mem_cons_of_mem turn hu)
    cases turn with
    | read => exact List.forall_mem_cons.2 ⟨rfl, hrest⟩
    | update u => exact absurd (List.mem_cons_self ..) (h u)

theorem states_zero {s t : σ} {gaps : List (List υ)} (h : (states act s gaps)[0]? = some t) :
    t = Script.replay act (gaps.getD 0 []) s := by
  cases gaps with
  | nil => cases h
  | cons gap gaps => exact (Option.some.inj h).symm

/-- Each state is what its gap leaves of the one before. -/
theorem states_succ {i : Nat} {s t' : σ} {gaps : List (List υ)} (h : (states act s gaps)[i + 1]? = some t') :
    ∃ t, (states act s gaps)[i]? = some t ∧ t' = Script.replay act (gaps.getD (i + 1) []) t := by
  induction i generalizing s gaps with
  | zero =>
    cases gaps with
    | nil => cases h
    | cons gap gaps => exact ⟨_, rfl, states_zero h⟩
  | succ i ih =>
    cases gaps with
    | nil => cases h
    | cons gap gaps => exact ih h

theorem length_seen (s : σ) (turns : List (Turn υ)) :
    (seen act s turns).length = turns.countP Turn.isRead := by
  induction turns generalizing s with
  | nil => rfl
  | cons turn turns ih =>
    cases turn with
    | read => rw [seen, List.length_cons, ih, List.countP_cons_of_pos rfl]
    | update u => rw [seen, ih, List.countP_cons_of_neg (by simp [Turn.isRead])]

/-- What the updates keep holds of every state that is seen. -/
theorem forall_mem_seen {I : σ → Prop} (hact : ∀ u s, I s → I (act u s)) {s : σ} (hs : I s)
    (turns : List (Turn υ)) : ∀ t ∈ seen act s turns, I t := by
  induction turns generalizing s with
  | nil =>
    intro t ht
    cases ht
  | cons turn turns ih =>
    cases turn with
    | read =>
      intro t ht
      rcases List.mem_cons.1 ht with rfl | ht
      · exact hs
      · exact ih hs t ht
    | update u => exact ih (hact u s hs)

/-! ## A part of a larger state -/

/-- The program, reading a part of the state. -/
def on (part : τ → σ) : Reads σ α → Reads τ α
  | .done a => .done a
  | .read next => .read fun t => (next (part t)).on part

theorem answer_on (part : τ → σ) (p : Reads σ α) (states : List τ) :
    (p.on part).answer states = p.answer (states.map part) := by
  induction states generalizing p with
  | nil => cases p <;> rfl
  | cons t states ih =>
    cases p with
    | done a => rfl
    | read next =>
      rw [List.map_cons, answer, ← ih]
      rfl

/-- The updates of the part that those of a schedule make. -/
def parts (act : ω → τ → τ) (made : ω → τ → List υ) : τ → List (Turn ω) → List (Turn υ)
  | _, [] => []
  | t, .read :: turns => .read :: parts act made t turns
  | t, .update w :: turns => (made w t).map .update ++ parts act made (act w t) turns

theorem seen_updates (us : List υ) (s : σ) (turns : List (Turn υ)) :
    seen act s (us.map .update ++ turns) = seen act (Script.replay act us s) turns := by
  induction us generalizing s with
  | nil => rfl
  | cons u us ih =>
    rw [List.map_cons, List.cons_append, seen, ih, Script.replay_cons]

section

variable {part : τ → σ} {actOn : ω → τ → τ} {made : ω → τ → List υ}

theorem seen_parts (hmade : ∀ w t, part (actOn w t) = Script.replay act (made w t) (part t)) (t : τ)
    (turns : List (Turn ω)) : seen act (part t) (parts actOn made t turns) = (seen actOn t turns).map part := by
  induction turns generalizing t with
  | nil => rfl
  | cons turn turns ih =>
    cases turn with
    | read => rw [parts, seen, seen, ih, List.map_cons]
    | update w => rw [parts, seen_updates, ← hmade, ih, seen]

/-- **Updates of the whole are the updates they make of the part.** -/
theorem answers_on_iff (hmade : ∀ w t, part (actOn w t) = Script.replay act (made w t) (part t))
    {p : Reads σ α} {t : τ} {turns : List (Turn ω)} {a : α} :
    Answers actOn (p.on part) t turns a ↔ Answers act p (part t) (parts actOn made t turns) a := by
  rw [answers_iff, answers_iff, answer_on, seen_parts hmade]

end

end Reads
