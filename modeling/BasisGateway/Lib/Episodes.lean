/-
A flag watched by a log. At each step the log gains one entry when the flag
goes up, one when it goes down, and nothing otherwise. Over a maximal
stretch of steps with the flag up, then, the log gains exactly the one entry
of its start, and after it the one of its end.
-/
import Mathlib.Init

variable {ε : Type}

/-- Step `k` of the log `log` records the edge of `flag`, `up k` for a rise and `down k` for a
fall. -/
structure EdgeLog (flag : Nat → Bool) (log : Nat → List ε) (up down : Nat → ε) (k : Nat) : Prop where
  rise : flag k = false → flag (k + 1) = true → log (k + 1) = log k ++ [up k]
  fall : flag k = true → flag (k + 1) = false → log (k + 1) = log k ++ [down k]
  same : flag k = flag (k + 1) → log (k + 1) = log k

/-- The flag is up from step `i + 1` to step `j`, and was down at `i`. -/
structure EpisodeSince (flag : Nat → Bool) (i j : Nat) : Prop where
  nonempty : i < j
  before : flag i = false
  during : ∀ k, i < k → k ≤ j → flag k = true

namespace EpisodeSince

variable {flag : Nat → Bool} {log : Nat → List ε} {up down : Nat → ε} {i j : Nat}

/-- While an episode lasts, the log holds the entry of its start and nothing after it. -/
theorem log_eq (h : EpisodeSince flag i j) (hlog : ∀ k, k < j → EdgeLog flag log up down k) :
    log j = log i ++ [up i] := by
  obtain ⟨d, rfl⟩ := Nat.exists_eq_add_of_lt h.nonempty
  induction d with
  | zero => exact (hlog i (by omega)).rise h.before (h.during _ (by omega) (by omega))
  | succ d ih =>
    have hshort : EpisodeSince flag i (i + d + 1) :=
      ⟨by omega, h.before, fun k hk hkd => h.during k hk (by omega)⟩
    have hup : flag (i + d + 1) = flag (i + d + 1 + 1) := by
      rw [h.during _ (by omega) (by omega), h.during _ (by omega) (by omega)]
    have hstep := (hlog (i + d + 1) (by omega)).same hup
    rw [← ih hshort fun k hk => hlog k (by omega)]
    exact hstep

/-- The step that ends an episode adds the entry of its end. -/
theorem log_end (h : EpisodeSince flag i j) (hend : flag (j + 1) = false)
    (hlog : ∀ k, k < j + 1 → EdgeLog flag log up down k) :
    log (j + 1) = log i ++ [up i, down j] := by
  rw [(hlog j (by omega)).fall (h.during j h.nonempty (by omega)) hend,
    h.log_eq fun k hk => hlog k (by omega)]
  simp

end EpisodeSince
