/-
Programs that check and go on: what it takes for a sequence of checks to
pass, and for one of them to be the error that is returned.
-/
import Mathlib.Init

namespace Except

variable {ε ε' α β : Type}

theorem bind_eq_ok {x : Except ε α} {f : α → Except ε β} {b : β} :
    (x >>= f) = .ok b ↔ ∃ a, x = .ok a ∧ f a = .ok b := by
  cases x with
  | error e =>
    constructor
    · intro h; cases h
    · rintro ⟨a, ha, -⟩; cases ha
  | ok a =>
    constructor
    · intro h; exact ⟨a, rfl, h⟩
    · rintro ⟨a', ha, h⟩; cases ha; exact h

theorem bind_eq_error {x : Except ε α} {f : α → Except ε β} {e : ε} :
    (x >>= f) = .error e ↔ x = .error e ∨ ∃ a, x = .ok a ∧ f a = .error e := by
  cases x with
  | error e' =>
    constructor
    · intro h; exact .inl (by cases h; rfl)
    · rintro (h | ⟨a, ha, -⟩)
      · cases h; rfl
      · cases ha
  | ok a =>
    constructor
    · intro h; exact .inr ⟨a, rfl, h⟩
    · rintro (h | ⟨a', ha, h⟩)
      · cases h
      · cases ha; exact h

theorem mapError_eq_ok {x : Except ε α} {f : ε → ε'} {a : α} : x.mapError f = .ok a ↔ x = .ok a := by
  cases x with
  | error e =>
    constructor
    · intro h; cases h
    · intro h; cases h
  | ok b =>
    constructor
    · intro h; cases h; rfl
    · intro h; cases h; rfl

theorem mapError_eq_error {x : Except ε α} {f : ε → ε'} {e : ε'} :
    x.mapError f = .error e ↔ ∃ e', x = .error e' ∧ f e' = e := by
  cases x with
  | error e' =>
    constructor
    · intro h; cases h; exact ⟨e', rfl, rfl⟩
    · rintro ⟨_, he, rfl⟩; cases he; rfl
  | ok b =>
    constructor
    · intro h; cases h
    · rintro ⟨_, he, -⟩; cases he

theorem map_eq_ok {x : Except ε α} {f : α → β} {b : β} : x.map f = .ok b ↔ ∃ a, x = .ok a ∧ f a = b := by
  cases x with
  | error e =>
    constructor
    · intro h; cases h
    · rintro ⟨_, ha, -⟩; cases ha
  | ok a =>
    constructor
    · intro h; cases h; exact ⟨a, rfl, rfl⟩
    · rintro ⟨_, ha, rfl⟩; cases ha; rfl

theorem pure_eq_ok {a b : α} : (pure a : Except ε α) = .ok b ↔ a = b := by
  constructor
  · intro h; cases h; rfl
  · intro h; rw [h]; rfl

/-- A check stands before what follows it: both pass, or nothing does. -/
theorem check_bind_eq_ok {x : Except ε Unit} {y : Except ε β} {b : β} :
    (x >>= fun _ => y) = .ok b ↔ x = .ok () ∧ y = .ok b := by
  rw [bind_eq_ok]
  constructor
  · rintro ⟨⟨⟩, hx, hy⟩; exact ⟨hx, hy⟩
  · rintro ⟨hx, hy⟩; exact ⟨(), hx, hy⟩

/-- A guard passes when its condition is false. -/
theorem guard_eq_ok {c : Prop} [Decidable c] {e : ε} {x : Except ε α} {a : α} :
    (if c then .error e else x) = .ok a ↔ ¬ c ∧ x = .ok a := by
  by_cases h : c
  · simp [h]
  · simp [h]

/-- A check made of each entry of a list passes when every entry does. -/
theorem forM_eq_ok {check : α → Except ε Unit} : ∀ {xs : List α},
    forM xs check = .ok () ↔ ∀ x ∈ xs, check x = .ok ()
  | [] => by simp [pure, Except.pure]
  | x :: xs => by
    rw [List.forM_cons, check_bind_eq_ok, forM_eq_ok]
    simp

/-- The error of such a check is an entry's. -/
theorem forM_eq_error {check : α → Except ε Unit} {e : ε} : ∀ {xs : List α},
    forM xs check = .error e → ∃ x ∈ xs, check x = .error e
  | [], h => by cases h
  | x :: xs, h => by
    rw [List.forM_cons] at h
    rcases bind_eq_error.1 h with hx | ⟨_, -, hrest⟩
    · exact ⟨x, by simp, hx⟩
    · obtain ⟨y, hy, herr⟩ := forM_eq_error hrest
      exact ⟨y, by simp [hy], herr⟩

/-- A list of results is returned when every entry has one. -/
theorem mapM_eq_ok {f : α → Except ε β} : ∀ {xs : List α} {ys : List β},
    xs.mapM f = .ok ys ↔ xs.map f = ys.map .ok
  | [], ys => by
    rw [List.mapM_nil, pure_eq_ok]
    simp [eq_comm]
  | x :: xs, ys => by
    rw [List.mapM_cons, bind_eq_ok, List.map_cons]
    constructor
    · intro h
      obtain ⟨y, hy, h⟩ := h
      obtain ⟨rest, hrest, hys⟩ := bind_eq_ok.1 h
      rw [← pure_eq_ok.1 hys, hy, mapM_eq_ok.1 hrest, List.map_cons]
    · intro h
      cases ys with
      | nil => simp at h
      | cons y rest =>
        rw [List.map_cons, List.cons.injEq] at h
        exact ⟨y, h.1, bind_eq_ok.2 ⟨rest, mapM_eq_ok.2 h.2, rfl⟩⟩

/-- Entries read one by one, where `f` reads back what `enc` writes. -/
theorem mapM_eq_ok_of_reads {f : α → Except ε β} {enc : β → α} {P : β → Prop}
    (hreads : ∀ x y, f x = .ok y ↔ x = enc y ∧ P y) : ∀ {xs : List α} {ys : List β},
    xs.mapM f = .ok ys ↔ xs = ys.map enc ∧ ∀ y ∈ ys, P y
  | [], ys => by
    cases ys with
    | nil => simp [pure, Except.pure]
    | cons y ys => simp [pure, Except.pure]
  | x :: xs, ys => by
    rw [List.mapM_cons, bind_eq_ok]
    constructor
    · intro h
      obtain ⟨y, hy, h⟩ := h
      obtain ⟨rest, hrest, hys⟩ := bind_eq_ok.1 h
      obtain ⟨hx, hPy⟩ := (hreads x y).1 hy
      obtain ⟨hxs, hPrest⟩ := (mapM_eq_ok_of_reads hreads).1 hrest
      rw [← pure_eq_ok.1 hys, hx, hxs]
      exact ⟨rfl, List.forall_mem_cons.2 ⟨hPy, hPrest⟩⟩
    · intro h
      obtain ⟨hxs, hP⟩ := h
      cases ys with
      | nil => simp at hxs
      | cons y rest =>
        rw [List.map_cons, List.cons.injEq] at hxs
        obtain ⟨hPy, hPrest⟩ := List.forall_mem_cons.1 hP
        exact ⟨y, (hreads x y).2 ⟨hxs.1, hPy⟩,
          bind_eq_ok.2 ⟨rest, (mapM_eq_ok_of_reads hreads).2 ⟨hxs.2, hPrest⟩, rfl⟩⟩

theorem getElem?_of_mapM {f : α → Except ε β} {xs : List α} {ys : List β} (h : xs.mapM f = .ok ys) (i : Nat) :
    ys[i]?.map .ok = xs[i]?.map f := by
  rw [← List.getElem?_map, ← List.getElem?_map, mapM_eq_ok.1 h]

theorem mem_of_mapM {f : α → Except ε β} {xs : List α} {ys : List β} (h : xs.mapM f = .ok ys) {y : β} :
    y ∈ ys ↔ ∃ x ∈ xs, f x = .ok y := by
  have hmem : Except.ok y ∈ ys.map (.ok : β → Except ε β) ↔ Except.ok y ∈ xs.map f := by rw [mapM_eq_ok.1 h]
  rw [List.mem_map, List.mem_map] at hmem
  rw [← hmem]
  constructor
  · intro hy
    exact ⟨y, hy, rfl⟩
  · intro hy
    obtain ⟨y', hy', heq⟩ := hy
    exact Except.ok.inj heq ▸ hy'

/-- What the results keep of the entries. -/
theorem map_of_mapM {γ : Type} {f : α → Except ε β} {g : β → γ} {k : α → γ}
    (hkeeps : ∀ x y, f x = .ok y → g y = k x) : ∀ {xs : List α} {ys : List β}, xs.mapM f = .ok ys →
      ys.map g = xs.map k
  | [], ys, h => by
    rw [List.mapM_nil, pure_eq_ok] at h
    simp [← h]
  | x :: xs, ys, h => by
    rw [List.mapM_cons] at h
    obtain ⟨y, hy, h⟩ := bind_eq_ok.1 h
    obtain ⟨rest, hrest, hys⟩ := bind_eq_ok.1 h
    rw [← pure_eq_ok.1 hys, List.map_cons, List.map_cons, hkeeps x y hy, map_of_mapM hkeeps hrest]

theorem exists_mapM_eq_ok {f : α → Except ε β} {xs : List α} :
    (∃ ys, xs.mapM f = .ok ys) ↔ ∀ x ∈ xs, ∃ y, f x = .ok y := by
  simp only [mapM_eq_ok]
  induction xs with
  | nil => simp
  | cons x xs ih =>
    rw [List.forall_mem_cons, ← ih]
    constructor
    · intro h
      obtain ⟨ys, hys⟩ := h
      cases ys with
      | nil => simp at hys
      | cons y rest =>
        rw [List.map_cons, List.map_cons, List.cons.injEq] at hys
        exact ⟨⟨y, hys.1⟩, rest, hys.2⟩
    · intro h
      obtain ⟨⟨y, hy⟩, rest, hrest⟩ := h
      exact ⟨y :: rest, by rw [List.map_cons, List.map_cons, hy, hrest]⟩

/-! ## What a program may raise -/

/-- Whatever `x` raises satisfies `P`. -/
def Raises (P : ε → Prop) (x : Except ε α) : Prop := ∀ e, x = .error e → P e

variable {P : ε → Prop}

theorem raises_ok (a : α) : Raises P (.ok a) := by
  intro e h
  cases h

theorem raises_pure (a : α) : Raises P (pure a : Except ε α) := raises_ok a

theorem raises_error_iff {e : ε} : Raises P (.error e : Except ε α) ↔ P e := by
  constructor
  · intro h; exact h e rfl
  · intro he e' h; cases h; exact he

theorem raises_bind_iff {x : Except ε α} {f : α → Except ε β} :
    Raises P (x >>= f) ↔ Raises P x ∧ ∀ a, x = .ok a → Raises P (f a) := by
  constructor
  · intro h
    exact ⟨fun e hx => h e (bind_eq_error.2 (.inl hx)), fun a hx e hf => h e (bind_eq_error.2 (.inr ⟨a, hx, hf⟩))⟩
  · rintro ⟨hx, hf⟩ e h
    rcases bind_eq_error.1 h with hxe | ⟨a, hxa, hfe⟩
    · exact hx e hxe
    · exact hf a hxa e hfe

theorem raises_mapError_iff {P : ε' → Prop} {x : Except ε α} {f : ε → ε'} :
    Raises P (x.mapError f) ↔ Raises (fun e => P (f e)) x := by
  constructor
  · intro h e hx
    exact h (f e) (mapError_eq_error.2 ⟨e, hx, rfl⟩)
  · intro h e' he'
    obtain ⟨e, hx, rfl⟩ := mapError_eq_error.1 he'
    exact h e hx

theorem raises_guard {c : Prop} [Decidable c] {e : ε} {x : Except ε α} (he : P e) (hx : Raises P x) :
    Raises P (if c then .error e else x) := by
  split
  next => exact raises_error_iff.2 he
  next => exact hx

theorem raises_forM {check : α → Except ε Unit} {xs : List α} (h : ∀ x, Raises P (check x)) :
    Raises P (forM xs check) := by
  intro e herr
  obtain ⟨x, -, hx⟩ := forM_eq_error herr
  exact h x e hx

theorem raises_mapM {f : α → Except ε β} {xs : List α} (h : ∀ x ∈ xs, Raises P (f x)) :
    Raises P (xs.mapM f) := by
  induction xs with
  | nil => exact raises_pure []
  | cons x xs ih =>
    rw [List.mapM_cons, raises_bind_iff]
    refine ⟨h x (List.mem_cons_self ..), fun y _ => ?_⟩
    rw [raises_bind_iff]
    exact ⟨ih fun z hz => h z (List.mem_cons_of_mem _ hz), fun ys _ => raises_pure _⟩

end Except
