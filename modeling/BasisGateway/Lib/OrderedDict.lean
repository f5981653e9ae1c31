/-
Insertion-ordered dictionaries. A key keeps the place of its first
insertion, an update changes its value in place, and no key occurs twice:
the list of entries carries the proof, so a lookup, a membership and a
quantifier over the values say the same thing.
-/
import Mathlib.Data.List.Find
import Mathlib.Data.List.Nodup

/-- A dictionary as the list of its entries, oldest key first. -/
structure OrderedDict (κ ν : Type) where
  entries : List (κ × ν)
  nodup : (entries.map Prod.fst).Nodup

namespace OrderedDict

variable {κ ν : Type}

@[ext] theorem ext {d₁ d₂ : OrderedDict κ ν} (h : d₁.entries = d₂.entries) : d₁ = d₂ := by
  cases d₁; cases d₂; cases h; rfl

def empty : OrderedDict κ ν := ⟨[], by simp⟩

def keys (d : OrderedDict κ ν) : List κ := d.entries.map Prod.fst

/-- Whether every value satisfies `p`. -/
def all (d : OrderedDict κ ν) (p : ν → Bool) : Bool := d.entries.all fun e => p e.2

variable [DecidableEq κ]

/-- The value at `k`, when there is one. -/
def get? (d : OrderedDict κ ν) (k : κ) : Option ν := (d.entries.find? (·.1 = k)).map Prod.snd

/-- The entries with `k` set to `v`: in place when `k` occurs, else last. -/
def setEntries (k : κ) (v : ν) : List (κ × ν) → List (κ × ν)
  | [] => [(k, v)]
  | e :: es => if e.1 = k then (k, v) :: es else e :: setEntries k v es

theorem keys_setEntries (k : κ) (v : ν) : ∀ es : List (κ × ν),
    (setEntries k v es).map Prod.fst =
      if k ∈ es.map Prod.fst then es.map Prod.fst else es.map Prod.fst ++ [k]
  | [] => by simp [setEntries]
  | e :: es => by
    by_cases he : e.1 = k
    · simp [setEntries, he]
    · have hk : k ≠ e.1 := fun h => he h.symm
      simp only [setEntries, if_neg he, List.map_cons, keys_setEntries k v es, List.mem_cons, hk,
        false_or]
      split <;> simp

/-- `d[k] = v`. -/
def set (d : OrderedDict κ ν) (k : κ) (v : ν) : OrderedDict κ ν where
  entries := setEntries k v d.entries
  nodup := by
    rw [keys_setEntries]
    split
    next => exact d.nodup
    next h => exact List.nodup_append.2 ⟨d.nodup, by simp, by simpa using fun a b hab e => h (by
      simpa using ⟨b, e ▸ hab⟩)⟩

/-- `d.pop(k, None)`. -/
def erase (d : OrderedDict κ ν) (k : κ) : OrderedDict κ ν where
  entries := d.entries.filter fun e => !decide (e.1 = k)
  nodup := d.nodup.sublist (List.filter_sublist.map _)

/-- `d.update(…)` with these entries, in order. -/
def update (d : OrderedDict κ ν) (es : List (κ × ν)) : OrderedDict κ ν :=
  es.foldl (fun d e => d.set e.1 e.2) d

/-! ## Lookups -/

omit [DecidableEq κ] in
@[simp] theorem entries_empty : (empty : OrderedDict κ ν).entries = [] := rfl

@[simp] theorem get?_empty (k : κ) : (empty : OrderedDict κ ν).get? k = none := rfl

theorem find?_setEntries (k k' : κ) (v : ν) : ∀ es : List (κ × ν),
    (setEntries k v es).find? (·.1 = k') = if k' = k then some (k, v) else es.find? (·.1 = k')
  | [] => by
    by_cases h : k' = k
    · simp [setEntries, h]
    · simp [setEntries, h, Ne.symm h]
  | e :: es => by
    have ih := find?_setEntries k k' v es
    by_cases he : e.1 = k
    · by_cases h : k' = k
      · simp [setEntries, he, h]
      · simp [setEntries, he, h, Ne.symm h]
    · by_cases h : e.1 = k'
      · have hk : ¬ k' = k := fun hk => he (h.trans hk)
        simp [setEntries, h, hk]
      · simp only [setEntries, if_neg he, List.find?_cons, h, decide_false]
        exact ih

theorem get?_set (d : OrderedDict κ ν) (k k' : κ) (v : ν) :
    (d.set k v).get? k' = if k' = k then some v else d.get? k' := by
  simp only [get?, set, find?_setEntries]
  split <;> simp

@[simp] theorem get?_set_self (d : OrderedDict κ ν) (k : κ) (v : ν) : (d.set k v).get? k = some v := by
  simp [get?_set]

theorem get?_set_ne (d : OrderedDict κ ν) {k k' : κ} (v : ν) (h : k' ≠ k) :
    (d.set k v).get? k' = d.get? k' := by simp [get?_set, h]

theorem get?_erase (d : OrderedDict κ ν) (k k' : κ) :
    (d.erase k).get? k' = if k' = k then none else d.get? k' := by
  simp only [get?, erase, List.find?_filter]
  split
  next h => subst h; simp
  next h =>
    congr 2
    funext e
    by_cases he : e.1 = k'
    · simp [he, h]
    · simp [he]

@[simp] theorem get?_erase_self (d : OrderedDict κ ν) (k : κ) : (d.erase k).get? k = none := by
  simp [get?_erase]

/-! ## Repeated updates -/

theorem setEntries_setEntries (k : κ) (v w : ν) : ∀ es : List (κ × ν),
    setEntries k w (setEntries k v es) = setEntries k w es
  | [] => by simp [setEntries]
  | e :: es => by
    by_cases he : e.1 = k
    · simp [setEntries, he]
    · simp [setEntries, he, setEntries_setEntries k v w es]

@[simp] theorem set_set (d : OrderedDict κ ν) (k : κ) (v w : ν) : (d.set k v).set k w = d.set k w :=
  ext (setEntries_setEntries k v w d.entries)

theorem filter_setEntries (k : κ) (v : ν) : ∀ es : List (κ × ν),
    (setEntries k v es).filter (fun e => !decide (e.1 = k)) = es.filter fun e => !decide (e.1 = k)
  | [] => by simp [setEntries]
  | e :: es => by
    by_cases he : e.1 = k
    · simp [setEntries, he]
    · simp [setEntries, he, filter_setEntries k v es]

/-- Erasing a key forgets what was set there. -/
@[simp] theorem erase_set (d : OrderedDict κ ν) (k : κ) (v : ν) : (d.set k v).erase k = d.erase k :=
  ext (filter_setEntries k v d.entries)

@[simp] theorem erase_erase (d : OrderedDict κ ν) (k : κ) : (d.erase k).erase k = d.erase k :=
  ext (by simp [erase])

theorem setEntries_self (k : κ) (v : ν) : ∀ es : List (κ × ν),
    (es.find? (·.1 = k)).map Prod.snd = some v → setEntries k v es = es
  | [], h => by simp at h
  | e :: es, h => by
    by_cases he : e.1 = k
    · subst he
      simp only [List.find?_cons, decide_true, Option.map_some, Option.some.injEq] at h
      subst h
      simp [setEntries]
    · simp only [List.find?_cons, he, decide_false] at h
      simp [setEntries, he, setEntries_self k v es h]

/-- Setting a key to the value it has changes nothing. -/
theorem set_of_get? {d : OrderedDict κ ν} {k : κ} {v : ν} (h : d.get? k = some v) : d.set k v = d :=
  ext (setEntries_self k v d.entries h)

/-- Erasing an absent key changes nothing. -/
theorem erase_of_get?_none {d : OrderedDict κ ν} {k : κ} (h : d.get? k = none) : d.erase k = d := by
  refine ext (List.filter_eq_self.2 fun e he => ?_)
  simp only [get?, Option.map_eq_none_iff, List.find?_eq_none, decide_eq_true_eq] at h
  simpa using h e he

/-! ## Lookups and entries -/

theorem get?_eq_some_iff (d : OrderedDict κ ν) (k : κ) (v : ν) :
    d.get? k = some v ↔ (k, v) ∈ d.entries := by
  obtain ⟨es, hes⟩ := d
  simp only [get?]
  induction es with
  | nil => simp
  | cons e es ih =>
    simp only [List.map_cons, List.nodup_cons] at hes
    have ih := ih hes.2
    by_cases he : e.1 = k
    · subst he
      have hn : (e.1, v) ∉ es := fun hm => hes.1 (List.mem_map.2 ⟨_, hm, rfl⟩)
      simp [Prod.ext_iff, hn, eq_comm]
    · simp only [List.find?_cons, he, decide_false, List.mem_cons, ih]
      refine ⟨.inr, fun h => h.resolve_left ?_⟩
      rintro rfl
      exact he rfl

/-- A dictionary satisfies `p` throughout exactly when no lookup answers otherwise. -/
theorem all_eq_true_iff (d : OrderedDict κ ν) (p : ν → Bool) :
    d.all p = true ↔ ∀ k v, d.get? k = some v → p v = true := by
  simp only [all, List.all_eq_true, get?_eq_some_iff]
  exact ⟨fun h k v hm => h (k, v) hm, fun h e hm => h e.1 e.2 hm⟩

theorem entries_eq_nil_iff (d : OrderedDict κ ν) : d.entries = [] ↔ ∀ k, d.get? k = none := by
  refine ⟨fun h k => by simp [get?, h], fun h => List.eq_nil_iff_forall_not_mem.2 fun e he => ?_⟩
  have := (d.get?_eq_some_iff e.1 e.2).2 he
  simp [h] at this

theorem mem_keys_iff (d : OrderedDict κ ν) (k : κ) : k ∈ d.keys ↔ (d.get? k).isSome = true := by
  simp only [keys, List.mem_map, Option.isSome_iff_exists, get?_eq_some_iff]
  exact ⟨fun ⟨e, he, hk⟩ => ⟨e.2, hk ▸ he⟩, fun ⟨v, hv⟩ => ⟨(k, v), hv, rfl⟩⟩

theorem get?_eq_none_iff (d : OrderedDict κ ν) (k : κ) : d.get? k = none ↔ k ∉ d.keys := by
  rw [mem_keys_iff, Bool.not_eq_true, Option.isSome_eq_false_iff, Option.isNone_iff_eq_none]

/-- The first entry with a value in `p`, by its key. -/
theorem map_find?_entries (d : OrderedDict κ ν) (p : ν → Bool) :
    (d.entries.find? fun e => p e.2).map Prod.fst = d.keys.find? fun k => (d.get? k).any p := by
  have hget : ∀ e ∈ d.entries, ((d.get? e.1).any p) = p e.2 := by
    intro e he
    rw [(d.get?_eq_some_iff e.1 e.2).2 he, Option.any_some]
  rw [keys, List.find?_map]
  congr 1
  exact List.find?_congr fun e he => (hget e he).symm

/-! ## Appending -/

theorem keys_set (d : OrderedDict κ ν) (k : κ) (v : ν) :
    (d.set k v).keys = if k ∈ d.keys then d.keys else d.keys ++ [k] := keys_setEntries k v d.entries

theorem setEntries_of_notMem (k : κ) (v : ν) : ∀ {es : List (κ × ν)}, k ∉ es.map Prod.fst →
    setEntries k v es = es ++ [(k, v)]
  | [], _ => rfl
  | e :: es, h => by
    simp only [List.map_cons, List.mem_cons, not_or] at h
    rw [setEntries, if_neg (Ne.symm h.1), setEntries_of_notMem k v h.2, List.cons_append]

/-- New keys come last, in their order. -/
theorem entries_update_of_disjoint : ∀ {es : List (κ × ν)} {d : OrderedDict κ ν},
    (es.map Prod.fst).Nodup → (∀ k ∈ es.map Prod.fst, k ∉ d.keys) →
      (d.update es).entries = d.entries ++ es
  | [], d, _, _ => (List.append_nil _).symm
  | e :: es, d, hnd, hd => by
    simp only [List.map_cons, List.nodup_cons] at hnd
    have hset : (d.set e.1 e.2).entries = d.entries ++ [e] :=
      setEntries_of_notMem e.1 e.2 (hd e.1 (by simp))
    have hrest : ∀ k ∈ es.map Prod.fst, k ∉ (d.set e.1 e.2).keys := fun k hk hmem => by
      rw [keys, hset, List.map_append, List.mem_append] at hmem
      rcases hmem with hmem | hmem
      · exact hd k (by simp only [List.map_cons, List.mem_cons, hk, or_true]) hmem
      · rw [List.map_singleton, List.mem_singleton] at hmem
        exact hnd.1 (hmem ▸ hk)
    rw [update, List.foldl_cons, ← update, entries_update_of_disjoint hnd.2 hrest, hset,
      List.append_assoc, List.singleton_append]

/-- Equality of dictionaries that does not look at the order of their keys. -/
def Same (d₁ d₂ : OrderedDict κ ν) : Prop := ∀ k, d₁.get? k = d₂.get? k

end OrderedDict
