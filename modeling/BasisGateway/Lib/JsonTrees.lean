/-
JSON values as trees: the value a path of keys leads to, the keys that occur
at any depth, and the check of every one of them.

`At` and `HasKey` say what is meant; `walk` and `forKeys` compute it.
-/
import BasisGateway.Lib.Checks
import BasisGateway.Values

namespace BasisGateway

namespace Json

variable {ε : Type}

theorem mem_of_get? {key : String} {value : Json} : ∀ {fields : List (String × Json)},
    get? key fields = some value → (key, value) ∈ fields
  | [], h => by cases h
  | (k, v) :: rest, h => by
    rw [get?] at h
    split at h
    next hk =>
      cases h
      rw [hk]
      exact List.mem_cons_self
    next => exact List.mem_cons_of_mem _ (mem_of_get? h)

/-! ## Paths -/

/-- `At path j value`: the keys of `path`, one object after the other, lead from `j` to `value`. -/
inductive At : List String → Json → Json → Prop
  | here {value : Json} : At [] value value
  | field {key : String} {path : List String} {fields : List (String × Json)} {child value : Json}
      (hget : get? key fields = some child) (hrest : At path child value) :
      At (key :: path) (.obj fields) value

theorem at_nil_iff {j value : Json} : At [] j value ↔ j = value := by
  constructor
  · intro h
    cases h
    rfl
  · intro h
    subst h
    exact .here

section

variable {key key' : String} {path : List String} {fields : List (String × Json)} {value : Json}

theorem at_cons_iff :
    At (key :: path) (.obj fields) value ↔ ∃ child, get? key fields = some child ∧ At path child value := by
  constructor
  · intro h
    cases h with
    | field hget hrest => exact ⟨_, hget, hrest⟩
  · intro h
    obtain ⟨child, hget, hrest⟩ := h
    exact .field hget hrest

theorem at_one_iff : At [key] (.obj fields) value ↔ get? key fields = some value := by
  simp only [at_cons_iff, at_nil_iff, exists_eq_right]

/-- A path of two keys goes through an object. -/
theorem at_two_iff : At [key, key'] (.obj fields) value ↔
    ∃ fields', get? key fields = some (.obj fields') ∧ get? key' fields' = some value := by
  constructor
  · intro h
    obtain ⟨child, hget, hrest⟩ := at_cons_iff.1 h
    cases hrest with
    | field hget' hend =>
      rw [at_nil_iff] at hend
      exact ⟨_, hget, hend ▸ hget'⟩
  · intro h
    obtain ⟨fields', hget, hget'⟩ := h
    exact .field hget (.field hget' .here)

end

/-- The value at a path. -/
def walk : List String → Json → Option Json
  | [], j => some j
  | key :: path, .obj fields => (get? key fields).bind (walk path)
  | _ :: _, _ => none

theorem walk_eq_some_iff {path : List String} {j value : Json} : walk path j = some value ↔ At path j value := by
  constructor
  · intro h
    induction path generalizing j with
    | nil => cases h; exact .here
    | cons key path ih =>
      cases j with
      | obj fields =>
        obtain ⟨child, hget, hrest⟩ := Option.bind_eq_some_iff.1 h
        exact .field hget (ih hrest)
      | _ => cases h
  · intro h
    induction h with
    | here => rfl
    | field hget _ ih => rw [walk, hget, Option.bind_some, ih]

/-! ## Strings -/

/-- The string `text` is a value in `j`, at any depth of objects and arrays. -/
inductive HasString (text : String) : Json → Prop
  | here : HasString text (.str text)
  | field {fields : List (String × Json)} {key : String} {value : Json} (hmem : (key, value) ∈ fields)
      (h : HasString text value) : HasString text (.obj fields)
  | item {items : List Json} {value : Json} (hmem : value ∈ items) (h : HasString text value) :
      HasString text (.arr items)

theorem HasString.of_get? {text key : String} {fields : List (String × Json)} {value : Json}
    (hget : get? key fields = some value) (h : HasString text value) : HasString text (.obj fields) :=
  .field (mem_of_get? hget) h

theorem HasString.of_at {text : String} {path : List String} {j value : Json} (hat : At path j value)
    (h : HasString text value) : HasString text j := by
  induction hat with
  | here => exact h
  | field hget _ ih => exact .of_get? hget (ih h)

/-! ## Keys -/

/-- `key` is a key of an object of `j`, at any depth of objects and arrays. -/
inductive HasKey (key : String) : Json → Prop
  | here {fields : List (String × Json)} {value : Json} (hmem : (key, value) ∈ fields) : HasKey key (.obj fields)
  | field {fields : List (String × Json)} {k : String} {value : Json} (hmem : (k, value) ∈ fields)
      (h : HasKey key value) : HasKey key (.obj fields)
  | item {items : List Json} {value : Json} (hmem : value ∈ items) (h : HasKey key value) :
      HasKey key (.arr items)

theorem HasKey.of_at {key : String} {path : List String} {j value : Json} (hat : At path j value)
    (h : HasKey key value) : HasKey key j := by
  induction hat with
  | here => exact h
  | field hget _ ih => exact .field (mem_of_get? hget) (ih h)

theorem not_hasKey_obj_nil {key : String} : ¬ HasKey key (.obj []) := by
  intro h
  cases h with
  | here hmem => cases hmem
  | field hmem _ => cases hmem

theorem not_hasKey_arr_nil {key : String} : ¬ HasKey key (.arr []) := by
  intro h
  cases h with
  | item hmem _ => cases hmem

theorem hasKey_obj_cons {key k : String} {value : Json} {rest : List (String × Json)} :
    HasKey key (.obj ((k, value) :: rest)) ↔ key = k ∨ HasKey key value ∨ HasKey key (.obj rest) := by
  constructor
  · intro h
    cases h with
    | here hmem =>
      rcases List.mem_cons.1 hmem with heq | hrest
      · cases heq; exact .inl rfl
      · exact .inr (.inr (.here hrest))
    | field hmem h =>
      rcases List.mem_cons.1 hmem with heq | hrest
      · cases heq; exact .inr (.inl h)
      · exact .inr (.inr (.field hrest h))
  · rintro (rfl | h | h)
    · exact .here List.mem_cons_self
    · exact .field List.mem_cons_self h
    · cases h with
      | here hmem => exact .here (List.mem_cons_of_mem _ hmem)
      | field hmem h => exact .field (List.mem_cons_of_mem _ hmem) h

theorem hasKey_arr_cons {key : String} {item : Json} {rest : List Json} :
    HasKey key (.arr (item :: rest)) ↔ HasKey key item ∨ HasKey key (.arr rest) := by
  constructor
  · intro h
    cases h with
    | item hmem h =>
      rcases List.mem_cons.1 hmem with rfl | hrest
      · exact .inl h
      · exact .inr (.item hrest h)
  · rintro (h | h)
    · exact .item List.mem_cons_self h
    · cases h with
      | item hmem h => exact .item (List.mem_cons_of_mem _ hmem) h

mutual

/-- `check` of every key, an object's before those below it. -/
def forKeys (check : String → Except ε Unit) : Json → Except ε Unit
  | .obj fields => forFields check fields
  | .arr items => forItems check items
  | _ => .ok ()

def forFields (check : String → Except ε Unit) : List (String × Json) → Except ε Unit
  | [] => .ok ()
  | (key, value) :: rest => do
    check key
    forKeys check value
    forFields check rest

def forItems (check : String → Except ε Unit) : List Json → Except ε Unit
  | [] => .ok ()
  | item :: rest => do
    forKeys check item
    forItems check rest

end

section

variable {check : String → Except ε Unit}

mutual

/-- The check of every key passes when each key that occurs does. -/
theorem forKeys_eq_ok : ∀ j : Json, forKeys check j = .ok () ↔ ∀ key, HasKey key j → check key = .ok ()
  | .obj fields => by rw [forKeys]; exact forFields_eq_ok fields
  | .arr items => by rw [forKeys]; exact forItems_eq_ok items
  | .null | .bool _ | .int _ | .float _ | .str _ => iff_of_true rfl fun _ h => by cases h

theorem forFields_eq_ok : ∀ fields : List (String × Json),
    forFields check fields = .ok () ↔ ∀ key, HasKey key (.obj fields) → check key = .ok ()
  | [] => iff_of_true rfl fun _ h => absurd h not_hasKey_obj_nil
  | (k, value) :: rest => by
    rw [forFields, Except.check_bind_eq_ok, Except.check_bind_eq_ok, forKeys_eq_ok value, forFields_eq_ok rest]
    constructor
    · rintro ⟨hkey, hvalue, hrest⟩ key h
      rcases hasKey_obj_cons.1 h with rfl | h | h
      · exact hkey
      · exact hvalue key h
      · exact hrest key h
    · intro h
      exact ⟨h k (hasKey_obj_cons.2 (.inl rfl)), fun key hk => h key (hasKey_obj_cons.2 (.inr (.inl hk))),
        fun key hk => h key (hasKey_obj_cons.2 (.inr (.inr hk)))⟩

theorem forItems_eq_ok : ∀ items : List Json,
    forItems check items = .ok () ↔ ∀ key, HasKey key (.arr items) → check key = .ok ()
  | [] => iff_of_true rfl fun _ h => absurd h not_hasKey_arr_nil
  | item :: rest => by
    rw [forItems, Except.check_bind_eq_ok, forKeys_eq_ok item, forItems_eq_ok rest]
    constructor
    · rintro ⟨hitem, hrest⟩ key h
      rcases hasKey_arr_cons.1 h with h | h
      · exact hitem key h
      · exact hrest key h
    · intro h
      exact ⟨fun key hk => h key (hasKey_arr_cons.2 (.inl hk)), fun key hk => h key (hasKey_arr_cons.2 (.inr hk))⟩

end

mutual

/-- The error of the check of every key is one key's. -/
theorem forKeys_eq_error {e : ε} : ∀ {j : Json}, forKeys check j = .error e → ∃ key, check key = .error e
  | .obj _, h => by rw [forKeys] at h; exact forFields_eq_error h
  | .arr _, h => by rw [forKeys] at h; exact forItems_eq_error h
  | .null, h | .bool _, h | .int _, h | .float _, h | .str _, h => by cases h

theorem forFields_eq_error {e : ε} : ∀ {fields : List (String × Json)},
    forFields check fields = .error e → ∃ key, check key = .error e
  | [], h => by cases h
  | (k, _) :: _, h => by
    rw [forFields] at h
    rcases Except.bind_eq_error.1 h with hkey | ⟨_, -, h⟩
    · exact ⟨k, hkey⟩
    · rcases Except.bind_eq_error.1 h with hvalue | ⟨_, -, hrest⟩
      · exact forKeys_eq_error hvalue
      · exact forFields_eq_error hrest

theorem forItems_eq_error {e : ε} : ∀ {items : List Json},
    forItems check items = .error e → ∃ key, check key = .error e
  | [], h => by cases h
  | _ :: _, h => by
    rw [forItems] at h
    rcases Except.bind_eq_error.1 h with hitem | ⟨_, -, hrest⟩
    · exact forKeys_eq_error hitem
    · exact forItems_eq_error hrest

end

end

end Json

end BasisGateway
