/-
Percent-encoded text: what it denotes, and how bytes are encoded in it. The
digits and their values are a parameter; `HexDigit` has each of the letters
in both cases.
-/
import Mathlib.Init

namespace PercentEncoding

variable {digit : Char → Nat → Prop}

/-- The sixteen digits and their values, the letters in either case. -/
def HexDigit (c : Char) (n : Nat) : Prop :=
  (c, n) ∈ [('0', 0), ('1', 1), ('2', 2), ('3', 3), ('4', 4), ('5', 5), ('6', 6), ('7', 7), ('8', 8), ('9', 9),
    ('a', 10), ('b', 11), ('c', 12), ('d', 13), ('e', 14), ('f', 15),
    ('A', 10), ('B', 11), ('C', 12), ('D', 13), ('E', 14), ('F', 15)]

instance (c : Char) (n : Nat) : Decidable (HexDigit c n) := inferInstanceAs (Decidable (_ ∈ _))

/-- `text` is a concatenation of ASCII characters other than `%`, each one byte, and of escapes, a `%` and
two digits, each the byte of its value. -/
inductive Denotes (digit : Char → Nat → Prop) : List Char → List UInt8 → Prop
  | nil : Denotes digit [] []
  | literal {c : Char} {text : List Char} {bytes : List UInt8} (hne : c ≠ '%') (hascii : c.toNat ≤ 0x7f)
      (h : Denotes digit text bytes) : Denotes digit (c :: text) (UInt8.ofNat c.toNat :: bytes)
  | escape {high low : Char} {m n : Nat} {text : List Char} {bytes : List UInt8} (hhigh : digit high m)
      (hlow : digit low n) (h : Denotes digit text bytes) :
      Denotes digit ('%' :: high :: low :: text) (UInt8.ofNat (16 * m + n) :: bytes)

/-- An encoding of `bytes` that escapes those of the set `escaped`; the others stand as characters. -/
inductive Encodes (digit : Char → Nat → Prop) (escaped : UInt8 → Prop) : List UInt8 → List Char → Prop
  | nil : Encodes digit escaped [] []
  | literal {b : UInt8} {bytes : List UInt8} {text : List Char} (hb : ¬ escaped b)
      (h : Encodes digit escaped bytes text) :
      Encodes digit escaped (b :: bytes) (Char.ofNat b.toNat :: text)
  | escape {b : UInt8} {bytes : List UInt8} {high low : Char} {text : List Char} (hb : escaped b)
      (hhigh : digit high (b.toNat / 16)) (hlow : digit low (b.toNat % 16))
      (h : Encodes digit escaped bytes text) :
      Encodes digit escaped (b :: bytes) ('%' :: high :: low :: text)

theorem Denotes.length_le {text : List Char} {bytes : List UInt8} (h : Denotes digit text bytes) :
    bytes.length ≤ text.length := by
  induction h with
  | nil => simp
  | literal _ _ _ ih => simpa using ih
  | escape _ _ _ ih =>
    simp only [List.length_cons]
    omega

/-- With ASCII digits there is nothing but ASCII in the text. -/
theorem Denotes.ascii (hdigit : ∀ c n, digit c n → c.toNat ≤ 0x7f) {text : List Char} {bytes : List UInt8}
    (h : Denotes digit text bytes) : ∀ c ∈ text, c.toNat ≤ 0x7f := by
  induction h with
  | nil => simp
  | literal _ hascii _ ih =>
    intro c hc
    rcases List.mem_cons.1 hc with rfl | hc
    · exact hascii
    · exact ih c hc
  | escape hhigh hlow _ ih =>
    intro c hc
    simp only [List.mem_cons] at hc
    rcases hc with rfl | rfl | rfl | hc
    · decide
    · exact hdigit _ _ hhigh
    · exact hdigit _ _ hlow
    · exact ih c hc

theorem HexDigit.ascii {c : Char} {n : Nat} (h : HexDigit c n) : c.toNat ≤ 0x7f := by
  rw [HexDigit] at h
  exact (by decide : ∀ digit ∈ _, digit.1.toNat ≤ 0x7f) _ h

/-- Each value has a digit. -/
theorem exists_hexDigit {n : Nat} (h : n < 16) : ∃ c, HexDigit c n := by
  have hdigits : ∀ n < 16, HexDigit (Nat.digitChar n) n := by decide
  exact ⟨_, hdigits n h⟩

theorem toNat_ofNat_toNat (b : UInt8) : (Char.ofNat b.toNat).toNat = b.toNat := by
  have hb : b.toNat < 256 := b.toNat_lt
  have hvalid : b.toNat.isValidChar := .inl (by omega)
  rw [Char.ofNat, dif_pos hvalid]
  rfl

/-- An encoding denotes the bytes it encodes, when `%` and every byte that is not ASCII are escaped. -/
theorem Encodes.denotes {escaped : UInt8 → Prop} (hpercent : escaped 0x25)
    (hhigh : ∀ b : UInt8, 0x80 ≤ b → escaped b) {bytes : List UInt8} {text : List Char}
    (h : Encodes digit escaped bytes text) : Denotes digit text bytes := by
  induction h with
  | nil => exact .nil
  | @literal b bytes text hb _ ih =>
    have hascii : b.toNat < 0x80 := by
      have hlt : ¬ (0x80 : UInt8) ≤ b := fun hle => hb (hhigh b hle)
      simpa [UInt8.le_iff_toNat_le] using hlt
    have hne : Char.ofNat b.toNat ≠ '%' := by
      intro heq
      have hval : b.toNat = 0x25 := by
        rw [← toNat_ofNat_toNat, heq]
        rfl
      have hb' : b = 0x25 := UInt8.toNat_inj.1 hval
      exact hb (hb' ▸ hpercent)
    have hle : (Char.ofNat b.toNat).toNat ≤ 0x7f := by
      rw [toNat_ofNat_toNat]
      omega
    have hliteral := Denotes.literal hne hle ih
    rwa [toNat_ofNat_toNat, UInt8.ofNat_toNat] at hliteral
  | @escape b bytes high low text _ hh hl _ ih =>
    have hescape := Denotes.escape hh hl ih
    rwa [Nat.div_add_mod, UInt8.ofNat_toNat] at hescape

/-- Every byte string has an encoding, whatever is escaped. -/
theorem exists_encodes (hdigit : ∀ n < 16, ∃ c, digit c n) (escaped : UInt8 → Prop) (bytes : List UInt8) :
    ∃ text, Encodes digit escaped bytes text := by
  induction bytes with
  | nil => exact ⟨[], .nil⟩
  | cons b bytes ih =>
    obtain ⟨text, htext⟩ := ih
    by_cases hb : escaped b
    · have hlt : b.toNat < 256 := b.toNat_lt
      obtain ⟨high, hhigh⟩ := hdigit (b.toNat / 16) (by omega)
      obtain ⟨low, hlow⟩ := hdigit (b.toNat % 16) (by omega)
      exact ⟨_, .escape hb hhigh hlow htext⟩
    · exact ⟨_, .literal hb htext⟩

end PercentEncoding
