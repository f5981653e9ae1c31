/-
The percent decoding of a certificate assertion: it accepts exactly the
percent-encoded texts, in one pass, and gives back what any encoder of `%` and
of the bytes that are not ASCII has encoded.
-/
import BasisGateway.Auth.ProducerTrustFacts
import BasisGateway.Lib.PercentEncoding

namespace BasisGateway

open PercentEncoding

theorem hexDigit?_ascii {c : Char} {n : Nat} (h : hexDigit? c = some n) : c.toNat ≤ 0x7f := by
  have hbounds : ∀ {lo hi : Char}, hi.toNat ≤ 0x7f → lo ≤ c ∧ c ≤ hi → c.toNat ≤ 0x7f := by
    intro lo hi hhi hc
    have hle : c.toNat ≤ hi.toNat := by simpa [Char.le_def, UInt32.le_iff_toNat_le] using hc.2
    omega
  unfold hexDigit? at h
  split at h
  next hc => exact hbounds (by decide) hc
  next =>
    split at h
    next hc => exact hbounds (by decide) hc
    next =>
      split at h
      next hc => exact hbounds (by decide) hc
      next => cases h

/-- The decoder's digits are the sixteen, with their values. -/
theorem hexDigit?_eq_some_iff {c : Char} {n : Nat} : hexDigit? c = some n ↔ HexDigit c n := by
  constructor
  · intro h
    have hdigits : ∀ k < 0x80, ∀ m ∈ hexDigit? (Char.ofNat k), HexDigit (Char.ofNat k) m := by decide
    have hascii : c.toNat < 0x80 := Nat.lt_succ_of_le (hexDigit?_ascii h)
    rw [← Char.ofNat_toNat c] at h ⊢
    exact hdigits c.toNat hascii n h
  · intro h
    rw [HexDigit] at h
    exact (by decide : ∀ digit ∈ _, hexDigit? digit.1 = some digit.2) _ h

theorem decodeChars_eq_ok {text : List Char} {bytes : Bytes} :
    decodeChars text = .ok bytes ↔ Denotes HexDigit text bytes := by
  constructor
  · intro h
    fun_induction decodeChars text generalizing bytes with
    | case1 => cases h; exact .nil
    | case2 high low rest m n hlow hhigh ih =>
      rcases hrest : decodeChars rest with exc | decoded
      · rw [hrest] at h; cases h
      · rw [hrest] at h
        cases h
        exact .escape (hexDigit?_eq_some_iff.1 hhigh) (hexDigit?_eq_some_iff.1 hlow) (ih hrest)
    | case3 => cases h
    | case4 => cases h
    | case5 => cases h
    | case6 c rest hpercent hshort hascii ih =>
      rcases hrest : decodeChars rest with exc | decoded
      · rw [hrest] at h; cases h
      · rw [hrest] at h
        cases h
        refine .literal ?_ (Nat.not_lt.1 hascii) (ih hrest)
        intro hc
        exact hshort hc
  · intro h
    induction h with
    | nil => rfl
    | @literal c text bytes hne hascii _ ih =>
      unfold decodeChars
      split
      next heq => cases heq
      next heq => cases heq; exact absurd rfl hne
      next heq => cases heq; exact absurd rfl hne
      next heq =>
        cases heq
        rw [if_neg (Nat.not_lt.2 hascii), ih]
        rfl
    | @escape high low m n text bytes hhigh hlow _ ih =>
      rw [← hexDigit?_eq_some_iff] at hhigh hlow
      simp only [decodeChars, hhigh, hlow, ih]
      rfl

/-! ## The assertion of a request -/

theorem mem_decodeLatin1 {value : Bytes} {b : UInt8} (h : b ∈ value) :
    Char.ofNat b.toNat ∈ (decodeLatin1 value).toList := by
  rw [decodeLatin1, String.toList_ofList]
  exact List.mem_map_of_mem h

/-- A header value with a byte that is not ASCII is retrieved, and refused by the decoder. -/
theorem decode_of_high_byte {value : Bytes} {b : UInt8} (hmem : b ∈ value) (hb : 0x7f < b) :
    ∃ exc, decodeProducerCertificateAssertion (decodeLatin1 value) = .error exc ∧
      exc.cls = .certificateAssertionDecodingError := by
  rcases hdecode : decodeProducerCertificateAssertion (decodeLatin1 value) with exc | bytes
  · exact ⟨exc, rfl, decodeChars_error hdecode⟩
  · have hdenotes := decodeChars_eq_ok.1 hdecode
    have hascii := hdenotes.ascii (fun c n => HexDigit.ascii) _ (mem_decodeLatin1 hmem)
    rw [toNat_ofNat_toNat] at hascii
    have hb' : 0x7f < b.toNat := by simpa [UInt8.lt_iff_toNat_lt] using hb
    omega

/-- **Percent decoding is exact.** It succeeds on the percent-encoded texts and nowhere else, in one pass; it
gives back the bytes of every encoding that escapes `%` and the bytes that are not ASCII, and every byte string
has one; and a retrieved header value with such a byte in it is refused. -/
theorem percent_decoding_exact :
    (∀ assertion,
      (∀ bytes, decodeProducerCertificateAssertion assertion = .ok bytes ↔
        Denotes HexDigit assertion.toList bytes) ∧
      (∀ bytes, decodeProducerCertificateAssertion assertion = .ok bytes → bytes.length ≤ assertion.length) ∧
      ∀ exc, decodeProducerCertificateAssertion assertion = .error exc →
        exc.cls = .certificateAssertionDecodingError) ∧
    decodeProducerCertificateAssertion "a+%2541" = .ok (asciiBytes "a+%41") ∧
    (∀ (escaped : UInt8 → Prop) (bytes : Bytes) (text : List Char), escaped 0x25 →
      (∀ b : UInt8, 0x80 ≤ b → escaped b) → Encodes HexDigit escaped bytes text →
        decodeProducerCertificateAssertion (String.ofList text) = .ok bytes) ∧
    (∀ (escaped : UInt8 → Prop) (bytes : Bytes), ∃ text, Encodes HexDigit escaped bytes text) ∧
    ∀ (headers : RawHeaders) (value : Bytes), certificateValues headers = [value] →
      value.length ≤ maxAssertionSizeBytes → (∃ b ∈ value, 0x7f < b) → ∃ assertion exc,
        retrieveTrustedProducerCertificateAssertion headers true = .ok (some assertion) ∧
        decodeProducerCertificateAssertion assertion = .error exc ∧
        exc.cls = .certificateAssertionDecodingError := by
  refine ⟨?_, by decide +kernel, ?_, fun escaped bytes => exists_encodes (fun n => exists_hexDigit) escaped bytes,
    ?_⟩
  · intro assertion
    refine ⟨fun bytes => decodeChars_eq_ok, ?_, fun exc => decodeChars_error⟩
    intro bytes h
    have hlength := (decodeChars_eq_ok.1 h).length_le
    rwa [String.length_toList] at hlength
  · intro escaped bytes text hpercent hhigh hencodes
    rw [decodeProducerCertificateAssertion, String.toList_ofList, decodeChars_eq_ok]
    exact hencodes.denotes hpercent hhigh
  · rintro headers value hvalues hlength ⟨b, hmem, hb⟩
    obtain ⟨exc, hdecode, hcls⟩ := decode_of_high_byte hmem hb
    refine ⟨decodeLatin1 value, exc, ?_, hdecode, hcls⟩
    simp [retrieveTrustedProducerCertificateAssertion, producerAssertions_eq, hvalues, Nat.not_lt.2 hlength]

end BasisGateway
