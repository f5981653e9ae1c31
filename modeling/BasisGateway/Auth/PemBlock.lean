/-
The PEM gate. What it lets through is one certificate block between
whitespace, except that it counts markers that do not overlap: a second BEGIN
that starts in the closing dashes of the first is not counted, and an END that
starts there is taken for one.
-/
import BasisGateway.Auth.ProducerTrustFacts
import BasisGateway.Lib.Occurrences

namespace BasisGateway

open Occurrences

/-! ## Counting and splitting -/

section

variable {needle : Bytes}

theorem countFrom_eq_zero_iff (hne : needle ≠ []) (skip : Nat) (hay : Bytes) :
    countFrom needle skip hay = 0 ↔ ∀ i, skip ≤ i → ¬ OccursAt needle hay i := by
  fun_induction countFrom needle skip hay with
  | case1 skip =>
    simp only [true_iff]
    intro i _
    exact not_occursAt_nil hne
  | case2 skip b hay ih =>
    rw [ih]
    constructor
    · intro h i hi
      obtain ⟨i, rfl⟩ : ∃ i', i = i' + 1 := ⟨i - 1, by omega⟩
      rw [occursAt_succ]
      exact h i (by omega)
    · intro h i hi hoccurs
      exact h (i + 1) (by omega) (occursAt_succ.2 hoccurs)
  | case3 b hay hprefix ih =>
    simp only [Nat.add_eq_zero_iff, one_ne_zero, and_false, false_iff]
    intro h
    exact h 0 (Nat.le_refl 0) (occursAt_zero.2 (List.isPrefixOf_iff_prefix.1 hprefix))
  | case4 b hay hprefix ih =>
    rw [ih]
    constructor
    · intro h i _
      cases i with
      | zero =>
        rw [occursAt_zero, ← List.isPrefixOf_iff_prefix]
        exact hprefix
      | succ i =>
        rw [occursAt_succ]
        exact h i (Nat.zero_le i)
    · intro h i _ hoccurs
      exact h (i + 1) (Nat.zero_le _) (occursAt_succ.2 hoccurs)

/-- One occurrence that does not overlap another: every occurrence starts in the first. -/
theorem countFrom_eq_one_iff (hne : needle ≠ []) (skip : Nat) (hay : Bytes) :
    countFrom needle skip hay = 1 ↔ ∃ i, skip ≤ i ∧ OccursAt needle hay i ∧
      ∀ j, skip ≤ j → OccursAt needle hay j → i ≤ j ∧ j < i + needle.length := by
  fun_induction countFrom needle skip hay with
  | case1 skip => simp [not_occursAt_nil hne]
  | case2 skip b hay ih =>
    rw [ih]
    constructor
    · intro h
      obtain ⟨i, hi, hoccurs, hall⟩ := h
      refine ⟨i + 1, by omega, occursAt_succ.2 hoccurs, ?_⟩
      intro j hj hjoccurs
      obtain ⟨j, rfl⟩ : ∃ j', j = j' + 1 := ⟨j - 1, by omega⟩
      have hbounds := hall j (by omega) (occursAt_succ.1 hjoccurs)
      omega
    · intro h
      obtain ⟨i, hi, hoccurs, hall⟩ := h
      obtain ⟨i, rfl⟩ : ∃ i', i = i' + 1 := ⟨i - 1, by omega⟩
      refine ⟨i, by omega, occursAt_succ.1 hoccurs, ?_⟩
      intro j hj hjoccurs
      have hbounds := hall (j + 1) (by omega) (occursAt_succ.2 hjoccurs)
      omega
  | case3 b hay hprefix ih =>
    have hfirst : OccursAt needle (b :: hay) 0 := occursAt_zero.2 (List.isPrefixOf_iff_prefix.1 hprefix)
    have hpos : 0 < needle.length := List.length_pos_iff.2 hne
    rw [Nat.add_eq_right, countFrom_eq_zero_iff hne]
    constructor
    · intro h
      refine ⟨0, Nat.le_refl 0, hfirst, ?_⟩
      intro j _ hj
      refine ⟨Nat.zero_le j, ?_⟩
      by_contra hge
      obtain ⟨j, rfl⟩ : ∃ j', j = j' + 1 := ⟨j - 1, by omega⟩
      exact h j (by omega) (occursAt_succ.1 hj)
    · intro h j hj hjoccurs
      obtain ⟨i, -, -, hall⟩ := h
      have hzero := hall 0 (Nat.le_refl 0) hfirst
      have hbounds := hall (j + 1) (Nat.zero_le _) (occursAt_succ.2 hjoccurs)
      omega
  | case4 b hay hprefix ih =>
    have hnone : ¬ OccursAt needle (b :: hay) 0 := by
      rw [occursAt_zero, ← List.isPrefixOf_iff_prefix]
      exact hprefix
    rw [ih]
    constructor
    · intro h
      obtain ⟨i, -, hoccurs, hall⟩ := h
      refine ⟨i + 1, Nat.zero_le _, occursAt_succ.2 hoccurs, ?_⟩
      intro j _ hj
      cases j with
      | zero => exact absurd hj hnone
      | succ j =>
        have hbounds := hall j (Nat.zero_le j) (occursAt_succ.1 hj)
        omega
    · intro h
      obtain ⟨i, -, hoccurs, hall⟩ := h
      cases i with
      | zero => exact absurd hoccurs hnone
      | succ i =>
        refine ⟨i, Nat.zero_le i, occursAt_succ.1 hoccurs, ?_⟩
        intro j _ hj
        have hbounds := hall (j + 1) (Nat.zero_le _) (occursAt_succ.2 hj)
        omega

theorem count_eq_one_iff (hne : needle ≠ []) {hay : Bytes} : count hay needle = 1 ↔
    ∃ i, FirstAt needle hay i ∧ ∀ j, OccursAt needle hay j → j < i + needle.length := by
  rw [count, countFrom_eq_one_iff hne]
  constructor
  · intro h
    obtain ⟨i, -, hoccurs, hall⟩ := h
    exact ⟨i, ⟨hoccurs, fun j hj => (hall j (Nat.zero_le j) hj).1⟩, fun j hj => (hall j (Nat.zero_le j) hj).2⟩
  · intro h
    obtain ⟨i, hfirst, hall⟩ := h
    exact ⟨i, Nat.zero_le i, hfirst.1, fun j _ hj => ⟨hfirst.2 j hj, hall j hj⟩⟩

theorem splitAtFirst_of_firstAt (hne : needle ≠ []) : ∀ {hay : Bytes} {i : Nat}, FirstAt needle hay i →
    splitAtFirst needle hay = some (hay.take i, hay.drop (i + needle.length))
  | [], i, h => absurd h.1 (not_occursAt_nil hne)
  | b :: hay, i, h => by
    rw [splitAtFirst]
    split
    next hprefix =>
      have hzero : i ≤ 0 := h.2 0 (occursAt_zero.2 (List.isPrefixOf_iff_prefix.1 hprefix))
      obtain rfl : i = 0 := by omega
      simp
    next hprefix =>
      cases i with
      | zero => exact absurd (List.isPrefixOf_iff_prefix.2 (occursAt_zero.1 h.1)) hprefix
      | succ i =>
        have hfirst : FirstAt needle hay i := by
          refine ⟨occursAt_succ.1 h.1, ?_⟩
          intro j hj
          have hle := h.2 (j + 1) (occursAt_succ.2 hj)
          omega
        rw [splitAtFirst_of_firstAt hne hfirst]
        simp [Nat.add_right_comm]

end

/-! ## The gate -/

theorem length_beginMarker : pemCertificateBeginMarker.length = 27 := by decide +kernel

theorem length_endMarker : pemCertificateEndMarker.length = 25 := by decide +kernel

theorem beginMarker_ne_nil : pemCertificateBeginMarker ≠ [] := by decide +kernel

theorem endMarker_ne_nil : pemCertificateEndMarker ≠ [] := by decide +kernel

/-- Only spaces, tabs, carriage returns and line feeds. -/
def PemWhitespace (bytes : Bytes) : Prop := ∀ b ∈ bytes, b = 32 ∨ b = 9 ∨ b = 13 ∨ b = 10

theorem onlyPemWhitespace_iff {bytes : Bytes} : onlyPemWhitespace bytes = true ↔ PemWhitespace bytes := by
  simp [onlyPemWhitespace, PemWhitespace, or_assoc]

theorem PemWhitespace.not_mem_dash {bytes : Bytes} (h : PemWhitespace bytes) : (45 : UInt8) ∉ bytes := by
  intro hmem
  have hcases := h 45 hmem
  revert hcases
  decide

/-- The checks of the gate, by the offsets of the first markers. -/
theorem requireSinglePem_eq_ok_iff {pem : Bytes} : requireSinglePemCertificateBlock pem = .ok () ↔
    ∃ i e, FirstAt pemCertificateBeginMarker pem i ∧ FirstAt pemCertificateEndMarker pem e ∧
      (∀ j, OccursAt pemCertificateBeginMarker pem j → j < i + 27) ∧
      (∀ j, OccursAt pemCertificateEndMarker pem j → j < e + 25) ∧
      PemWhitespace (pem.take i) ∧ PemWhitespace (pem.drop (e + 25)) := by
  have hbegin := @count_eq_one_iff _ beginMarker_ne_nil pem
  have hend := @count_eq_one_iff _ endMarker_ne_nil pem
  rw [length_beginMarker] at hbegin
  rw [length_endMarker] at hend
  constructor
  · intro h
    unfold requireSinglePemCertificateBlock at h
    split at h
    next => cases h
    next hcount =>
      rw [not_or, not_not, not_not, hbegin, hend] at hcount
      obtain ⟨⟨i, hi, hbegins⟩, e, he, hends⟩ := hcount
      simp only [splitAtFirst_of_firstAt beginMarker_ne_nil hi, splitAtFirst_of_firstAt endMarker_ne_nil he,
        length_endMarker] at h
      split at h
      next => cases h
      next hblank =>
        rw [not_or, Bool.not_eq_false, Bool.not_eq_false, onlyPemWhitespace_iff, onlyPemWhitespace_iff] at hblank
        exact ⟨i, e, hi, he, hbegins, hends, hblank.1, hblank.2⟩
  · intro h
    obtain ⟨i, e, hi, he, hbegins, hends, hleading, htrailing⟩ := h
    have hcount : count pem pemCertificateBeginMarker = 1 ∧ count pem pemCertificateEndMarker = 1 :=
      ⟨hbegin.2 ⟨i, hi, hbegins⟩, hend.2 ⟨e, he, hends⟩⟩
    simp [requireSinglePemCertificateBlock, hcount.1, hcount.2, splitAtFirst_of_firstAt beginMarker_ne_nil hi,
      splitAtFirst_of_firstAt endMarker_ne_nil he, length_endMarker, onlyPemWhitespace_iff.2 hleading,
      onlyPemWhitespace_iff.2 htrailing]

/-- `pem` is `block` between whitespace, `block` begins with the one marker and ends with the other, and
further occurrences of the BEGIN marker start in its first. -/
structure BetweenMarkers (pem leading block trailing : Bytes) : Prop where
  parts : pem = leading ++ block ++ trailing
  leadingBlank : PemWhitespace leading
  trailingBlank : PemWhitespace trailing
  opens : pemCertificateBeginMarker <+: block
  closes : pemCertificateEndMarker <:+ block
  begins : ∀ i, OccursAt pemCertificateBeginMarker pem i → i < leading.length + 27
  ends : AtMostOnce pemCertificateEndMarker pem

namespace BetweenMarkers

variable {pem leading block trailing : Bytes}

theorem firstAt_begin (h : BetweenMarkers pem leading block trailing) :
    FirstAt pemCertificateBeginMarker pem leading.length := by
  constructor
  · rw [h.parts, List.append_assoc, occursAt_length_append]
    exact h.opens.trans (List.prefix_append _ _)
  · intro j hj
    by_contra hlt
    have hmem : (45 : UInt8) ∈ pem.take leading.length :=
      hj.mem_take (k := 0) (by decide +kernel) (by omega)
    rw [h.parts, List.append_assoc, List.take_left] at hmem
    exact h.leadingBlank.not_mem_dash hmem

theorem occursAt_end (h : BetweenMarkers pem leading block trailing) :
    OccursAt pemCertificateEndMarker pem (leading.length + block.length - 25) := by
  obtain ⟨before, hblock⟩ := h.closes
  have hlength : leading.length + block.length - 25 = (leading ++ before).length := by
    have hblockLength := congrArg List.length hblock
    rw [List.length_append, length_endMarker] at hblockLength
    rw [List.length_append]
    omega
  have hpem : pem = leading ++ before ++ (pemCertificateEndMarker ++ trailing) := by
    rw [h.parts, ← hblock]
    simp
  rw [hlength, hpem, occursAt_length_append]
  exact List.prefix_append _ _

theorem length_le (h : BetweenMarkers pem leading block trailing) : 27 ≤ block.length := by
  have hle := h.opens.length_le
  rwa [length_beginMarker] at hle

end BetweenMarkers

/-- What the gate lets through. -/
theorem requireSinglePem_eq_ok_iff_between {pem : Bytes} : requireSinglePemCertificateBlock pem = .ok () ↔
    ∃ leading block trailing, BetweenMarkers pem leading block trailing := by
  rw [requireSinglePem_eq_ok_iff]
  constructor
  · intro h
    obtain ⟨i, e, hi, he, hbegins, hends, hleading, htrailing⟩ := h
    have hie : i ≤ e := by
      by_contra hlt
      exact hleading.not_mem_dash (he.1.mem_take (k := 0) (by decide +kernel) (by omega))
    have hclosed : i + 27 ≤ e + 25 := by
      by_contra hlt
      exact htrailing.not_mem_dash (hi.1.mem_drop (k := 26) (by decide +kernel) (by omega))
    have hlength := hi.1.length_le beginMarker_ne_nil
    rw [length_beginMarker] at hlength
    have hblock : (pem.drop i).take (e + 25 - i) = (pem.drop i).take (e - i) ++ pemCertificateEndMarker := by
      have hsplit : e + 25 - i = (e - i) + 25 := by omega
      have hend := List.prefix_iff_eq_take.1 he.1
      rw [length_endMarker] at hend
      rw [hsplit, List.take_add, List.drop_drop, Nat.add_sub_cancel' hie, ← hend]
    refine ⟨pem.take i, (pem.drop i).take (e + 25 - i), pem.drop (e + 25), ?_⟩
    exact {
      parts := by
        have hsplit : e + 25 = i + (e + 25 - i) := by omega
        rw [← List.take_add, ← hsplit, List.take_append_drop]
      leadingBlank := hleading
      trailingBlank := htrailing
      opens := List.prefix_take_iff.2 ⟨hi.1, by rw [length_beginMarker]; omega⟩
      closes := by
        rw [hblock]
        exact List.suffix_append _ _
      begins := by
        intro j hj
        have hlt := hbegins j hj
        rw [List.length_take]
        omega
      ends := by
        have hat : ∀ j, OccursAt pemCertificateEndMarker pem j → j = e := by
          intro j hj
          have hle := he.2 j hj
          by_contra hne
          exact htrailing.not_mem_dash (hj.mem_drop (k := 24) (by decide +kernel) (by omega))
        intro j j' hj hj'
        rw [hat j hj, hat j' hj'] }
  · intro h
    obtain ⟨leading, block, trailing, h⟩ := h
    have hlength := h.length_le
    have hend : FirstAt pemCertificateEndMarker pem (leading.length + block.length - 25) :=
      ⟨h.occursAt_end, fun j hj => (h.ends _ _ h.occursAt_end hj).le⟩
    refine ⟨leading.length, leading.length + block.length - 25, h.firstAt_begin, hend, h.begins, ?_, ?_, ?_⟩
    · intro j hj
      have hat := h.ends _ _ hj h.occursAt_end
      omega
    · rw [h.parts, List.append_assoc, List.take_left]
      exact h.leadingBlank
    · have hsum : leading.length + block.length - 25 + 25 = (leading ++ block).length := by
        rw [List.length_append]
        omega
      rw [hsum, h.parts, List.drop_left]
      exact h.trailingBlank

/-- One certificate block between whitespace, no marker a second time at any offset. -/
def SinglePemBlock (pem : Bytes) : Prop :=
  ∃ before body after, pem = before ++ pemCertificateBeginMarker ++ body ++ pemCertificateEndMarker ++ after ∧
    PemWhitespace before ∧ PemWhitespace after ∧
    AtMostOnce pemCertificateBeginMarker pem ∧ AtMostOnce pemCertificateEndMarker pem

/-- A block in which the END marker starts inside the BEGIN marker, or a second BEGIN marker starts inside
the first. -/
def OverlappingMarkers (pem : Bytes) : Prop :=
  ∃ leading block trailing, BetweenMarkers pem leading block trailing ∧
    (block.length < 27 + 25 ∨ ∃ i, OccursAt pemCertificateBeginMarker pem i ∧ i ≠ leading.length)

theorem BetweenMarkers.single {pem leading block trailing : Bytes} (h : BetweenMarkers pem leading block trailing)
    (hlength : 27 + 25 ≤ block.length)
    (honly : ∀ i, OccursAt pemCertificateBeginMarker pem i → i = leading.length) : SinglePemBlock pem := by
  obtain ⟨opened, hopened⟩ := h.opens
  have hclosed : pemCertificateEndMarker <:+ opened := by
    refine List.suffix_of_suffix_length_le h.closes ⟨_, hopened⟩ ?_
    have hsum := congrArg List.length hopened
    rw [List.length_append, length_beginMarker] at hsum
    rw [length_endMarker]
    omega
  obtain ⟨body, hbody⟩ := hclosed
  refine ⟨leading, body, trailing, ?_, h.leadingBlank, h.trailingBlank, ?_, h.ends⟩
  · rw [h.parts, ← hopened, ← hbody]
    simp
  · intro i j hi hj
    rw [honly i hi, honly j hj]

theorem SinglePemBlock.between {pem : Bytes} (h : SinglePemBlock pem) :
    ∃ leading block trailing, BetweenMarkers pem leading block trailing ∧ 27 + 25 ≤ block.length ∧
      ∀ i, OccursAt pemCertificateBeginMarker pem i → i = leading.length := by
  obtain ⟨before, body, after, hparts, hbefore, hafter, hbegin, hend⟩ := h
  have hat : OccursAt pemCertificateBeginMarker pem before.length := by
    have hpem : pem = before ++ (pemCertificateBeginMarker ++ (body ++ pemCertificateEndMarker ++ after)) := by
      rw [hparts]
      simp
    rw [hpem, occursAt_length_append]
    exact List.prefix_append _ _
  have honly : ∀ i, OccursAt pemCertificateBeginMarker pem i → i = before.length :=
    fun i hi => hbegin i before.length hi hat
  refine ⟨before, pemCertificateBeginMarker ++ body ++ pemCertificateEndMarker, after, ?_, ?_, honly⟩
  · exact {
      parts := by
        rw [hparts]
        simp
      leadingBlank := hbefore
      trailingBlank := hafter
      opens := by
        rw [List.append_assoc]
        exact List.prefix_append _ _
      closes := List.suffix_append _ _
      begins := by
        intro i hi
        have hi' := honly i hi
        omega
      ends := hend }
  · rw [List.length_append, List.length_append, length_beginMarker, length_endMarker]
    omega

/-- The first BEGIN marker and where the whitespace after the block begins say what the parts are. -/
theorem BetweenMarkers.unique {pem leading block trailing leading' block' trailing' : Bytes}
    (h : BetweenMarkers pem leading block trailing) (h' : BetweenMarkers pem leading' block' trailing') :
    leading.length = leading'.length ∧ block.length = block'.length := by
  have hleading := h.firstAt_begin.unique h'.firstAt_begin
  have hends := h.ends _ _ h.occursAt_end h'.occursAt_end
  have hlength := h.length_le
  have hlength' := h'.length_le
  constructor <;> omega

/-- The gate lets through the one-block files and those whose markers overlap, and no file is both. -/
theorem requireSinglePem_eq_ok_iff_or {pem : Bytes} : requireSinglePemCertificateBlock pem = .ok () ↔
    SinglePemBlock pem ∨ OverlappingMarkers pem := by
  rw [requireSinglePem_eq_ok_iff_between]
  constructor
  · intro h
    obtain ⟨leading, block, trailing, h⟩ := h
    by_cases hoverlap : OverlappingMarkers pem
    · exact .inr hoverlap
    · refine .inl (h.single ?_ ?_)
      · by_contra hlt
        exact hoverlap ⟨leading, block, trailing, h, .inl (by omega)⟩
      · intro i hi
        by_contra hne
        exact hoverlap ⟨leading, block, trailing, h, .inr ⟨i, hi, hne⟩⟩
  · intro h
    cases h with
    | inl h =>
      obtain ⟨leading, block, trailing, h, -⟩ := h.between
      exact ⟨leading, block, trailing, h⟩
    | inr h =>
      obtain ⟨leading, block, trailing, h, -⟩ := h
      exact ⟨leading, block, trailing, h⟩

theorem SinglePemBlock.not_overlapping {pem : Bytes} (h : SinglePemBlock pem) : ¬ OverlappingMarkers pem := by
  intro hoverlap
  obtain ⟨leading, block, trailing, hbetween, hlength, honly⟩ := h.between
  obtain ⟨leading', block', trailing', hbetween', hcase⟩ := hoverlap
  have hsame := hbetween.unique hbetween'
  cases hcase with
  | inl hshort => omega
  | inr hsecond =>
    obtain ⟨i, hi, hne⟩ := hsecond
    have hi' := honly i hi
    omega

/-! ## What reaches the X.509 parser -/

/-- The gate accepts one-block files only and raises `CertificateParsingError` on others, which the X.509
parser then never sees. -/
structure SinglePemGate (pem : Bytes) : Prop where
  accepts : requireSinglePemCertificateBlock pem = .ok () ↔ SinglePemBlock pem
  rejects : ∀ exc, requireSinglePemCertificateBlock pem = .error exc → exc.cls = .certificateParsingError
  unseen : ¬ SinglePemBlock pem → ∃ exc, exc.cls = .certificateParsingError ∧
    ∀ x509, parseProducerLeafCertificate x509 pem = .error exc

theorem parseProducerLeaf_of_error {pem : Bytes} {exc : PyExc}
    (h : requireSinglePemCertificateBlock pem = .error exc) (x509 : X509) :
    parseProducerLeafCertificate x509 pem = .error exc := by
  simp only [parseProducerLeafCertificate, h, bind, Except.bind]

/-- The gate keeps its promise on `pem` if and only if no two markers of `pem` overlap. -/
theorem single_pem_gate_iff (pem : Bytes) : SinglePemGate pem ↔ ¬ OverlappingMarkers pem := by
  constructor
  · intro h hoverlap
    have hok := requireSinglePem_eq_ok_iff_or.2 (.inr hoverlap)
    exact (h.accepts.1 hok).not_overlapping hoverlap
  · intro h
    have haccepts : requireSinglePemCertificateBlock pem = .ok () ↔ SinglePemBlock pem := by
      rw [requireSinglePem_eq_ok_iff_or]
      constructor
      · intro hor
        exact hor.resolve_right h
      · intro hsingle
        exact .inl hsingle
    refine ⟨haccepts, fun exc => requireSinglePem_error, ?_⟩
    intro hnot
    cases hgate : requireSinglePemCertificateBlock pem with
    | ok u => exact absurd (haccepts.1 hgate) hnot
    | error exc => exact ⟨exc, requireSinglePem_error hgate, parseProducerLeaf_of_error hgate⟩

/-- Two markers that share their dashes pass for a certificate block. -/
theorem shared_dashes_pass : ¬ SinglePemGate (asciiBytes "-----BEGIN CERTIFICATE-----END CERTIFICATE-----") := by
  intro h
  have hpass : requireSinglePemCertificateBlock
      (asciiBytes "-----BEGIN CERTIFICATE-----END CERTIFICATE-----") = .ok () := by decide +kernel
  obtain ⟨before, body, after, hparts, -⟩ := h.accepts.1 hpass
  have hlength := congrArg List.length hparts
  have hshort : (asciiBytes "-----BEGIN CERTIFICATE-----END CERTIFICATE-----").length = 47 := by decide +kernel
  simp only [List.length_append, length_beginMarker, length_endMarker] at hlength
  omega

end BasisGateway
