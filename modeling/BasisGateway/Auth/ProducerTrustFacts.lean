/-
What producer trust can come to. With trusted-proxy mTLS the result is a
function of the certificate header's values alone, and each way through the
certificate pipeline is one case here: a trust for the one URI the
certificate carries, a refusal with its reason, or an exception of the X.509
library that no clause of the pipeline maps.
-/
import BasisGateway.Auth.OperationProducer
import BasisGateway.Audit.Events

namespace BasisGateway

/-! ## The certificate header -/

/-- The header as deployments write it. -/
def producerClientCertHeaderName : Bytes := asciiBytes "X-BASIS-Producer-Client-Cert"

/-- Two header names that differ at most in the case of their letters. -/
def SameHeaderName (a b : Bytes) : Prop := a.map lowerByte = b.map lowerByte

instance (a b : Bytes) : Decidable (SameHeaderName a b) :=
  inferInstanceAs (Decidable (a.map lowerByte = b.map lowerByte))

/-- The values of the certificate headers of a request. -/
def certificateValues (headers : RawHeaders) : List Bytes :=
  (headers.filter fun h => SameHeaderName h.1 producerClientCertHeaderName).map Prod.snd

theorem headerName_lower :
    producerClientCertHeaderName.map lowerByte = producerClientCertHeaderNameLower := by
  decide +kernel

theorem producerAssertions_eq : ∀ headers : RawHeaders,
    producerAssertions headers = certificateValues headers
  | [] => rfl
  | h :: headers => by
    have ih := producerAssertions_eq headers
    simp only [producerAssertions, certificateValues, SameHeaderName, headerName_lower] at ih ⊢
    by_cases hn : h.1.map lowerByte = producerClientCertHeaderNameLower <;>
      simp [hn, ih]

/-- What the certificate pipeline makes of the header's values. -/
def trustFromValues (x509 : X509) (subject : NormalizedSubject) (uris : Finset String) :
    List Bytes → Except PyExc OperationProducerTrust
  | [] => .error missingProducerCertificateAssertion
  | [value] =>
    if maxAssertionSizeBytes < value.length then .error oversizedProducerCertificateAssertion
    else (producerUriOf x509 (decodeLatin1 value)).map (admittedTrust subject uris)
  | values => .error (duplicateProducerCertificateAssertion values.length)

theorem resolveMtls_eq (x509 : X509) (headers : RawHeaders) (subject : NormalizedSubject)
    (uris : Finset String) : resolveMtlsOperationProducerTrust x509 headers subject uris =
      trustFromValues x509 subject uris (certificateValues headers) := by
  rw [resolveMtlsOperationProducerTrust, retrieveTrustedProducerCertificateAssertion,
    producerAssertions_eq]
  rcases certificateValues headers with - | ⟨value, - | ⟨value', values⟩⟩
  · rfl
  · simp only [trustFromValues, Bool.true_eq_false, if_false]
    split
    next => rfl
    next =>
      show (producerUriOf x509 (decodeLatin1 value) >>= fun uri => _) = _
      rcases producerUriOf x509 (decodeLatin1 value) with exc | uri <;> rfl
  · rfl

/-- Neither the order of the values nor anything of the subject but its id matters. -/
theorem trustFromValues_perm (x509 : X509) {subject₁ subject₂ : NormalizedSubject} (uris : Finset String)
    {values₁ values₂ : List Bytes} (hsubject : subject₁.subjectId = subject₂.subjectId)
    (hvalues : values₁.Perm values₂) :
    trustFromValues x509 subject₁ uris values₁ = trustFromValues x509 subject₂ uris values₂ := by
  have htrust : admittedTrust subject₁ uris = admittedTrust subject₂ uris := by
    funext uri
    simp only [admittedTrust, hsubject]
  have hlength := hvalues.length_eq
  rcases values₁ with - | ⟨value, - | ⟨value', values⟩⟩
  · rw [← hvalues.nil_eq]
    rfl
  · rw [List.singleton_perm.1 hvalues]
    simp only [trustFromValues, htrust]
  · rcases values₂ with - | ⟨value₂, - | ⟨value₂', values₂⟩⟩
    · simp at hlength
    · simp at hlength
    · simp only [trustFromValues, hlength]

/-! ## The PEM gate -/

theorem isSome_splitAtFirst {needle : Bytes} : ∀ {bytes : Bytes}, countFrom needle 0 bytes ≠ 0 →
    (splitAtFirst needle bytes).isSome = true
  | [], h => absurd rfl h
  | b :: bytes, h => by
    unfold splitAtFirst
    split
    next => rfl
    next hp =>
      simp only [countFrom, hp] at h
      simpa using isSome_splitAtFirst h

/-- The PEM gate raises one class. -/
theorem requireSinglePem_error {pem : Bytes} {exc : PyExc}
    (h : requireSinglePemCertificateBlock pem = .error exc) : exc.cls = .certificateParsingError := by
  unfold requireSinglePemCertificateBlock at h
  split at h
  next => cases h; rfl
  next hcount =>
    obtain ⟨hbegin, hend⟩ : count pem pemCertificateBeginMarker = 1 ∧
        count pem pemCertificateEndMarker = 1 := by simpa [not_or] using hcount
    have hfirst := isSome_splitAtFirst (hbegin.trans_ne (by simp))
    have hlast := isSome_splitAtFirst (hend.trans_ne (by simp))
    rcases hb : splitAtFirst pemCertificateBeginMarker pem with - | leading
    · simp [hb] at hfirst
    rcases he : splitAtFirst pemCertificateEndMarker pem with - | trailing
    · simp [he] at hlast
    rw [hb, he] at h
    split at h
    next =>
      split at h
      next => cases h; rfl
      next => cases h
    next hnone => exact absurd rfl (hnone _ _ _ _ rfl)

theorem error_of_bind_pure {α β : Type} {x : Except PyExc α} {f : α → β} {exc : PyExc}
    (h : (do return f (← x)) = .error exc) : x = .error exc := by
  rcases x with exc' | a
  · cases h; rfl
  · cases h

/-- Decoding raises one class. -/
theorem decodeChars_error {cs : List Char} {exc : PyExc} (h : decodeChars cs = .error exc) :
    exc.cls = .certificateAssertionDecodingError := by
  fun_induction decodeChars cs with
  | case1 => cases h
  | case2 high low rest l hl h' hh ih => exact ih (error_of_bind_pure h)
  | case3 => cases h; rfl
  | case4 => cases h; rfl
  | case5 => cases h; rfl
  | case6 c rest hpercent hc hascii ih => exact ih (error_of_bind_pure h)

/-! ## The certificate of a request -/

/-- The request presents this certificate: its one header value is in bounds, decodes, is a single
PEM block and parses. -/
inductive Presents (x509 : X509) (headers : RawHeaders) (certificate : Certificate) : Prop
  | intro (value pem : Bytes) (sole : certificateValues headers = [value])
      (bounded : value.length ≤ maxAssertionSizeBytes)
      (decoded : decodeProducerCertificateAssertion (decodeLatin1 value) = .ok pem)
      (single : requireSinglePemCertificateBlock pem = .ok ())
      (parsed : x509.loadPem pem = .ok certificate)

/-- The certificate of the request has exactly this one URI. -/
def CarriesUri (x509 : X509) (headers : RawHeaders) (uri : String) : Prop :=
  ∃ certificate, Presents x509 headers certificate ∧ certificate.uriSans = .ok [uri]

/-- The ways a certificate can fail to establish a producer. -/
inductive CertificateFailure
  | missing | duplicate | oversized | malformedEncoding | malformedCertificate
  | noEligibleUriSan | multipleEligibleUriSans
  deriving DecidableEq, Repr

namespace CertificateFailure

def cls : CertificateFailure → ExcClass
  | .missing => .missingProducerCertificateAssertionError
  | .duplicate => .duplicateProducerCertificateAssertionError
  | .oversized => .oversizedProducerCertificateAssertionError
  | .malformedEncoding => .certificateAssertionDecodingError
  | .malformedCertificate => .certificateParsingError
  | .noEligibleUriSan => .noEligibleUriSanError
  | .multipleEligibleUriSans => .multipleEligibleUriSansError

def reason : CertificateFailure → String
  | .missing => Reason.producerMtlsMissingAssertion
  | .duplicate => Reason.producerMtlsDuplicateAssertion
  | .oversized => Reason.producerMtlsOversizedAssertion
  | .malformedEncoding => Reason.producerMtlsMalformedEncoding
  | .malformedCertificate => Reason.producerMtlsMalformedCertificate
  | .noEligibleUriSan => Reason.producerMtlsNoEligibleUriSan
  | .multipleEligibleUriSans => Reason.producerMtlsMultipleEligibleUriSans

end CertificateFailure

/-- The certificate of the request fails in this way. -/
inductive FailsBy (x509 : X509) (headers : RawHeaders) : CertificateFailure → Prop
  | missing (h : certificateValues headers = []) : FailsBy x509 headers .missing
  | duplicate (h : 2 ≤ (certificateValues headers).length) : FailsBy x509 headers .duplicate
  | oversized (value : Bytes) (sole : certificateValues headers = [value])
      (h : maxAssertionSizeBytes < value.length) : FailsBy x509 headers .oversized
  | malformedEncoding (value : Bytes) (exc : PyExc) (sole : certificateValues headers = [value])
      (bounded : value.length ≤ maxAssertionSizeBytes)
      (h : decodeProducerCertificateAssertion (decodeLatin1 value) = .error exc) :
      FailsBy x509 headers .malformedEncoding
  | malformedCertificate (value pem : Bytes) (exc : PyExc) (sole : certificateValues headers = [value])
      (bounded : value.length ≤ maxAssertionSizeBytes)
      (decoded : decodeProducerCertificateAssertion (decodeLatin1 value) = .ok pem)
      (h : requireSinglePemCertificateBlock pem = .error exc ∨ x509.loadPem pem = .error exc) :
      FailsBy x509 headers .malformedCertificate
  | noEligibleUriSan (certificate : Certificate) (presented : Presents x509 headers certificate)
      (h : certificate.uriSans = .ok [] ∨
        ∃ exc, certificate.uriSans = .error exc ∧ exc.cls = .extensionNotFound) :
      FailsBy x509 headers .noEligibleUriSan
  | multipleEligibleUriSans (certificate : Certificate) (uris : List String)
      (presented : Presents x509 headers certificate) (h : certificate.uriSans = .ok uris)
      (hlength : 2 ≤ uris.length) : FailsBy x509 headers .multipleEligibleUriSans

/-- Reading the SAN extension of the presented certificate raises this, and not that there is no
such extension. -/
def ExtensionFault (x509 : X509) (headers : RawHeaders) (exc : PyExc) : Prop :=
  ∃ certificate, Presents x509 headers certificate ∧ certificate.uriSans = .error exc ∧
    exc.cls ≠ .extensionNotFound

theorem isInstance_extensionNotFound (exc : PyExc) :
    exc.isInstance .extensionNotFound = true ↔ exc.cls = .extensionNotFound := by
  rcases exc with ⟨cls, msg, errors⟩
  cases cls <;> simp [PyExc.isInstance, ExcClass.bases]

/-- How producer trust resolves under trusted-proxy mTLS. -/
inductive Resolution (x509 : X509) (headers : RawHeaders) (subject : NormalizedSubject)
    (uris : Finset String) (result : Except PyExc OperationProducerTrust) : Prop
  | established (uri : String) (h : CarriesUri x509 headers uri)
      (hr : result = .ok (admittedTrust subject uris uri))
  | failed (failure : CertificateFailure) (exc : PyExc) (h : FailsBy x509 headers failure)
      (hcls : exc.cls = failure.cls) (hr : result = .error exc)
  | unread (exc : PyExc) (h : ExtensionFault x509 headers exc) (hr : result = .error exc)
  | unloaded (pem : Bytes) (exc : PyExc) (h : x509.loadPem pem = .error exc)
      (hcls : ¬ (exc.isInstance .valueError ∨ exc.isInstance .typeError)) (hr : result = .error exc)

section

variable {x509 : X509} {headers : RawHeaders} {subject : NormalizedSubject} {uris : Finset String}

/-- Past the parser only the SAN extension decides. -/
theorem resolveMtls_of_presents {certificate : Certificate} (h : Presents x509 headers certificate) :
    resolveMtlsOperationProducerTrust x509 headers subject uris =
      (deriveProducerIdentity certificate).map (admittedTrust subject uris) := by
  obtain ⟨value, pem, sole, bounded, decoded, single, parsed⟩ := h
  rw [resolveMtls_eq, sole, trustFromValues, if_neg (Nat.not_lt.2 bounded), producerUriOf, decoded]
  simp only [parseProducerLeafCertificate, single, parsed, bind, Except.bind]

theorem resolution_of_presents {certificate : Certificate} (h : Presents x509 headers certificate) :
    Resolution x509 headers subject uris
      (resolveMtlsOperationProducerTrust x509 headers subject uris) := by
  rw [resolveMtls_of_presents h]
  unfold deriveProducerIdentity
  split
  next exc hs =>
    split
    next hi =>
      have hcls := (isInstance_extensionNotFound exc).1 hi
      exact .failed .noEligibleUriSan _ (.noEligibleUriSan certificate h (.inr ⟨exc, hs, hcls⟩)) rfl rfl
    next hi =>
      have hcls := mt (isInstance_extensionNotFound exc).2 hi
      exact .unread exc ⟨certificate, h, hs, hcls⟩ rfl
  next hs => exact .failed .noEligibleUriSan _ (.noEligibleUriSan certificate h (.inl hs)) rfl rfl
  next uri hs => exact .established uri ⟨certificate, h, hs⟩ rfl
  next sans hnil hone hs =>
    refine .failed .multipleEligibleUriSans _ (.multipleEligibleUriSans certificate sans h hs ?_) rfl rfl
    rcases sans with - | ⟨uri, - | ⟨uri', sans⟩⟩
    · exact absurd rfl hnil
    · exact absurd rfl (hone uri)
    · simp

/-- **The certificate pipeline**, case by case. -/
theorem resolveMtls_cases (x509 : X509) (headers : RawHeaders) (subject : NormalizedSubject)
    (uris : Finset String) : Resolution x509 headers subject uris
      (resolveMtlsOperationProducerTrust x509 headers subject uris) := by
  rcases hv : certificateValues headers with - | ⟨value, - | ⟨value', values⟩⟩
  · rw [resolveMtls_eq, hv]
    exact .failed .missing _ (.missing hv) rfl rfl
  · by_cases hl : maxAssertionSizeBytes < value.length
    · rw [resolveMtls_eq, hv, trustFromValues, if_pos hl]
      exact .failed .oversized _ (.oversized value hv hl) rfl rfl
    have hb := Nat.not_lt.1 hl
    rcases hd : decodeProducerCertificateAssertion (decodeLatin1 value) with exc | pem
    · rw [resolveMtls_eq, hv, trustFromValues, if_neg hl, producerUriOf, hd]
      exact .failed .malformedEncoding exc (.malformedEncoding value exc hv hb hd) (decodeChars_error hd) rfl
    rcases hs : requireSinglePemCertificateBlock pem with exc | u
    · rw [resolveMtls_eq, hv, trustFromValues, if_neg hl, producerUriOf, hd]
      simp only [parseProducerLeafCertificate, hs, bind, Except.bind]
      exact .failed .malformedCertificate exc (.malformedCertificate value pem exc hv hb hd (.inl hs))
        (requireSinglePem_error hs) rfl
    rcases hp : x509.loadPem pem with exc | certificate
    · rw [resolveMtls_eq, hv, trustFromValues, if_neg hl, producerUriOf, hd]
      simp only [parseProducerLeafCertificate, hs, hp, bind, Except.bind]
      by_cases hcls : exc.isInstance .valueError = true ∨ exc.isInstance .typeError = true
      · rw [if_pos hcls]
        exact .failed .malformedCertificate _ (.malformedCertificate value pem exc hv hb hd (.inr hp)) rfl rfl
      · rw [if_neg hcls]
        exact .unloaded pem exc hp hcls rfl
    exact resolution_of_presents ⟨value, pem, hv, hb, hd, hs, hp⟩
  · rw [resolveMtls_eq, hv]
    exact .failed .duplicate _ (.duplicate (by simp [hv])) rfl rfl

theorem resolve_of_mtls {config : GatewayConfig}
    (hon : config.operationProducerMtlsTrustedProxyEnabled = true) :
    resolveOperationProducerTrust x509 headers subject config =
      resolveMtlsOperationProducerTrust x509 headers subject config.operationProducerMtlsAdmittedUris := by
  rw [resolveOperationProducerTrust, if_pos hon]

theorem resolve_of_allowlist {config : GatewayConfig}
    (hoff : config.operationProducerMtlsTrustedProxyEnabled = false) :
    resolveOperationProducerTrust x509 headers subject config =
      .ok (classifyOperationProducer subject config.operationProducerSubjectIds) := by
  rw [resolveOperationProducerTrust, if_neg (by simp [hoff])]

/-- A trust is the one of the URI the certificate carries. -/
theorem resolveMtls_ok {trust : OperationProducerTrust}
    (h : resolveMtlsOperationProducerTrust x509 headers subject uris = .ok trust) :
    ∃ uri, CarriesUri x509 headers uri ∧ trust = admittedTrust subject uris uri := by
  cases resolveMtls_cases x509 headers subject uris with
  | established uri hu hr => exact ⟨uri, hu, Except.ok.inj (h.symm.trans hr)⟩
  | failed failure exc _ _ hr => rw [h] at hr; cases hr
  | unread exc _ hr => rw [h] at hr; cases hr
  | unloaded pem exc _ _ hr => rw [h] at hr; cases hr

end

/-! ## Two mechanisms -/

theorem admittedTrust_identities (subject : NormalizedSubject) (uris : Finset String) (uri : String) :
    (admittedTrust subject uris uri).operationProducerSubjectId = none ∧
      (admittedTrust subject uris uri).producerWorkloadIdentity = some uri := by
  unfold admittedTrust
  split <;> exact ⟨rfl, rfl⟩

theorem classifyOperationProducer_congr {subject₁ subject₂ : NormalizedSubject} (ids : Finset String)
    (h : subject₁.subjectId = subject₂.subjectId) :
    classifyOperationProducer subject₁ ids = classifyOperationProducer subject₂ ids := by
  simp only [classifyOperationProducer, h]

/-- What one mechanism reads of a request: with trusted-proxy mTLS the certificate headers' values,
in any order, and the admitted URIs; without it the allowlist. Both read the subject's id. -/
def AgreeFor (mtls : Bool) (headers₁ headers₂ : RawHeaders) (subject₁ subject₂ : NormalizedSubject)
    (config₁ config₂ : GatewayConfig) : Prop :=
  config₁.operationProducerMtlsTrustedProxyEnabled = mtls ∧
  config₂.operationProducerMtlsTrustedProxyEnabled = mtls ∧
  subject₁.subjectId = subject₂.subjectId ∧
  if mtls then
    (certificateValues headers₁).Perm (certificateValues headers₂) ∧
      config₁.operationProducerMtlsAdmittedUris = config₂.operationProducerMtlsAdmittedUris
  else config₁.operationProducerSubjectIds = config₂.operationProducerSubjectIds

theorem resolve_congr (x509 : X509) {mtls : Bool} {headers₁ headers₂ : RawHeaders}
    {subject₁ subject₂ : NormalizedSubject} {config₁ config₂ : GatewayConfig}
    (h : AgreeFor mtls headers₁ headers₂ subject₁ subject₂ config₁ config₂) :
    resolveOperationProducerTrust x509 headers₁ subject₁ config₁ =
      resolveOperationProducerTrust x509 headers₂ subject₂ config₂ := by
  obtain ⟨h₁, h₂, hsubject, hreads⟩ := h
  cases mtls with
  | true =>
    obtain ⟨hvalues, huris⟩ := hreads
    rw [resolve_of_mtls h₁, resolve_of_mtls h₂, resolveMtls_eq, resolveMtls_eq, huris]
    exact trustFromValues_perm x509 _ hsubject hvalues
  | false =>
    have hids : config₁.operationProducerSubjectIds = config₂.operationProducerSubjectIds := hreads
    rw [resolve_of_allowlist h₁, resolve_of_allowlist h₂, hids, classifyOperationProducer_congr _ hsubject]

/-- **The two mechanisms never mix.** Two requests that agree on what the selected mechanism reads
resolve alike, whatever the other mechanism's settings, the other headers, and the rest of the
subject. With trusted-proxy mTLS, no header value, several, or one out of bounds raise, whatever they
hold; and a trust carries the derived URI and no producer subject id. Without it nothing is raised,
and the trust carries no workload identity. -/
theorem mechanisms_never_mix (x509 : X509) :
    (∀ mtls headers₁ headers₂ subject₁ subject₂ config₁ config₂,
      AgreeFor mtls headers₁ headers₂ subject₁ subject₂ config₁ config₂ →
        resolveOperationProducerTrust x509 headers₁ subject₁ config₁ =
          resolveOperationProducerTrust x509 headers₂ subject₂ config₂) ∧
    (∀ headers subject (config : GatewayConfig), config.operationProducerMtlsTrustedProxyEnabled = true →
      let result := resolveOperationProducerTrust x509 headers subject config
      (certificateValues headers = [] → result = .error missingProducerCertificateAssertion) ∧
      (2 ≤ (certificateValues headers).length →
        result = .error (duplicateProducerCertificateAssertion (certificateValues headers).length)) ∧
      (∀ value, certificateValues headers = [value] → maxAssertionSizeBytes < value.length →
        result = .error oversizedProducerCertificateAssertion) ∧
      (∀ trust, result = .ok trust → trust.operationProducerSubjectId = none ∧
        ∃ uri, CarriesUri x509 headers uri ∧ trust.producerWorkloadIdentity = some uri)) ∧
    ∀ headers subject (config : GatewayConfig), config.operationProducerMtlsTrustedProxyEnabled = false →
      ∃ trust, resolveOperationProducerTrust x509 headers subject config = .ok trust ∧
        trust.producerWorkloadIdentity = none := by
  refine ⟨fun _ _ _ _ _ _ _ h => resolve_congr x509 h, fun headers subject config hon => ?_,
    fun headers subject config hoff => ⟨_, resolve_of_allowlist hoff, ?_⟩⟩
  · intro result
    have hresult : result = trustFromValues x509 subject config.operationProducerMtlsAdmittedUris
        (certificateValues headers) := (resolve_of_mtls hon).trans (resolveMtls_eq ..)
    refine ⟨fun h => ?_, fun h => ?_, fun value h hl => ?_, fun trust h => ?_⟩
    · rw [hresult, h]
      rfl
    · rcases hv : certificateValues headers with - | ⟨value, - | ⟨value', values⟩⟩
      · simp [hv] at h
      · simp [hv] at h
      · rw [hresult, hv]
        rfl
    · rw [hresult, h, trustFromValues, if_pos hl]
    · obtain ⟨uri, hu, rfl⟩ := resolveMtls_ok ((resolve_of_mtls hon).symm.trans h)
      obtain ⟨hid, hworkload⟩ := admittedTrust_identities subject config.operationProducerMtlsAdmittedUris uri
      exact ⟨hid, uri, hu, hworkload⟩
  · unfold classifyOperationProducer
    repeat' split
    all_goals rfl

end BasisGateway
