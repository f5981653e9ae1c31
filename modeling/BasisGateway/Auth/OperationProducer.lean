/-
Producer trust: the two mechanisms that classify an authenticated caller as
an operation producer, and the function that selects one of them
(`auth/operation_producer.py`, `auth/operation_producer_mtls.py`).

The allowlist reads the subject's id and nothing else. The certificate
pipeline (`auth/producer_mtls_trusted_proxy.py`, `auth/producer_mtls.py`)
takes the one certificate header of the request through percent decoding,
the PEM gate, the X.509 parser and the exactly-one-URI rule. The parser is a
third party's and is a parameter.
-/
import BasisGateway.Api.Schemas
import BasisGateway.Auth.Subject

namespace BasisGateway

inductive OperationProducerTrustStatus
  | trusted | untrusted
  deriving DecidableEq, Repr

inductive OperationProducerTrustSource
  | configuredSubjectIdAllowlist | notConfigured | subjectIdNotAllowed
  | mtlsAdmittedUriSan | mtlsUriSanNotAdmitted
  deriving DecidableEq, Repr

def OperationProducerTrustStatus.value : OperationProducerTrustStatus → String
  | .trusted => "trusted"
  | .untrusted => "untrusted"

def OperationProducerTrustSource.value : OperationProducerTrustSource → String
  | .configuredSubjectIdAllowlist => "configured_subject_id_allowlist"
  | .notConfigured => "not_configured"
  | .subjectIdNotAllowed => "subject_id_not_allowed"
  | .mtlsAdmittedUriSan => "mtls_admitted_uri_san"
  | .mtlsUriSanNotAdmitted => "mtls_uri_san_not_admitted"

/-- `OperationProducerTrust`. -/
structure OperationProducerTrust where
  status : OperationProducerTrustStatus
  source : OperationProducerTrustSource
  authorizationSubjectId : String
  operationProducerSubjectId : Option String
  producerWorkloadIdentity : Option String := none
  deriving DecidableEq, Repr

/-- `classify_operation_producer`. -/
def classifyOperationProducer (subject : NormalizedSubject) (trustedSubjectIds : Finset String) :
    OperationProducerTrust :=
  if trustedSubjectIds = ∅ then
    { status := .untrusted, source := .notConfigured, authorizationSubjectId := subject.subjectId,
      operationProducerSubjectId := none }
  else if subject.subjectId ∈ trustedSubjectIds then
    { status := .trusted, source := .configuredSubjectIdAllowlist,
      authorizationSubjectId := subject.subjectId, operationProducerSubjectId := some subject.subjectId }
  else
    { status := .untrusted, source := .subjectIdNotAllowed, authorizationSubjectId := subject.subjectId,
      operationProducerSubjectId := none }

/-! ## The certificate header -/

/-- `request.headers.raw`: every occurrence, in order. -/
abbrev RawHeaders := List (Bytes × Bytes)

/-- An ASCII string as bytes. -/
def asciiBytes (s : String) : Bytes := s.toUTF8.data.toList

/-- One byte of `bytes.lower()`. -/
def lowerByte (b : UInt8) : UInt8 := if 65 ≤ b ∧ b ≤ 90 then b + 32 else b

/-- `_HEADER_NAME_LOWER`. -/
def producerClientCertHeaderNameLower : Bytes := asciiBytes "x-basis-producer-client-cert"

def maxAssertionSizeBytes : Nat := 16 * 1024

/-- The values of the header, whatever the letter case of its name. -/
def producerAssertions (headers : RawHeaders) : List Bytes :=
  headers.filterMap fun h =>
    if h.1.map lowerByte = producerClientCertHeaderNameLower then some h.2 else none

/-- `raw_value.decode("latin-1")`. -/
def decodeLatin1 (raw : Bytes) : String := String.ofList (raw.map fun b => Char.ofNat b.toNat)

def duplicateProducerCertificateAssertion (occurrences : Nat) : PyExc :=
  { cls := .duplicateProducerCertificateAssertionError
    msg := "more than one occurrence of the 'X-BASIS-Producer-Client-Cert' header was present on the " ++
      "request (" ++ toString occurrences ++ " occurrences); this is treated as a malformed assertion " ++
      "and rejected" }

def oversizedProducerCertificateAssertion : PyExc :=
  { cls := .oversizedProducerCertificateAssertionError
    msg := "the 'X-BASIS-Producer-Client-Cert' header value exceeds the maximum accepted size of " ++
      "16384 bytes" }

/-- `retrieve_trusted_producer_certificate_assertion`. -/
def retrieveTrustedProducerCertificateAssertion (headers : RawHeaders) (trustedProxyEnabled : Bool) :
    Except PyExc (Option String) :=
  if trustedProxyEnabled = false then .ok none
  else match producerAssertions headers with
    | [] => .ok none
    | [rawValue] =>
      if maxAssertionSizeBytes < rawValue.length then .error oversizedProducerCertificateAssertion
      else .ok (some (decodeLatin1 rawValue))
    | occurrences => .error (duplicateProducerCertificateAssertion occurrences.length)

/-! ## Decoding and parsing -/

/-- The value of a hexadecimal digit, either case. -/
def hexDigit? (c : Char) : Option Nat :=
  if '0' ≤ c ∧ c ≤ '9' then some (c.toNat - '0'.toNat)
  else if 'a' ≤ c ∧ c ≤ 'f' then some (c.toNat - 'a'.toNat + 10)
  else if 'A' ≤ c ∧ c ≤ 'F' then some (c.toNat - 'A'.toNat + 10)
  else none

def certificateAssertionDecodingError (msg : String) : PyExc :=
  { cls := .certificateAssertionDecodingError, msg }

def malformedPercentEncoding : PyExc :=
  certificateAssertionDecodingError "producer certificate assertion contains malformed percent-encoding"

/-- The loop of `decode_producer_certificate_assertion`, over the characters left. -/
def decodeChars : List Char → Except PyExc Bytes
  | [] => .ok []
  | '%' :: high :: low :: rest =>
    match hexDigit? high, hexDigit? low with
    | some h, some l => do return UInt8.ofNat (16 * h + l) :: (← decodeChars rest)
    | _, _ => .error malformedPercentEncoding
  | '%' :: _ => .error malformedPercentEncoding
  | c :: rest =>
    if 0x7f < c.toNat then
      .error (certificateAssertionDecodingError
        "producer certificate assertion contains a non-ASCII character")
    else do return UInt8.ofNat c.toNat :: (← decodeChars rest)

/-- `decode_producer_certificate_assertion`. -/
def decodeProducerCertificateAssertion (assertion : String) : Except PyExc Bytes :=
  decodeChars assertion.toList

def pemCertificateBeginMarker : Bytes := asciiBytes "-----BEGIN CERTIFICATE-----"
def pemCertificateEndMarker : Bytes := asciiBytes "-----END CERTIFICATE-----"

/-- `bytes.count`: occurrences that do not overlap, the first `skip` bytes being part of one. -/
def countFrom (needle : Bytes) : Nat → Bytes → Nat
  | _, [] => 0
  | skip + 1, _ :: bs => countFrom needle skip bs
  | 0, b :: bs =>
    if needle.isPrefixOf (b :: bs) then countFrom needle (needle.length - 1) bs + 1
    else countFrom needle 0 bs

def count (bytes needle : Bytes) : Nat := countFrom needle 0 bytes

/-- What stands before the first occurrence, and what stands after it. -/
def splitAtFirst (needle : Bytes) : Bytes → Option (Bytes × Bytes)
  | [] => if needle.isEmpty then some ([], []) else none
  | b :: bs =>
    if needle.isPrefixOf (b :: bs) then some ([], (b :: bs).drop needle.length)
    else (splitAtFirst needle bs).map fun parts => (b :: parts.1, parts.2)

/-- `not bytes.strip(_PEM_SURROUNDING_WHITESPACE)`. -/
def onlyPemWhitespace (bytes : Bytes) : Bool := bytes.all fun b => b = 32 || b = 9 || b = 13 || b = 10

def certificateParsingError (msg : String) : PyExc := { cls := .certificateParsingError, msg }

/-- `_require_single_pem_certificate_block`. -/
def requireSinglePemCertificateBlock (pemBytes : Bytes) : Except PyExc Unit :=
  if count pemBytes pemCertificateBeginMarker ≠ 1 ∨ count pemBytes pemCertificateEndMarker ≠ 1 then
    .error (certificateParsingError
      "producer certificate assertion must contain exactly one PEM CERTIFICATE block")
  else match splitAtFirst pemCertificateBeginMarker pemBytes,
      splitAtFirst pemCertificateEndMarker pemBytes with
    | some (leading, _), some (_, trailing) =>
      if onlyPemWhitespace leading = false ∨ onlyPemWhitespace trailing = false then
        .error (certificateParsingError ("producer certificate assertion must not contain data before or " ++
          "after the single PEM CERTIFICATE block"))
      else .ok ()
    | _, _ => .error { cls := .valueError, msg := "subsection not found" }

/-- A certificate by what the gateway reads of it: the URI entries of its SAN extension, or what
parsing the extensions raises. The library parses them when they are first read. -/
structure Certificate where
  uriSans : Except PyExc (List String)

/-- `load_pem_x509_certificate`. -/
structure X509 where
  loadPem : Bytes → Except PyExc Certificate

/-- `parse_producer_leaf_certificate`. -/
def parseProducerLeafCertificate (x509 : X509) (pemBytes : Bytes) : Except PyExc Certificate := do
  requireSinglePemCertificateBlock pemBytes
  match x509.loadPem pemBytes with
  | .ok certificate => .ok certificate
  | .error exc =>
    if exc.isInstance .valueError ∨ exc.isInstance .typeError then
      .error (certificateParsingError
        "producer certificate assertion could not be parsed as a valid X.509 leaf certificate")
    else .error exc

def noEligibleUriSan (msg : String) : PyExc := { cls := .noEligibleUriSanError, msg }

/-- `derive_producer_identity`. -/
def deriveProducerIdentity (certificate : Certificate) : Except PyExc String :=
  match certificate.uriSans with
  | .error exc =>
    if exc.isInstance .extensionNotFound then
      .error (noEligibleUriSan "producer certificate has no Subject Alternative Name extension")
    else .error exc
  | .ok [] => .error (noEligibleUriSan "producer certificate has zero eligible URI SAN entries")
  | .ok [uri] => .ok uri
  | .ok _ => .error { cls := .multipleEligibleUriSansError
                      msg := "producer certificate has more than one eligible URI SAN entry" }

/-! ## Resolution -/

def missingProducerCertificateAssertion : PyExc :=
  { cls := .missingProducerCertificateAssertionError
    msg := "a trusted-proxy producer certificate assertion is required but was not present on this request" }

/-- `admit_producer`, and the trust it establishes for `subject`. -/
def admittedTrust (subject : NormalizedSubject) (admittedProducerUris : Finset String)
    (producerUri : String) : OperationProducerTrust :=
  if producerUri ∈ admittedProducerUris then
    { status := .trusted, source := .mtlsAdmittedUriSan, authorizationSubjectId := subject.subjectId,
      operationProducerSubjectId := none, producerWorkloadIdentity := some producerUri }
  else
    { status := .untrusted, source := .mtlsUriSanNotAdmitted, authorizationSubjectId := subject.subjectId,
      operationProducerSubjectId := none, producerWorkloadIdentity := some producerUri }

/-- The producer URI an assertion carries. -/
def producerUriOf (x509 : X509) (assertion : String) : Except PyExc String := do
  let pemBytes ← decodeProducerCertificateAssertion assertion
  let certificate ← parseProducerLeafCertificate x509 pemBytes
  deriveProducerIdentity certificate

/-- `resolve_mtls_operation_producer_trust`. -/
def resolveMtlsOperationProducerTrust (x509 : X509) (headers : RawHeaders) (subject : NormalizedSubject)
    (admittedProducerUris : Finset String) : Except PyExc OperationProducerTrust := do
  match ← retrieveTrustedProducerCertificateAssertion headers true with
  | none => throw missingProducerCertificateAssertion
  | some assertion =>
    let producerUri ← producerUriOf x509 assertion
    return admittedTrust subject admittedProducerUris producerUri

/-- `resolve_operation_producer_trust`. -/
def resolveOperationProducerTrust (x509 : X509) (headers : RawHeaders) (subject : NormalizedSubject)
    (config : GatewayConfig) : Except PyExc OperationProducerTrust :=
  if config.operationProducerMtlsTrustedProxyEnabled then
    resolveMtlsOperationProducerTrust x509 headers subject config.operationProducerMtlsAdmittedUris
  else .ok (classifyOperationProducer subject config.operationProducerSubjectIds)

end BasisGateway
