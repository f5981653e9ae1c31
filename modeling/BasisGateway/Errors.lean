/-
The exceptions the gateway raises, catches and lets through, as one type: a
class, the message `str(exc)` gives, and the error entries a pydantic
`ValidationError` carries. `isInstance` is Python's `isinstance` over the
class tree of the source (`auth/errors.py`, `auth/basis_local_token.py`,
`auth/producer_mtls*.py`, `core/*.py`, `policy/*.py`) and of PyJWT.
-/
import Mathlib.Init

namespace BasisGateway

/-- One entry of `ValidationError.errors(include_url=False)`; each part of
`loc` as `str(loc)` writes it. -/
structure ErrorDetails where
  loc : List String
  msg : String
  type : String
  deriving DecidableEq, Repr

/-- Exception classes: the gateway's own, those of the libraries its `except`
clauses name, and `other` for any class outside both. -/
inductive ExcClass
  | authenticationError | tokenExtractionError | oidcDiscoveryError | jwksFetchError
  | jwtVerificationError | subjectMappingError | authNotConfiguredError | unsupportedAuthModeError
  | basisLocalTokenError | basisLocalTokenConfigError | basisLocalTokenHeaderError
  | basisLocalTokenSignatureError | basisLocalTokenVerificationError | basisLocalTokenClaimsError
  | actionCompositionError | resourceCompositionError
  | operationAwareCompositionError | untrustedOperationProducerContextError | reservedContextKeyError
  | compositionInternalError | operationAwareRequestConstructionError
  | operationAwareEvaluatorInternalError | operationAwarePreflightError
  | trustedProxyAssertionError | missingProducerCertificateAssertionError
  | duplicateProducerCertificateAssertionError | oversizedProducerCertificateAssertionError
  | producerCertificateError | certificateAssertionDecodingError | certificateParsingError
  | producerIdentityError | noEligibleUriSanError | multipleEligibleUriSansError
  | producerAdmissionConfigurationError
  | evaluationConfigError | operationAwareConfigError | policyLoadError | operationAwarePolicyLoadError
  | validationError
  | extensionNotFound | duplicateExtension | unsupportedGeneralNameType
  | pyJWTError | invalidTokenError | decodeError | invalidSignatureError | expiredSignatureError
  | immatureSignatureError | invalidAudienceError | invalidIssuerError | invalidIssuedAtError
  | invalidAlgorithmError | missingRequiredClaimError | invalidSubjectError | invalidJTIError
  | invalidKeyError | pyJWKClientError
  | valueError | typeError | keyError | runtimeError | overflowError | osError | assertionError
  | jsonDecodeError | unicodeDecodeError | recursionError
  | other (name : String)
  deriving DecidableEq, Repr

/-- The ancestors of a class, `Exception` itself left out. -/
def ExcClass.bases : ExcClass → List ExcClass
  | .tokenExtractionError | .oidcDiscoveryError | .jwksFetchError | .jwtVerificationError
  | .subjectMappingError | .authNotConfiguredError | .unsupportedAuthModeError
  | .basisLocalTokenError => [.authenticationError]
  | .basisLocalTokenConfigError | .basisLocalTokenHeaderError | .basisLocalTokenSignatureError
  | .basisLocalTokenVerificationError | .basisLocalTokenClaimsError =>
    [.basisLocalTokenError, .authenticationError]
  | .actionCompositionError | .resourceCompositionError | .operationAwareCompositionError
  | .validationError | .jsonDecodeError | .unicodeDecodeError => [.valueError]
  | .untrustedOperationProducerContextError | .reservedContextKeyError =>
    [.operationAwareCompositionError, .valueError]
  | .compositionInternalError | .operationAwareEvaluatorInternalError | .recursionError => [.runtimeError]
  | .missingProducerCertificateAssertionError | .duplicateProducerCertificateAssertionError
  | .oversizedProducerCertificateAssertionError => [.trustedProxyAssertionError]
  | .certificateAssertionDecodingError | .certificateParsingError | .producerIdentityError
  | .producerAdmissionConfigurationError => [.producerCertificateError]
  | .noEligibleUriSanError | .multipleEligibleUriSansError =>
    [.producerIdentityError, .producerCertificateError]
  | .decodeError | .expiredSignatureError | .immatureSignatureError | .invalidAudienceError
  | .invalidIssuerError | .invalidIssuedAtError | .invalidAlgorithmError
  | .missingRequiredClaimError | .invalidSubjectError | .invalidJTIError => [.invalidTokenError, .pyJWTError]
  | .invalidSignatureError => [.decodeError, .invalidTokenError, .pyJWTError]
  | .invalidTokenError | .invalidKeyError | .pyJWKClientError => [.pyJWTError]
  | _ => []

/-- A raised exception. -/
structure PyExc where
  cls : ExcClass
  msg : String
  errors : List ErrorDetails := []
  deriving DecidableEq, Repr

/-- `isinstance(exc, cls)`. -/
def PyExc.isInstance (exc : PyExc) (cls : ExcClass) : Bool :=
  decide (exc.cls = cls) || decide (cls ∈ exc.cls.bases)

/-- The ancestors of a class form a chain, which holds the ancestors of each class on it. -/
theorem ExcClass.bases_chain (cls : ExcClass) : ∀ b ∈ cls.bases, (∀ r ∈ b.bases, r ∈ cls.bases) ∧
    ∀ b' ∈ cls.bases, b = b' ∨ b ∈ b'.bases ∨ b' ∈ b.bases := by
  cases cls with
  | other name => simp [ExcClass.bases]
  | _ => decide

theorem PyExc.isInstance_iff {exc : PyExc} {cls : ExcClass} :
    exc.isInstance cls = true ↔ exc.cls = cls ∨ cls ∈ exc.cls.bases := by
  rw [isInstance, Bool.or_eq_true, decide_eq_true_eq, decide_eq_true_eq]

theorem PyExc.isInstance_of_base {exc : PyExc} {cls base : ExcClass} (h : exc.isInstance cls = true)
    (hbase : base ∈ cls.bases) : exc.isInstance base = true := by
  rw [isInstance_iff] at h ⊢
  rcases h with h | h
  · rw [h]
    exact .inr hbase
  · exact .inr ((ExcClass.bases_chain _ cls h).1 base hbase)

/-- Of two classes of one exception, one is an ancestor of the other. -/
theorem PyExc.isInstance_chain {exc : PyExc} {cls cls' : ExcClass} (h : exc.isInstance cls = true)
    (h' : exc.isInstance cls' = true) : cls = cls' ∨ cls ∈ cls'.bases ∨ cls' ∈ cls.bases := by
  rw [isInstance_iff] at h h'
  rcases h with h | h
  · rcases h' with h' | h'
    · exact .inl (h.symm.trans h')
    · exact .inr (.inr (h ▸ h'))
  · rcases h' with h' | h'
    · exact .inr (.inl (h' ▸ h))
    · exact (ExcClass.bases_chain _ cls h).2 cls' h'

/-- What the `except` clauses of a `try` make of `exc`, the first that names a class of it; an exception
that none names goes on. -/
def exceptClauses (clauses : List (ExcClass × (PyExc → PyExc))) (exc : PyExc) : PyExc :=
  match clauses.find? fun clause => exc.isInstance clause.1 with
  | some clause => clause.2 exc
  | none => exc

/-- Some clause names a class of `exc`. -/
def Named (clauses : List (ExcClass × (PyExc → PyExc))) (exc : PyExc) : Prop :=
  ∃ clause ∈ clauses, exc.isInstance clause.1 = true

/-- What a clause raises is of a class of which every clause's exceptions are. -/
theorem isInstance_exceptClauses {clauses : List (ExcClass × (PyExc → PyExc))} {exc : PyExc} {cls : ExcClass}
    (hraises : ∀ clause ∈ clauses, exc.isInstance clause.1 = true → (clause.2 exc).isInstance cls = true)
    (hnamed : Named clauses exc) : (exceptClauses clauses exc).isInstance cls = true := by
  obtain ⟨clause, hmem, hinst⟩ := hnamed
  have hsome : (clauses.find? fun clause => exc.isInstance clause.1).isSome = true := by
    rw [List.find?_isSome]
    exact ⟨clause, hmem, hinst⟩
  obtain ⟨found, hfound⟩ := Option.isSome_iff_exists.1 hsome
  have hfoundInst : exc.isInstance found.1 = true := by simpa using List.find?_some hfound
  rw [exceptClauses, hfound]
  exact hraises found (List.mem_of_find?_eq_some hfound) hfoundInst

/-- An exception that no clause names goes on as it is. -/
theorem exceptClauses_of_not_named {clauses : List (ExcClass × (PyExc → PyExc))} {exc : PyExc}
    (h : ¬ Named clauses exc) : exceptClauses clauses exc = exc := by
  have hnone : (clauses.find? fun clause => exc.isInstance clause.1) = none := by
    rw [List.find?_eq_none]
    intro clause hmem hinst
    exact h ⟨clause, hmem, hinst⟩
  rw [exceptClauses, hnone]

end BasisGateway
