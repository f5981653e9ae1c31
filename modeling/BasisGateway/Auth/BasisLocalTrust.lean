/-
The trust configuration of BASIS-local tokens (`auth/basis_local_token.py`):
its fields, the checks `__post_init__` makes of them, and the configuration,
which holds the proof that they passed.
-/
import BasisGateway.Errors
import BasisGateway.Lib.Checks
import BasisGateway.Lib.OrderedDict
import BasisGateway.Text
import BasisGateway.Values

namespace BasisGateway

/-- `DEFAULT_REQUIRED_BASIS_TOKEN_CLAIMS`. -/
def defaultRequiredBasisTokenClaims : List String :=
  ["iss", "sub", "aud", "iat", "exp", "jti", "typ", "basis.session_id", "basis.provider_id",
    "basis.authority_mode", "basis.authentication_protocol", "basis.canonical_identity"]

/-- `_FORBIDDEN_CLAIM_TERMS`. -/
def forbiddenClaimTerms : List String :=
  ["allow", "deny", "decision", "policy", "permission", "grant", "matched_rule", "enforce", "obligation"]

/-- A forbidden term occurs in `name`, whatever its letter case. -/
def authorizationShaped (tables : UnicodeTables) (name : String) : Bool :=
  forbiddenClaimTerms.any fun term => contains (tables.lower name) term

/-- One of the nine terms is a part of the lower-case `name`. -/
def NamesAuthorization (tables : UnicodeTables) (name : String) : Prop :=
  ∃ term ∈ ["allow", "deny", "decision", "policy", "permission", "grant", "matched_rule", "enforce", "obligation"],
    term.toList <:+: (tables.lower name).toList

theorem authorizationShaped_iff {tables : UnicodeTables} {name : String} :
    authorizationShaped tables name = true ↔ NamesAuthorization tables name := by
  rw [authorizationShaped, List.any_eq_true, NamesAuthorization]
  simp only [contains_iff, forbiddenClaimTerms]

/-- Neither the unsigned algorithm nor a symmetric one, in any letter case. -/
def Asymmetric (tables : UnicodeTables) (alg : String) : Prop :=
  tables.lower alg ≠ "none" ∧ startsWith (tables.upper alg) "HS" = false

/-- Not blank, and without whitespace around it. -/
def Trimmed (s : String) : Prop := blank s = false ∧ strip s = s

/-! ## The checks -/

def configError (msg : String) : PyExc := { cls := .basisLocalTokenConfigError, msg }

/-- The two checks every configured string goes through, with the messages it has for them. -/
def requireTrimmed (blankMsg paddedMsg value : String) : Except PyExc Unit :=
  if blank value = true then .error (configError blankMsg)
  else if strip value ≠ value then .error (configError paddedMsg)
  else .ok ()

theorem requireTrimmed_eq_ok {blankMsg paddedMsg value : String} :
    requireTrimmed blankMsg paddedMsg value = .ok () ↔ Trimmed value := by
  rw [requireTrimmed, Except.guard_eq_ok, Except.guard_eq_ok, Bool.not_eq_true, not_not, Trimmed]
  simp

/-- `_require_no_surrounding_whitespace`. -/
def requireNoSurroundingWhitespace (value fieldName : String) : Except PyExc Unit :=
  requireTrimmed (fieldName ++ " must be a non-empty string")
    (fieldName ++ " must not have leading or trailing whitespace") value

/-- `_normalize_audience`, of a sequence of strings. -/
def normalizeAudience (audience : List String) : Except PyExc Unit :=
  if audience = [] then .error (configError "audience must contain at least one entry")
  else forM audience (requireTrimmed "audience entries must be non-empty strings"
    "audience entries must not have leading or trailing whitespace")

/-- `_validate_algorithm_string`. -/
def validateAlgorithmString (tables : UnicodeTables) (fieldName value : String) : Except PyExc Unit := do
  requireTrimmed (fieldName ++ " must be a non-empty string")
    (fieldName ++ " must not have leading or trailing whitespace") value
  if tables.lower value = "none" then
    .error (configError (fieldName ++ " must not be 'none' (unsigned tokens are not accepted)"))
  else if startsWith (tables.upper value) "HS" = true then
    .error (configError (fieldName ++ " must not be a symmetric algorithm: " ++
      pyRepr tables.printable value))
  else .ok ()

/-- `_validate_allowed_algorithms`. -/
def validateAllowedAlgorithms (tables : UnicodeTables) (algorithms : List String) : Except PyExc Unit :=
  if algorithms = [] then .error (configError "allowed_algorithms must not be empty")
  else forM algorithms (validateAlgorithmString tables "allowed_algorithms entry")

/-- One entry of `public_keys_by_id`. The values come from parsed JSON. -/
def validatePublicKey (tables : UnicodeTables) (entry : String × Json) : Except PyExc Unit := do
  requireTrimmed "public key id must be a non-empty string"
    "public key id must not have leading or trailing whitespace" entry.1
  match entry.2 with
  | .str pem =>
    if blank pem = true then .error missingMaterial
    else if contains (tables.upper pem) "PRIVATE KEY" = true then
      .error (configError ("public_keys_by_id entry for kid " ++ pyRepr tables.printable entry.1 ++
        " looks like a private key; only public verification keys are accepted"))
    else .ok ()
  | _ => .error missingMaterial
where
  missingMaterial : PyExc :=
    configError ("public key material for kid " ++ pyRepr tables.printable entry.1 ++
      " must be a non-empty string")

/-- `_validate_public_keys_by_id`. -/
def validatePublicKeysById (tables : UnicodeTables) (keys : OrderedDict String Json) : Except PyExc Unit :=
  if keys.entries.isEmpty = true then
    .error (configError "public_keys_by_id must be a non-empty mapping of key id to public key PEM")
  else forM keys.entries (validatePublicKey tables)

/-- One path of `_reject_authorization_shaped_claim_paths`. -/
def rejectAuthorizationShapedClaimPath (tables : UnicodeTables) (path : String) : Except PyExc Unit :=
  if authorizationShaped tables path = true then
    .error (configError ("required_claims entry " ++ pyRepr tables.printable path ++
      " looks like an authorization/enforcement claim, which is not permitted in an identity-only trust config"))
  else .ok ()

/-- `_validate_required_claims`. -/
def validateRequiredClaims (tables : UnicodeTables) (paths : List String) : Except PyExc Unit :=
  if paths = [] then .error (configError "required_claims must not be empty")
  else do
    forM paths (requireTrimmed "required_claims entries must be non-empty strings"
      "required_claims entries must not have leading or trailing whitespace")
    forM paths (rejectAuthorizationShapedClaimPath tables)

/-- `leeway_seconds`, an int. -/
def validateLeeway (leewaySeconds : Int) : Except PyExc Unit :=
  if leewaySeconds < 0 then .error (configError "leeway_seconds must be non-negative") else .ok ()

/-! ## The configuration -/

/-- The fields of `BasisLocalTokenTrustConfig`, as it is constructed from them. -/
structure BasisLocalTokenTrustFields where
  issuer : String
  audience : List String
  publicKeysById : OrderedDict String Json
  allowedAlgorithms : List String := ["RS256"]
  requiredClaims : List String := defaultRequiredBasisTokenClaims
  leewaySeconds : Int := 0

namespace BasisLocalTokenTrustFields

variable {tables : UnicodeTables} {fields : BasisLocalTokenTrustFields}

/-- `__post_init__`. -/
def postInit (tables : UnicodeTables) (fields : BasisLocalTokenTrustFields) : Except PyExc Unit := do
  requireNoSurroundingWhitespace fields.issuer "issuer"
  normalizeAudience fields.audience
  validatePublicKeysById tables fields.publicKeysById
  validateAllowedAlgorithms tables fields.allowedAlgorithms
  validateRequiredClaims tables fields.requiredClaims
  validateLeeway fields.leewaySeconds

/-- What a configuration is known to satisfy. -/
structure Valid (tables : UnicodeTables) (fields : BasisLocalTokenTrustFields) : Prop where
  issuer : Trimmed fields.issuer
  audience_ne : fields.audience ≠ []
  audience : ∀ entry ∈ fields.audience, Trimmed entry
  keys_ne : fields.publicKeysById.entries ≠ []
  keys : ∀ entry ∈ fields.publicKeysById.entries, Trimmed entry.1 ∧
    ∃ pem, entry.2 = .str pem ∧ blank pem = false ∧ contains (tables.upper pem) "PRIVATE KEY" = false
  algorithms_ne : fields.allowedAlgorithms ≠ []
  algorithms : ∀ alg ∈ fields.allowedAlgorithms, Trimmed alg ∧ Asymmetric tables alg
  required_ne : fields.requiredClaims ≠ []
  required : ∀ path ∈ fields.requiredClaims, Trimmed path ∧ ¬ NamesAuthorization tables path
  leeway : 0 ≤ fields.leewaySeconds

theorem validateAlgorithmString_eq_ok {fieldName alg : String} :
    validateAlgorithmString tables fieldName alg = .ok () ↔ Trimmed alg ∧ Asymmetric tables alg := by
  rw [validateAlgorithmString, Except.check_bind_eq_ok, requireTrimmed_eq_ok, Except.guard_eq_ok,
    Except.guard_eq_ok, Bool.not_eq_true, Asymmetric]
  simp

theorem validatePublicKey_eq_ok {entry : String × Json} :
    validatePublicKey tables entry = .ok () ↔ Trimmed entry.1 ∧
      ∃ pem, entry.2 = .str pem ∧ blank pem = false ∧ contains (tables.upper pem) "PRIVATE KEY" = false := by
  rw [validatePublicKey, Except.check_bind_eq_ok, requireTrimmed_eq_ok]
  refine and_congr_right fun _ => ?_
  split
  next pem hpem =>
    rw [Except.guard_eq_ok, Except.guard_eq_ok, Bool.not_eq_true, Bool.not_eq_true, hpem]
    simp
  next hother =>
    constructor
    · intro h; cases h
    · rintro ⟨pem, hpem, -⟩
      exact absurd hpem (hother pem)

theorem validateRequiredClaims_eq_ok {paths : List String} :
    validateRequiredClaims tables paths = .ok () ↔
      paths ≠ [] ∧ ∀ path ∈ paths, Trimmed path ∧ ¬ NamesAuthorization tables path := by
  have hreject : ∀ path, rejectAuthorizationShapedClaimPath tables path = .ok () ↔
      ¬ NamesAuthorization tables path := by
    intro path
    rw [rejectAuthorizationShapedClaimPath, Except.guard_eq_ok, authorizationShaped_iff]
    simp
  rw [validateRequiredClaims, Except.guard_eq_ok, Except.check_bind_eq_ok, Except.forM_eq_ok,
    Except.forM_eq_ok]
  simp only [requireTrimmed_eq_ok, hreject]
  refine and_congr_right fun _ => ?_
  constructor
  · rintro ⟨htrimmed, hshaped⟩ path hpath
    exact ⟨htrimmed path hpath, hshaped path hpath⟩
  · intro h
    exact ⟨fun path hpath => (h path hpath).1, fun path hpath => (h path hpath).2⟩

/-- `__post_init__` raises nothing on valid fields, and on no others. -/
theorem postInit_eq_ok : fields.postInit tables = .ok () ↔ fields.Valid tables := by
  have haudience : normalizeAudience fields.audience = .ok () ↔
      fields.audience ≠ [] ∧ ∀ entry ∈ fields.audience, Trimmed entry := by
    rw [normalizeAudience, Except.guard_eq_ok, Except.forM_eq_ok]
    simp only [requireTrimmed_eq_ok]
  have hkeys : validatePublicKeysById tables fields.publicKeysById = .ok () ↔
      fields.publicKeysById.entries ≠ [] ∧ ∀ entry ∈ fields.publicKeysById.entries, Trimmed entry.1 ∧
        ∃ pem, entry.2 = .str pem ∧ blank pem = false ∧ contains (tables.upper pem) "PRIVATE KEY" = false := by
    rw [validatePublicKeysById, Except.guard_eq_ok, Except.forM_eq_ok, List.isEmpty_iff]
    simp only [validatePublicKey_eq_ok]
  have halgorithms : validateAllowedAlgorithms tables fields.allowedAlgorithms = .ok () ↔
      fields.allowedAlgorithms ≠ [] ∧ ∀ alg ∈ fields.allowedAlgorithms, Trimmed alg ∧ Asymmetric tables alg := by
    rw [validateAllowedAlgorithms, Except.guard_eq_ok, Except.forM_eq_ok]
    simp only [validateAlgorithmString_eq_ok]
  have hleeway : validateLeeway fields.leewaySeconds = .ok () ↔ 0 ≤ fields.leewaySeconds := by
    rw [validateLeeway, Except.guard_eq_ok, not_lt]
    simp
  simp only [postInit, requireNoSurroundingWhitespace, Except.check_bind_eq_ok, requireTrimmed_eq_ok, haudience,
    hkeys, halgorithms, validateRequiredClaims_eq_ok, hleeway]
  constructor
  · rintro ⟨issuer, ⟨audience_ne, audience⟩, ⟨keys_ne, keys⟩, ⟨algorithms_ne, algorithms⟩,
      ⟨required_ne, required⟩, leeway⟩
    exact { issuer, audience_ne, audience, keys_ne, keys, algorithms_ne, algorithms, required_ne, required,
            leeway }
  · intro h
    exact ⟨h.issuer, ⟨h.audience_ne, h.audience⟩, ⟨h.keys_ne, h.keys⟩, ⟨h.algorithms_ne, h.algorithms⟩,
      ⟨h.required_ne, h.required⟩, h.leeway⟩

end BasisLocalTokenTrustFields

/-- `BasisLocalTokenTrustConfig`. -/
structure BasisLocalTokenTrustConfig (tables : UnicodeTables) extends BasisLocalTokenTrustFields where
  valid : toBasisLocalTokenTrustFields.Valid tables

namespace BasisLocalTokenTrustConfig

variable {tables : UnicodeTables}

/-- The constructor: a configuration, or what `__post_init__` raises. -/
def make (tables : UnicodeTables) (fields : BasisLocalTokenTrustFields) :
    Except PyExc (BasisLocalTokenTrustConfig tables) :=
  match h : fields.postInit tables with
  | .error exc => .error exc
  | .ok () => .ok { fields with valid := BasisLocalTokenTrustFields.postInit_eq_ok.1 h }

/-- `public_keys_by_id.get(kid)`. -/
def publicKey (trust : BasisLocalTokenTrustConfig tables) (kid : String) : Option String :=
  match trust.publicKeysById.get? kid with
  | some (.str pem) => some pem
  | _ => none

end BasisLocalTokenTrustConfig

/-- One service's tokens, under one key. -/
def singleKeyTrust : BasisLocalTokenTrustConfig asciiTables where
  issuer := "basis-identity"
  audience := ["basis-gateway"]
  publicKeysById := OrderedDict.empty.set "key-1" (.str "-----BEGIN PUBLIC KEY-----")
  valid := BasisLocalTokenTrustFields.postInit_eq_ok.1 (by decide +kernel)

end BasisGateway
