/-
Verification of a BASIS-local identity token (`auth/basis_local_token.py`):
the header, the signature and the standard claims, the required claim paths,
the token type, the typed claims, and the result, whose construction scans
the payload for authorization-shaped keys.
-/
import BasisGateway.Auth.BasisLocalTrust
import BasisGateway.Auth.Jwt
import BasisGateway.Lib.JsonTrees

namespace BasisGateway

/-- What verification calls outside its module: PyJWT, the interpreter's Unicode tables, and
`datetime.fromtimestamp(value, tz=timezone.utc)`, whose range is the platform's. -/
structure TokenLibrary (JWK DateTime : Type) where
  jwt : PyJWT JWK
  tables : UnicodeTables
  fromTimestamp : Json → Except PyExc DateTime

/-! ## Errors -/

def headerError (msg : String) : PyExc := { cls := .basisLocalTokenHeaderError, msg }

def signatureError (msg : String) : PyExc := { cls := .basisLocalTokenSignatureError, msg }

def verificationError (msg : String) : PyExc := { cls := .basisLocalTokenVerificationError, msg }

def claimsError (msg : String) : PyExc := { cls := .basisLocalTokenClaimsError, msg }

/-! ## Claims and results -/

/-- `BasisLocalTokenClaims`. -/
structure BasisLocalTokenClaims (DateTime : Type) where
  issuer : String
  subjectId : String
  audience : List Json
  issuedAt : DateTime
  expiresAt : DateTime
  tokenId : String
  tokenType : String
  sessionId : String
  providerId : String
  authorityMode : String
  authenticationProtocol : String
  canonicalIdentity : Claims
  rawClaims : Claims

/-- The whole of `BasisLocalTokenVerificationResult`. -/
structure VerifiedBasisLocalToken extends BasisLocalTokenVerificationResult where
  audience : List Json
  tokenId : String
  tokenType : String
  sessionId : String
  providerId : String
  authorityMode : String
  authenticationProtocol : String

namespace BasisLocalToken

variable {JWK DateTime : Type}

/-! ## The header -/

/-- A header parameter that must be a string with something in it, stripped. -/
def headerText (header : Claims) (name missing : String) : Except PyExc String :=
  match Json.get? name header with
  | some (.str value) => if blank value = true then .error (headerError missing) else .ok (strip value)
  | _ => .error (headerError missing)

/-- The three conditions on the `alg` of the header. -/
def requireAcceptedAlgorithm (tables : UnicodeTables) (trust : BasisLocalTokenTrustConfig tables) (alg : String) :
    Except PyExc Unit :=
  if tables.lower alg = "none" then .error (headerError "unsigned tokens (alg=none) are not accepted")
  else if startsWith (tables.upper alg) "HS" = true then
    .error (headerError ("symmetric algorithm " ++ pyRepr tables.printable alg ++ " is not accepted"))
  else if alg ∉ trust.allowedAlgorithms then
    .error (headerError ("algorithm " ++ pyRepr tables.printable alg ++ " is not in the configured allow-list"))
  else .ok ()

/-- The public key configured for `kid`. -/
def selectPublicKey (tables : UnicodeTables) (trust : BasisLocalTokenTrustConfig tables) (kid : String) :
    Except PyExc String :=
  match trust.publicKey kid with
  | some pem => .ok pem
  | none => .error (headerError ("no public key configured for kid " ++ pyRepr tables.printable kid))

/-- What the header settles: the algorithm and the public key. -/
def acceptHeader (tables : UnicodeTables) (trust : BasisLocalTokenTrustConfig tables) (header : Claims) :
    Except PyExc (String × String) := do
  let kid ← headerText header "kid" "token header is missing a non-empty 'kid'"
  let alg ← headerText header "alg" "token header is missing the 'alg' parameter"
  requireAcceptedAlgorithm tables trust alg
  let publicKeyPem ← selectPublicKey tables trust kid
  return (alg, publicKeyPem)

/-! ## The signature and the standard claims -/

/-- The `except` clause around `jwt.get_unverified_header`. -/
def headerClauses : List (ExcClass × (PyExc → PyExc)) :=
  [(.invalidTokenError, fun _ => headerError "token JOSE header could not be parsed")]

/-- What `jwt.decode` is called with. -/
def decodeCall {tables : UnicodeTables} (trust : BasisLocalTokenTrustConfig tables)
    (token alg publicKeyPem : String) : DecodeCall JWK where
  token
  key := .pem publicKeyPem
  algorithms := [alg]
  audience := .any trust.audience
  issuer := trust.issuer
  leeway := trust.leewaySeconds
  options :=
    [("require", .arr [.str "exp", .str "iss", .str "aud", .str "sub", .str "iat", .str "jti"]),
      ("verify_signature", .bool true), ("verify_exp", .bool true), ("verify_nbf", .bool true),
      ("verify_iat", .bool true), ("verify_aud", .bool true), ("verify_iss", .bool true)]

/-- The `except` clauses around `jwt.decode`. -/
def decodeClauses (lib : TokenLibrary JWK DateTime) : List (ExcClass × (PyExc → PyExc)) :=
  [(.expiredSignatureError, fun _ => verificationError "token is expired"),
    (.immatureSignatureError, fun _ => verificationError "token is not yet valid ('nbf' is in the future)"),
    (.invalidAudienceError, fun _ =>
      verificationError "token audience does not match the configured audience"),
    (.invalidIssuerError, fun _ => verificationError "token issuer does not match the configured issuer"),
    (.missingRequiredClaimError, fun exc =>
      claimsError ("token is missing required claim " ++ pyRepr lib.tables.printable (lib.jwt.claim exc))),
    (.invalidSignatureError, fun _ => signatureError "token signature failed verification"),
    (.decodeError, fun _ => signatureError "token could not be decoded or its signature is invalid"),
    (.invalidTokenError, fun _ => verificationError "token failed standard claim validation")]

/-! ## The claims of a verified payload -/

/-- `_claim_path_present`. -/
def claimPathPresent (payload : Claims) (path : String) : Bool :=
  match Json.walk (splitDots path) (.obj payload) with
  | none | some .null => false
  | some _ => true

/-- Every path of `required_claims` is present. -/
def requireClaimPaths (tables : UnicodeTables) (paths : List String) (payload : Claims) : Except PyExc Unit :=
  let missing := paths.filter fun path => !claimPathPresent payload path
  if missing ≠ [] then
    .error (claimsError ("verified token payload is missing required claim path(s): " ++
      pyReprList tables.printable missing))
  else .ok ()

/-- `_BASIS_LOCAL_IDENTITY_TOKEN_TYPE`. -/
def basisLocalIdentityTokenType : String := "basis-local-identity"

/-- `payload.get("typ")` is the BASIS-local identity type. -/
def requireTokenType (tables : UnicodeTables) (payload : Claims) : Except PyExc Unit :=
  match Json.get? "typ" payload with
  | some (.str tokenType) => if tokenType = basisLocalIdentityTokenType then .ok () else unexpected (.str tokenType)
  | some value => unexpected value
  | none => unexpected .null
where
  unexpected (value : Json) : Except PyExc Unit :=
    .error (claimsError ("unexpected token type " ++ pyReprJson tables.printable value))

/-- `payload[key]`. -/
def subscript (payload : Claims) (key : String) : Except PyExc Json :=
  match Json.get? key payload with
  | some value => .ok value
  | none => .error { cls := .keyError, msg := "'" ++ key ++ "'" }

/-- A claim that must be a JSON object. -/
def requireObject (name : String) : Json → Except PyExc Claims
  | .obj fields => .ok fields
  | _ => .error (claimsError ("'" ++ name ++ "' claim must be an object"))

/-- The entries of the `aud` claim. -/
def audienceEntries : Json → Except PyExc (List Json)
  | .str audience => .ok [.str audience]
  | .arr audiences => .ok audiences
  | _ => .error (claimsError "'aud' claim must be a string or list of strings")

/-- `_timestamp_to_datetime`. A boolean is no number. -/
def timestampToDatetime (lib : TokenLibrary JWK DateTime) (fieldName : String) (value : Json) :
    Except PyExc DateTime :=
  match value with
  | .int _ | .float _ => lib.fromTimestamp value
  | _ => .error (claimsError (fieldName ++ " must be a numeric timestamp"))

/-- One claim of the loop over the eight labels. -/
def requireText (label : String) (value : Json) : Except PyExc String :=
  match value with
  | .str text => if blank text = true then fail else .ok text
  | _ => fail
where
  fail : Except PyExc String := .error (claimsError ("claim '" ++ label ++ "' must be a non-empty string"))

/-- The body of the `try` of `_basis_local_claims_from_verified_payload`, and the claims made of it. -/
def readClaims (lib : TokenLibrary JWK DateTime) (payload : Claims) :
    Except PyExc (BasisLocalTokenClaims DateTime) := do
  let basis ← requireObject "basis" (← subscript payload "basis")
  let issuer ← subscript payload "iss"
  let subjectId ← subscript payload "sub"
  let tokenId ← subscript payload "jti"
  let tokenType ← subscript payload "typ"
  let audience ← audienceEntries (← subscript payload "aud")
  let issuedAt ← timestampToDatetime lib "iat" (← subscript payload "iat")
  let expiresAt ← timestampToDatetime lib "exp" (← subscript payload "exp")
  let sessionId ← subscript basis "session_id"
  let providerId ← subscript basis "provider_id"
  let authorityMode ← subscript basis "authority_mode"
  let authenticationProtocol ← subscript basis "authentication_protocol"
  let canonicalIdentity ← requireObject "basis.canonical_identity" (← subscript basis "canonical_identity")
  let issuer ← requireText "iss" issuer
  let subjectId ← requireText "sub" subjectId
  let tokenId ← requireText "jti" tokenId
  let tokenType ← requireText "typ" tokenType
  let sessionId ← requireText "basis.session_id" sessionId
  let providerId ← requireText "basis.provider_id" providerId
  let authorityMode ← requireText "basis.authority_mode" authorityMode
  let authenticationProtocol ← requireText "basis.authentication_protocol" authenticationProtocol
  return { issuer, subjectId, audience, issuedAt, expiresAt, tokenId, tokenType, sessionId, providerId,
           authorityMode, authenticationProtocol, canonicalIdentity, rawClaims := payload }

/-- Its `except` clauses. -/
def claimsClauses : List (ExcClass × (PyExc → PyExc)) :=
  [(.basisLocalTokenClaimsError, id), (.keyError, malformed), (.typeError, malformed), (.valueError, malformed)]
where
  malformed (_ : PyExc) : PyExc :=
    claimsError ("verified token payload is missing a required BASIS-local claim " ++
      "or has a malformed value")

/-- `_basis_local_claims_from_verified_payload`. -/
def basisLocalClaimsFromVerifiedPayload (lib : TokenLibrary JWK DateTime) (payload : Claims) :
    Except PyExc (BasisLocalTokenClaims DateTime) :=
  (readClaims lib payload).mapError (exceptClauses claimsClauses)

/-! ## The result -/

/-- `_AUTHORIZATION_SCAN_EXEMPT_KEYS`. -/
def authorizationScanExemptKeys : List String := ["allowed_algorithms"]

/-- One key of the scan. -/
def rejectAuthorizationShapedKey (tables : UnicodeTables) (key : String) : Except PyExc Unit :=
  if key ∉ authorizationScanExemptKeys ∧ authorizationShaped tables key = true then
    .error (claimsError ("claim key " ++ pyRepr tables.printable key ++
      " is not permitted in an identity-only BASIS-local token trust boundary"))
  else .ok ()

/-- `_assert_no_authorization_shaped_keys`. What stands below an exempt key is scanned too. -/
def assertNoAuthorizationShapedKeys (tables : UnicodeTables) (data : Json) : Except PyExc Unit :=
  data.forKeys (rejectAuthorizationShapedKey tables)

/-- One field of the loop of `BasisLocalTokenVerificationResult.__post_init__`. -/
def requireNonEmpty (field : String × String) : Except PyExc Unit :=
  if blank field.2 = true then .error (claimsError (field.1 ++ " must be a non-empty string")) else .ok ()

/-- `BasisLocalTokenVerificationResult.__post_init__`. -/
def postInit (tables : UnicodeTables) (result : VerifiedBasisLocalToken) : Except PyExc Unit := do
  forM [("subject_id", result.subjectId), ("issuer", result.issuer), ("token_id", result.tokenId),
    ("token_type", result.tokenType), ("session_id", result.sessionId), ("provider_id", result.providerId),
    ("authority_mode", result.authorityMode), ("authentication_protocol", result.authenticationProtocol)]
    requireNonEmpty
  requireAudience
  assertNoAuthorizationShapedKeys tables (.obj result.canonicalIdentity)
  assertNoAuthorizationShapedKeys tables (.obj result.claims)
where
  requireAudience : Except PyExc Unit :=
    if result.audience.isEmpty = true then
      .error (claimsError "audience must be a non-empty tuple of strings")
    else .ok ()

/-- The fields of the result. -/
def resultOf (claims : BasisLocalTokenClaims DateTime) : VerifiedBasisLocalToken where
  subjectId := claims.subjectId
  issuer := claims.issuer
  audience := claims.audience
  tokenId := claims.tokenId
  tokenType := claims.tokenType
  sessionId := claims.sessionId
  providerId := claims.providerId
  authorityMode := claims.authorityMode
  authenticationProtocol := claims.authenticationProtocol
  canonicalIdentity := claims.canonicalIdentity
  claims := claims.rawClaims

/-- `_result_from_claims`. -/
def resultFromClaims (tables : UnicodeTables) (claims : BasisLocalTokenClaims DateTime) :
    Except PyExc VerifiedBasisLocalToken := do
  postInit tables (resultOf claims)
  return resultOf claims

/-! ## Verification -/

def requireToken (token : String) : Except PyExc Unit :=
  if blank token = true then .error (headerError "token must be a non-empty string") else .ok ()

/-- `verify_basis_local_identity_token`. -/
def verifyBasisLocalIdentityToken (lib : TokenLibrary JWK DateTime)
    (trust : BasisLocalTokenTrustConfig lib.tables) (token : String) :
    Except PyExc VerifiedBasisLocalToken := do
  requireToken token
  let header ← (lib.jwt.getUnverifiedHeader token).mapError (exceptClauses headerClauses)
  let (alg, publicKeyPem) ← acceptHeader lib.tables trust header
  let payload ← (lib.jwt.decode (decodeCall trust token alg publicKeyPem)).mapError
    (exceptClauses (decodeClauses lib))
  requireClaimPaths lib.tables trust.requiredClaims payload
  requireTokenType lib.tables payload
  let claims ← basisLocalClaimsFromVerifiedPayload lib payload
  resultFromClaims lib.tables claims

end BasisLocalToken

end BasisGateway
