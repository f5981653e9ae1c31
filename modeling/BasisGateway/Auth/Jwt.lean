/-
The OIDC verifier (`auth/oidc.py`), over the token library it calls.

PyJWT and the JWKS client are third parties and are parameters: what a call
returns or raises. The verifier's own part is what it passes them and what
it makes of their exceptions.
-/
import BasisGateway.Auth.Subject

namespace BasisGateway

/-! ## Quoting a JSON value -/

mutual

/-- `repr` of what `json.loads` builds. -/
def pyReprJson (printable : Char → Bool) : Json → String
  | .null => "None"
  | .bool true => "True"
  | .bool false => "False"
  | .int n => toString n
  | .float repr => repr
  | .str s => pyRepr printable s
  | .arr items => "[" ++ ", ".intercalate (pyReprItems printable items) ++ "]"
  | .obj fields => "\x7b" ++ ", ".intercalate (pyReprFields printable fields) ++ "\x7d"

def pyReprItems (printable : Char → Bool) : List Json → List String
  | [] => []
  | item :: rest => pyReprJson printable item :: pyReprItems printable rest

def pyReprFields (printable : Char → Bool) : List (String × Json) → List String
  | [] => []
  | (key, value) :: rest =>
    (pyRepr printable key ++ ": " ++ pyReprJson printable value) :: pyReprFields printable rest

end

/-! ## PyJWT -/

/-- The key a signature is checked against: PEM text, or the key of a JWKS entry. -/
inductive VerificationKey (JWK : Type)
  | pem (text : String)
  | jwk (key : JWK)

/-- The `audience` argument of `jwt.decode`. -/
inductive Audience
  | none
  | one (audience : String)
  | any (audiences : List String)

/-- A call of `jwt.decode`. -/
structure DecodeCall (JWK : Type) where
  token : String
  key : VerificationKey JWK
  algorithms : List String
  audience : Audience
  issuer : String
  leeway : Int := 0
  options : Claims

/-- The functions of `jwt` that are called, and the `claim` of a `MissingRequiredClaimError`. -/
structure PyJWT (JWK : Type) where
  getUnverifiedHeader : String → Except PyExc Claims
  decode : DecodeCall JWK → Except PyExc Claims
  claim : PyExc → String

/-- `PyJWKClient`: the key `get_signing_key_from_jwt` finds for a token. -/
structure PyJWKClient (JWK : Type) where
  getSigningKeyFromJwt : String → Except PyExc JWK

/-! ## The OIDC verifier -/

/-- `_ALLOWED_ALGORITHMS`. -/
def allowedAlgorithms : List String := ["RS256", "RS384", "RS512", "ES256", "ES384", "ES512"]

def jwtVerificationError (msg : String) : PyExc := { cls := .jwtVerificationError, msg }

def jwksFetchError (msg : String) : PyExc := { cls := .jwksFetchError, msg }

/-- `_JWKSCache.get_signing_key`. -/
def PyJWKClient.getSigningKey {JWK : Type} (client : PyJWKClient JWK) (token : String) : Except PyExc JWK :=
  (client.getSigningKeyFromJwt token).mapError fun exc =>
    if exc.isInstance .pyJWKClientError ∧
        (contains exc.msg "Unable to find" ∨ contains exc.msg "Keyset is empty") then
      jwtVerificationError ("No matching key found in JWKS: " ++ exc.msg)
    else jwksFetchError ("JWKS fetch failed: " ++ exc.msg)

/-- `OIDCVerifier`, by what `verify` reads. -/
structure OIDCVerifier (JWK : Type) where
  issuer : String
  audience : Option String
  cache : Option (PyJWKClient JWK)

namespace OIDCVerifier

variable {JWK : Type}

/-- `header.get("alg", "")`, if it is allowed. -/
def requireAllowedAlgorithm (printable : Char → Bool) (header : Claims) : Except PyExc Unit :=
  match Json.get? "alg" header with
  | some (.str alg) => if alg ∈ allowedAlgorithms then .ok () else unsupported (.str alg)
  | some value => unsupported value
  | none => unsupported (.str "")
where
  unsupported (alg : Json) : Except PyExc Unit :=
    .error (jwtVerificationError ("Unsupported JWT algorithm " ++ pyReprJson printable alg ++ ". Allowed: " ++
      ", ".intercalate allowedAlgorithms))

/-- The `except` clause around `jwt.get_unverified_header`. -/
def headerClauses : List (ExcClass × (PyExc → PyExc)) :=
  [(.decodeError, fun _ => jwtVerificationError "Malformed JWT header")]

/-- The `except` clauses around `jwt.decode`. -/
def decodeClauses : List (ExcClass × (PyExc → PyExc)) :=
  [(.expiredSignatureError, fun _ => jwtVerificationError "Token has expired"),
    (.invalidIssuerError, fun _ => jwtVerificationError "Token issuer is invalid"),
    (.invalidAudienceError, fun _ => jwtVerificationError "Token audience is invalid"),
    (.invalidSignatureError, fun _ => jwtVerificationError "Token signature is invalid"),
    (.decodeError, fun exc => jwtVerificationError ("Token decode error: " ++ exc.msg)),
    (.pyJWTError, fun exc => jwtVerificationError ("Token verification failed: " ++ exc.msg))]

/-- What `verify` passes `jwt.decode`. An empty audience is none. -/
def decodeCall (verifier : OIDCVerifier JWK) (token : String) (signingKey : JWK) : DecodeCall JWK where
  token
  key := .jwk signingKey
  algorithms := allowedAlgorithms
  audience := match verifier.audience with
    | some audience => if audience = "" then .none else .one audience
    | none => .none
  issuer := verifier.issuer
  options := [("verify_exp", .bool true), ("verify_iss", .bool true)]

/-- `OIDCVerifier.verify`. -/
def verify (jwt : PyJWT JWK) (printable : Char → Bool) (verifier : OIDCVerifier JWK) (token : String) :
    Except PyExc Claims :=
  match verifier.cache with
  | none =>
    .error (jwtVerificationError "OIDCVerifier not initialized; call initialize() before verifying tokens")
  | some client => do
    let header ← (jwt.getUnverifiedHeader token).mapError (exceptClauses headerClauses)
    requireAllowedAlgorithm printable header
    let signingKey ← client.getSigningKey token
    (jwt.decode (verifier.decodeCall token signingKey)).mapError (exceptClauses decodeClauses)

end OIDCVerifier

end BasisGateway
