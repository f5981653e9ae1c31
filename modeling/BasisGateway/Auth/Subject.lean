/-
Who the caller is: the normalized subject and the identity context, and the
two ways a verified token becomes a pair of them (`auth/subject_mapper.py`
and the last function of `auth/basis_local_token.py`), behind the mode
dispatch of `auth/runtime.py`.

What verifies a token is a parameter: the claims or the result it returns,
or what it raises, for each token.
-/
import BasisGateway.Config
import BasisGateway.Text

namespace BasisGateway

/-- A JSON object's members. -/
abbrev Claims := List (String × Json)

/-- `NormalizedSubject`. -/
structure NormalizedSubject where
  subjectId : String
  name : String
  roles : List String
  attributes : Claims

/-- `IdentityContext` of the gateway. -/
structure IdentityContext where
  issuer : String
  subjectId : String
  claims : Claims

/-! ## OIDC claims -/

/-- The string entries of a JSON array, sorted and deduplicated. -/
def normalizeRoles (raw : List Json) : List String :=
  sortedSet (raw.filterMap fun r => match r with
    | .str s => some s
    | _ => none)

/-- `_extract_roles`. -/
def extractRoles (claims : Claims) : List String :=
  let nested := match Json.get? "realm_access" claims with
    | some (.obj realmAccess) => Json.get? "roles" realmAccess
    | _ => none
  match nested with
  | some (.arr raw) => normalizeRoles raw
  | _ => match Json.get? "roles" claims with
    | some (.arr raw) => normalizeRoles raw
    | _ => []

/-- `_ATTRIBUTE_CLAIMS`. -/
def attributeClaims : List String := ["email", "given_name", "family_name", "name"]

/-- The claims of `attributeClaims` that are present and not null. -/
def collectAttributes (claims : Claims) : Claims :=
  attributeClaims.filterMap fun key => match Json.get? key claims with
    | none | some .null => none
    | some value => some (key, value)

/-- `map_claims`. -/
def mapClaims (claims : Claims) : Except PyExc (NormalizedSubject × IdentityContext) :=
  match Json.get? "sub" claims with
  | some (.str subjectId) =>
    if subjectId = "" then missingSub
    else
      -- a falsy or non-string `preferred_username` falls back to the subject id
      let name := match Json.get? "preferred_username" claims with
        | some (.str s) => if s = "" then subjectId else s
        | _ => subjectId
      let issuer := match Json.get? "iss" claims with
        | some (.str s) => s
        | _ => ""
      .ok ({ subjectId, name, roles := extractRoles claims, attributes := collectAttributes claims },
        { issuer, subjectId, claims })
  | _ => missingSub
where
  missingSub : Except PyExc (NormalizedSubject × IdentityContext) :=
    .error { cls := .subjectMappingError, msg := "Verified token is missing required 'sub' claim" }

/-! ## BASIS-local tokens -/

/-- The fields of `BasisLocalTokenVerificationResult` that normalization reads. -/
structure BasisLocalTokenVerificationResult where
  subjectId : String
  issuer : String
  canonicalIdentity : Claims
  claims : Claims

/-- `basis_local_verification_result_to_gateway_identity`. -/
def basisLocalIdentity (result : BasisLocalTokenVerificationResult) : NormalizedSubject × IdentityContext :=
  let subjectData := match Json.get? "subject" result.canonicalIdentity with
    | some (.obj data) => data
    | _ => []
  let roles := match Json.get? "roles" subjectData with
    | some (.arr raw) => normalizeRoles raw
    | _ => []
  let name := match Json.get? "display_name" subjectData with
    | some (.str s) => if blank s then result.subjectId else s
    | _ => result.subjectId
  let attributes := match Json.get? "email" subjectData with
    | some (.str s) => if s = "" then [] else [("email", Json.str s)]
    | _ => []
  ({ subjectId := result.subjectId, name, roles, attributes },
    { issuer := result.issuer, subjectId := result.subjectId, claims := result.claims })

/-! ## Runtime authentication -/

/-- The verifier of each mode, when startup built it. -/
structure Verifiers where
  oidcVerifier : Option (String → Except PyExc Claims)
  basisLocalTrust : Option (String → Except PyExc BasisLocalTokenVerificationResult)

/-- `authenticate`. The mode is one of the two, so `UnsupportedAuthModeError` has no case. -/
def authenticate (verifiers : Verifiers) (authMode : AuthMode) (token : String) :
    Except PyExc (NormalizedSubject × IdentityContext) :=
  match authMode with
  | .oidc => match verifiers.oidcVerifier with
    | none => .error { cls := .authNotConfiguredError, msg := "OIDC verifier not initialized" }
    | some verify => do mapClaims (← verify token)
  | .basisLocalToken => match verifiers.basisLocalTrust with
    | none => .error { cls := .authNotConfiguredError,
                       msg := "BASIS-local token trust config not initialized" }
    | some verify => do return basisLocalIdentity (← verify token)

/-- `extract_bearer_token`. -/
def extractBearerToken : Option String → Except PyExc String
  | none => fail "Missing Authorization header"
  | some authorization =>
    if startsWith authorization "Bearer " = false then
      fail "Authorization header must use Bearer scheme: 'Authorization: Bearer <token>'"
    else
      let token := String.ofList (authorization.toList.drop 7)
      if token = "" then fail "Bearer token is empty"
      else if hasChar token ' ' ∨ hasChar token '\t' then fail "Bearer token contains invalid whitespace"
      else .ok token
where
  fail (msg : String) : Except PyExc String := .error { cls := .tokenExtractionError, msg }

/-! ## What authentication leaves -/

theorem mapClaims_subjectId {claims : Claims} {subject : NormalizedSubject} {context : IdentityContext}
    (h : mapClaims claims = .ok (subject, context)) : context.subjectId = subject.subjectId := by
  unfold mapClaims at h
  split at h
  next =>
    split at h
    next => cases h
    next =>
      cases h
      rfl
  next => cases h

/-- The pair authentication returns describes one caller. -/
theorem authenticate_subjectId {verifiers : Verifiers} {authMode : AuthMode} {token : String}
    {subject : NormalizedSubject} {context : IdentityContext}
    (h : authenticate verifiers authMode token = .ok (subject, context)) :
    context.subjectId = subject.subjectId := by
  unfold authenticate at h
  split at h
  next =>
    split at h
    next => cases h
    next verify _ =>
      rcases hv : verify token with exc | claims
      · rw [hv] at h; cases h
      · rw [hv] at h
        exact mapClaims_subjectId h
  next =>
    split at h
    next => cases h
    next verify _ =>
      rcases hv : verify token with exc | result
      · rw [hv] at h; cases h
      · rw [hv] at h
        cases h
        rfl

/-- Extraction raises one class. -/
theorem extractBearerToken_error {authorization : Option String} {exc : PyExc}
    (h : extractBearerToken authorization = .error exc) : exc.cls = .tokenExtractionError := by
  cases authorization with
  | none => cases h; rfl
  | some s =>
    simp only [extractBearerToken, extractBearerToken.fail] at h
    split at h
    next => cases h; rfl
    next =>
      split at h
      next => cases h; rfl
      next =>
        split at h
        next => cases h; rfl
        next => cases h

end BasisGateway
