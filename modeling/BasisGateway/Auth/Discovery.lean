/-
Where the keys of OIDC tokens come from (`auth/oidc.py`): discovery of the
JWKS URI, and the client that `OIDCVerifier.initialize()` makes of it.

`httpx` and `PyJWKClient` are parameters: what a request to a URL does.
-/
import BasisGateway.Auth.Jwt
import BasisGateway.Auth.TrustSettings

namespace BasisGateway

/-- The requests of startup. -/
structure Network (JWK : Type) where
  /-- `client.get(url)` with `raise_for_status()`, and then `response.json()`. -/
  get : String → Except PyExc (Except PyExc Json)
  /-- `isinstance(exc, httpx.HTTPError)`. -/
  httpError : PyExc → Bool
  /-- `PyJWKClient(uri, lifespan=…)`. -/
  pyJWKClient : String → Int → Except PyExc (PyJWKClient JWK)
  /-- `fetch_data()` of the client of this URI. -/
  fetchData : String → Except PyExc Unit

/-! ## Values of a document -/

/-- `bool(value)`. -/
def Json.truthy : Json → Bool
  | .null => false
  | .bool b => b
  | .int n => n ≠ 0
  | .float repr => repr ≠ "0.0" ∧ repr ≠ "-0.0"
  | .str s => s ≠ ""
  | .arr items => !items.isEmpty
  | .obj fields => !fields.isEmpty

/-- `str(value)`. -/
def pyStrJson (printable : Char → Bool) : Json → String
  | .str s => s
  | value => pyReprJson printable value

/-- `s.rstrip("/")`. -/
def rstripSlashes (s : String) : String := String.ofList (s.toList.rdropWhile (· = '/'))

/-! ## `_discover_jwks_uri` -/

def oidcDiscoveryError (msg : String) : PyExc := { cls := .oidcDiscoveryError, msg }

def discoveryUrl (issuer : String) : String := rstripSlashes issuer ++ "/.well-known/openid-configuration"

/-- `metadata.get` on what is no dictionary. -/
def noAttributeGet (metadata : Json) : PyExc :=
  { cls := .other "AttributeError", msg := "'" ++ metadata.typeName ++ "' object has no attribute 'get'" }

section

variable {JWK : Type} (network : Network JWK) (printable : Char → Bool)

/-- The document at the discovery URL, up to the end of the second `try`. -/
def fetchMetadata (issuer : String) : Except PyExc Json :=
  match network.get (discoveryUrl issuer) with
  | .error exc =>
    if network.httpError exc then
      .error (oidcDiscoveryError ("OIDC discovery request failed for issuer " ++ pyRepr printable issuer ++ ": " ++
        exc.msg))
    else .error exc
  | .ok json => json.mapError fun _ =>
      oidcDiscoveryError ("OIDC discovery response is not valid JSON for issuer " ++ pyRepr printable issuer)

/-- What follows the two `try`s. -/
def jwksUriOf (issuer : String) (metadata : Json) : Except PyExc String :=
  match metadata with
  | .obj fields =>
    match Json.get? "issuer" fields with
    | some (.str discovered) => if discovered ≠ issuer then mismatch (.str discovered) else named fields
    | some discovered => mismatch discovered
    | none => mismatch .null
  | _ => .error (noAttributeGet metadata)
where
  mismatch (discovered : Json) : Except PyExc String :=
    .error (oidcDiscoveryError ("OIDC issuer mismatch: configured " ++ pyRepr printable issuer ++ ", discovered " ++
      pyReprJson printable discovered))
  missing : Except PyExc String :=
    .error (oidcDiscoveryError ("OIDC discovery document for " ++ pyRepr printable issuer ++
      " is missing 'jwks_uri'"))
  named (fields : Claims) : Except PyExc String :=
    match Json.get? "jwks_uri" fields with
    | some value => if value.truthy = false then missing else .ok (pyStrJson printable value)
    | none => missing

/-- `_discover_jwks_uri`. -/
def discoverJwksUri (issuer : String) (overrideJwksUri : Option String) : Except PyExc String :=
  match overrideJwksUri with
  | some uri => if uri ≠ "" then .ok uri else discover
  | none => discover
where
  discover : Except PyExc String := do jwksUriOf printable issuer (← fetchMetadata network printable issuer)

/-! ## `OIDCVerifier` before its keys -/

/-- `OIDCVerifier`, as `from_config` returns it. -/
structure OIDCVerifierConfig where
  issuer : String
  audience : Option String
  jwksUriOverride : Option String
  cacheTtlSeconds : PositiveFloat

/-- `int(x)`. -/
def PositiveFloat.toInt : PositiveFloat → Except PyExc Int
  | .finite value _ => .ok value.floor
  | .infinity => .error { cls := .overflowError, msg := "cannot convert float infinity to integer" }
  | .nan => .error { cls := .valueError, msg := "cannot convert float NaN to integer" }

/-- The body of the `try` in `initialize`. -/
def fetchKeys (jwksUri : String) (cacheTtlSeconds : PositiveFloat) : Except PyExc (PyJWKClient JWK) := do
  let client ← network.pyJWKClient jwksUri (← cacheTtlSeconds.toInt)
  network.fetchData jwksUri
  return client

/-- `OIDCVerifier.initialize`: the verifier it leaves. Both its clauses do the same. -/
def OIDCVerifierConfig.initialized (verifier : OIDCVerifierConfig) : Except PyExc (OIDCVerifier JWK) := do
  let jwksUri ← discoverJwksUri network printable verifier.issuer verifier.jwksUriOverride
  let client ← (fetchKeys network jwksUri verifier.cacheTtlSeconds).mapError fun exc =>
    jwksFetchError ("Initial JWKS fetch failed: " ++ exc.msg)
  return { issuer := verifier.issuer, audience := verifier.audience, cache := some client }

end

/-! ## What is discovered -/

section

variable {JWK : Type} {network : Network JWK} {printable : Char → Bool}

/-- `base` is `issuer` without the slashes at its end. -/
def WithoutSlashes (issuer base : String) : Prop :=
  (∃ n, issuer.toList = base.toList ++ List.replicate n '/') ∧ base.toList.getLast? ≠ some '/'

/-- The URI of the keys: the override, or what the document of exactly this issuer names. -/
inductive Discovers (network : Network JWK) (printable : Char → Bool) (issuer : String) :
    Option String → String → Prop
  | override {uri : String} (hne : uri ≠ "") : Discovers network printable issuer (some uri) uri
  | document {override : Option String} {base : String} {fields : Claims} {value : Json}
      (hoff : truthy override = false) (hbase : WithoutSlashes issuer base)
      (hget : network.get (base ++ "/.well-known/openid-configuration") = .ok (.ok (.obj fields)))
      (hissuer : Json.get? "issuer" fields = some (.str issuer))
      (huri : Json.get? "jwks_uri" fields = some value) (htruthy : value.truthy = true) :
      Discovers network printable issuer override (pyStrJson printable value)

theorem rstripSlashes_eq_iff {issuer base : String} : rstripSlashes issuer = base ↔ WithoutSlashes issuer base := by
  rw [rstripSlashes, ← String.toList_inj, String.toList_ofList]
  constructor
  · intro h
    refine ⟨⟨(issuer.toList.rtakeWhile (· = '/')).length, ?_⟩, ?_⟩
    · have hslashes : ∀ c ∈ issuer.toList.rtakeWhile (· = '/'), c = '/' := by
        intro c hc
        simpa using List.mem_rtakeWhile_imp hc
      rw [← List.eq_replicate_of_mem hslashes, ← h, List.rdropWhile_append_rtakeWhile]
    · intro hlast
      have hne : issuer.toList.rdropWhile (· = '/') ≠ [] := by
        intro hnil
        rw [← h, hnil] at hlast
        cases hlast
      have hnot := List.rdropWhile_last_not (· = '/') issuer.toList hne
      rw [← h, List.getLast?_eq_some_getLast hne, Option.some.injEq] at hlast
      simp [hlast] at hnot
  · rintro ⟨⟨n, hissuer⟩, hlast⟩
    rw [hissuer]
    clear hissuer
    induction n with
    | zero =>
      rw [List.replicate_zero, List.append_nil, List.rdropWhile_eq_self_iff]
      intro hne
      rw [List.getLast?_eq_some_getLast hne] at hlast
      simpa using hlast
    | succ n ih =>
      rw [List.replicate_succ', ← List.append_assoc, List.rdropWhile_concat_pos _ _ _ (by simp)]
      exact ih

theorem fetchMetadata_eq_ok {issuer : String} {metadata : Json} :
    fetchMetadata network printable issuer = .ok metadata ↔
      network.get (discoveryUrl issuer) = .ok (.ok metadata) := by
  rw [fetchMetadata]
  cases hget : network.get (discoveryUrl issuer) with
  | error exc =>
    simp only [reduceCtorEq, iff_false]
    split <;> simp
  | ok json => simp only [Except.mapError_eq_ok, Except.ok.injEq]

theorem jwksUriOf_eq_ok {issuer uri : String} {metadata : Json} :
    jwksUriOf printable issuer metadata = .ok uri ↔ ∃ fields value, metadata = .obj fields ∧
      Json.get? "issuer" fields = some (.str issuer) ∧ Json.get? "jwks_uri" fields = some value ∧
      value.truthy = true ∧ pyStrJson printable value = uri := by
  cases metadata with
  | obj fields =>
    simp only [jwksUriOf, jwksUriOf.mismatch, Json.obj.injEq, exists_and_left, exists_eq_left']
    cases hissuer : Json.get? "issuer" fields with
    | none => simp
    | some discovered =>
      cases discovered with
      | str s =>
        simp only [Except.guard_eq_ok, not_not, Option.some.injEq, Json.str.injEq]
        refine and_congr_right fun _ => ?_
        rw [jwksUriOf.named, jwksUriOf.missing]
        cases huri : Json.get? "jwks_uri" fields with
        | none => simp
        | some value => simp [Except.guard_eq_ok]
      | _ => simp
  | _ => simp [jwksUriOf]

theorem discover_eq_ok {issuer uri : String} {override : Option String} (hoff : truthy override = false) :
    discoverJwksUri.discover network printable issuer = .ok uri ↔
      Discovers network printable issuer override uri := by
  rw [discoverJwksUri.discover, Except.bind_eq_ok]
  simp only [fetchMetadata_eq_ok, jwksUriOf_eq_ok]
  constructor
  · rintro ⟨_, hget, fields, value, rfl, hissuer, huri, htruthy, rfl⟩
    exact .document hoff (rstripSlashes_eq_iff.1 rfl) hget hissuer huri htruthy
  · intro h
    cases h with
    | override hne => simp [hne] at hoff
    | document _ hbase hget hissuer huri htruthy =>
      rw [← rstripSlashes_eq_iff.2 hbase] at hget
      exact ⟨_, hget, _, _, rfl, hissuer, huri, htruthy, rfl⟩

theorem discoverJwksUri_eq_ok {issuer uri : String} {override : Option String} :
    discoverJwksUri network printable issuer override = .ok uri ↔
      Discovers network printable issuer override uri := by
  cases override with
  | none => exact discover_eq_ok rfl
  | some given =>
    by_cases hgiven : given = ""
    · subst hgiven
      exact discover_eq_ok rfl
    · simp only [discoverJwksUri, ne_eq, hgiven, not_false_eq_true, if_true, Except.ok.injEq]
      constructor
      · rintro rfl
        exact .override hgiven
      · intro h
        cases h with
        | override hne => rfl
        | document hoff => simp [hgiven] at hoff

end

end BasisGateway
