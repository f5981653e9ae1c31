/-
What BASIS-local verification accepts: `Trusted` says it of the token and its
payload, and a result is returned exactly on the trusted ones, with the
payload's own claims in it.

Each stage has one lemma, what it is for that stage to pass.
-/
import BasisGateway.Auth.BasisLocalToken
import BasisGateway.Lib.Separators

namespace BasisGateway

/-- A JSON number; a boolean is none. -/
def Json.IsNumber : Json → Prop
  | .int _ | .float _ => True
  | _ => False

namespace BasisLocalToken

variable {JWK DateTime : Type} {lib : TokenLibrary JWK DateTime} {trust : BasisLocalTokenTrustConfig lib.tables}
  {token : String} {payload : Claims}

/-! ## What is accepted -/

/-- A header the configuration accepts, with the algorithm and the key it selects. -/
structure AcceptedHeader {tables : UnicodeTables} (trust : BasisLocalTokenTrustConfig tables) (header : Claims)
    (alg publicKeyPem : String) : Prop where
  kid : ∃ kid, Json.get? "kid" header = some (.str kid) ∧ blank kid = false ∧
    (strip kid, .str publicKeyPem) ∈ trust.publicKeysById.entries
  algorithm : ∃ value, Json.get? "alg" header = some (.str value) ∧ blank value = false ∧ strip value = alg
  asymmetric : Asymmetric tables alg
  allowed : alg ∈ trust.allowedAlgorithms

/-- The call has the whole of `token` verified: its signature under this one key by this one algorithm, and every
standard claim against the configuration. -/
structure AsksVerification {tables : UnicodeTables} (trust : BasisLocalTokenTrustConfig tables)
    (token alg publicKeyPem : String) (call : DecodeCall JWK) : Prop where
  token : call.token = token
  key : call.key = .pem publicKeyPem
  algorithms : call.algorithms = [alg]
  audience : call.audience = .any trust.audience
  issuer : call.issuer = trust.issuer
  leeway : call.leeway = trust.leewaySeconds
  options : call.options =
    [("require", .arr [.str "exp", .str "iss", .str "aud", .str "sub", .str "iat", .str "jti"]),
      ("verify_signature", .bool true), ("verify_exp", .bool true), ("verify_nbf", .bool true),
      ("verify_iat", .bool true), ("verify_aud", .bool true), ("verify_iss", .bool true)]

/-- `keys` are what stands between the dots of `path`. -/
def Dotted (path : String) (keys : List String) : Prop :=
  Separators.Parts '.' path.toList (keys.map String.toList)

/-- The keys of `path` lead through nested objects to a value that is not null. -/
def Resolves (payload : Claims) (path : String) : Prop :=
  ∃ keys value, Dotted path keys ∧ Json.At keys (.obj payload) value ∧ value ≠ .null

/-- The claims that must be strings with something in them. -/
def textClaims : List (List String) :=
  [["iss"], ["sub"], ["jti"], ["typ"], ["basis", "session_id"], ["basis", "provider_id"],
    ["basis", "authority_mode"], ["basis", "authentication_protocol"]]

/-- A string with something in it at `path`. -/
def TextAt (payload : Claims) (path : List String) (text : String) : Prop :=
  Json.At path (.obj payload) (.str text) ∧ blank text = false

/-- A number under `key` that converts to the time `t`. -/
def TimeAt (lib : TokenLibrary JWK DateTime) (payload : Claims) (key : String) (t : DateTime) : Prop :=
  ∃ value, Json.get? key payload = some value ∧ value.IsNumber ∧ lib.fromTimestamp value = .ok t

/-- The `aud` claim, one string or a list, has these entries. -/
def AudienceIs (payload : Claims) (entries : List Json) : Prop :=
  (∃ audience, Json.get? "aud" payload = some (.str audience) ∧ entries = [.str audience]) ∨
  Json.get? "aud" payload = some (.arr entries)

/-- `payload` is the payload of `token`, signed under a configured key by an allowed algorithm, and an
identity and nothing but an identity. -/
structure Trusted (lib : TokenLibrary JWK DateTime) (trust : BasisLocalTokenTrustConfig lib.tables)
    (token : String) (payload : Claims) : Prop where
  nonblank : blank token = false
  signed : ∃ header alg publicKeyPem, lib.jwt.getUnverifiedHeader token = .ok header ∧
    AcceptedHeader trust header alg publicKeyPem ∧
    ∃ call, AsksVerification trust token alg publicKeyPem call ∧ lib.jwt.decode call = .ok payload
  required : ∀ path ∈ trust.requiredClaims, Resolves payload path
  tokenType : Json.get? "typ" payload = some (.str "basis-local-identity")
  issuedAt : ∃ t, TimeAt lib payload "iat" t
  expiresAt : ∃ t, TimeAt lib payload "exp" t
  audience : ∃ entries, AudienceIs payload entries ∧ entries ≠ []
  texts : ∀ path ∈ textClaims, ∃ text, TextAt payload path text
  identity : ∃ fields, Json.At ["basis", "canonical_identity"] (.obj payload) (.obj fields)
  identityOnly : ∀ key, Json.HasKey key (.obj payload) →
    key = "allowed_algorithms" ∨ ¬ NamesAuthorization lib.tables key

/-- Every field of `result` is the claim of `payload` it is named after. -/
structure Carries (payload : Claims) (result : VerifiedBasisLocalToken) : Prop where
  subjectId : Json.At ["sub"] (.obj payload) (.str result.subjectId)
  issuer : Json.At ["iss"] (.obj payload) (.str result.issuer)
  audience : AudienceIs payload result.audience
  tokenId : Json.At ["jti"] (.obj payload) (.str result.tokenId)
  tokenType : Json.At ["typ"] (.obj payload) (.str result.tokenType)
  sessionId : Json.At ["basis", "session_id"] (.obj payload) (.str result.sessionId)
  providerId : Json.At ["basis", "provider_id"] (.obj payload) (.str result.providerId)
  authorityMode : Json.At ["basis", "authority_mode"] (.obj payload) (.str result.authorityMode)
  authenticationProtocol :
    Json.At ["basis", "authentication_protocol"] (.obj payload) (.str result.authenticationProtocol)
  canonicalIdentity : Json.At ["basis", "canonical_identity"] (.obj payload) (.obj result.canonicalIdentity)
  claims : result.claims = payload

/-! ## The header -/

section

variable {tables : UnicodeTables} {trust : BasisLocalTokenTrustConfig tables} {header : Claims}

theorem headerText_eq_ok {name missing text : String} :
    headerText header name missing = .ok text ↔
      ∃ value, Json.get? name header = some (.str value) ∧ blank value = false ∧ strip value = text := by
  rw [headerText]
  split
  next value hget =>
    rw [Except.guard_eq_ok, Bool.not_eq_true, hget]
    simp
  next hother =>
    constructor
    · intro h; cases h
    · rintro ⟨value, hget, -⟩
      exact absurd hget (hother value)

theorem requireAcceptedAlgorithm_eq_ok {alg : String} {u : Unit} :
    requireAcceptedAlgorithm tables trust alg = .ok u ↔ Asymmetric tables alg ∧ alg ∈ trust.allowedAlgorithms := by
  rw [requireAcceptedAlgorithm, Except.guard_eq_ok, Except.guard_eq_ok, Except.guard_eq_ok, Bool.not_eq_true,
    not_not, Asymmetric, and_assoc]
  simp

theorem selectPublicKey_eq_ok {kid publicKeyPem : String} :
    selectPublicKey tables trust kid = .ok publicKeyPem ↔
      (kid, .str publicKeyPem) ∈ trust.publicKeysById.entries := by
  rw [selectPublicKey, ← OrderedDict.get?_eq_some_iff, BasisLocalTokenTrustConfig.publicKey]
  rcases trust.publicKeysById.get? kid with - | key
  · simp
  · cases key <;> simp

theorem acceptHeader_eq_ok {alg publicKeyPem : String} :
    acceptHeader tables trust header = .ok (alg, publicKeyPem) ↔ AcceptedHeader trust header alg publicKeyPem := by
  simp only [acceptHeader, Except.bind_eq_ok, Except.pure_eq_ok, headerText_eq_ok, selectPublicKey_eq_ok,
    requireAcceptedAlgorithm_eq_ok, Prod.mk.injEq]
  constructor
  · rintro ⟨_, ⟨kid, hkid, hkid', rfl⟩, _, halg, ⟨⟩, ⟨hasymmetric, hallowed⟩, _, hkey, rfl, rfl⟩
    exact ⟨⟨kid, hkid, hkid', hkey⟩, halg, hasymmetric, hallowed⟩
  · rintro ⟨⟨kid, hkid, hkid', hkey⟩, halg, hasymmetric, hallowed⟩
    exact ⟨_, ⟨kid, hkid, hkid', rfl⟩, _, halg, (), ⟨hasymmetric, hallowed⟩, _, hkey, rfl, rfl⟩

/-- The call that is made is the one that asks for the whole verification. -/
theorem asksVerification_iff {alg publicKeyPem : String} {call : DecodeCall JWK} :
    AsksVerification trust token alg publicKeyPem call ↔ decodeCall trust token alg publicKeyPem = call := by
  constructor
  · intro h
    obtain ⟨callToken, key, algorithms, audience, issuer, leeway, options⟩ := call
    obtain ⟨rfl, rfl, rfl, rfl, rfl, rfl, rfl⟩ := h
    rfl
  · rintro rfl
    exact ⟨rfl, rfl, rfl, rfl, rfl, rfl, rfl⟩

end

/-! ## The payload -/

theorem dotted_iff {path : String} {keys : List String} : Dotted path keys ↔ splitDots path = keys := by
  have hmap : ∀ parts : List (List Char), (parts.map String.ofList).map String.toList = parts := by
    intro parts
    simp [Function.comp_def]
  constructor
  · intro h
    rw [splitDots, h.splitOn_eq, List.map_map]
    simp [Function.comp_def]
  · rintro rfl
    rw [Dotted, splitDots, hmap]
    exact Separators.parts_splitOn '.' path.toList

theorem claimPathPresent_iff {path : String} : claimPathPresent payload path = true ↔ Resolves payload path := by
  simp only [Resolves, dotted_iff, exists_and_left, exists_eq_left', ← Json.walk_eq_some_iff, claimPathPresent]
  split
  next h => simp [h]
  next h => simp [h]
  next value hnull h => exact iff_of_true rfl ⟨value, h, fun hv => hnull hv⟩

theorem requireClaimPaths_eq_ok {tables : UnicodeTables} {paths : List String} :
    requireClaimPaths tables paths payload = .ok () ↔ ∀ path ∈ paths, Resolves payload path := by
  simp only [← claimPathPresent_iff]
  rw [requireClaimPaths, Except.guard_eq_ok, not_not, List.filter_eq_nil_iff]
  simp

theorem requireTokenType_eq_ok {tables : UnicodeTables} : requireTokenType tables payload = .ok () ↔
    Json.get? "typ" payload = some (.str "basis-local-identity") := by
  rw [requireTokenType, basisLocalIdentityTokenType]
  split
  next tokenType h =>
    rw [h]
    split
    next heq => simp [heq]
    next hne => simp [requireTokenType.unexpected, hne]
  next value hother h =>
    rw [h]
    simp only [requireTokenType.unexpected, reduceCtorEq, Option.some.injEq, false_iff]
    exact hother _
  next h => simp [requireTokenType.unexpected, h]

theorem subscript_eq_ok {key : String} {value : Json} :
    subscript payload key = .ok value ↔ Json.get? key payload = some value := by
  rw [subscript]
  cases Json.get? key payload with
  | none => simp
  | some v => simp

theorem requireObject_eq_ok {name : String} {value : Json} {fields : Claims} :
    requireObject name value = .ok fields ↔ value = .obj fields := by
  cases value <;> simp [requireObject]

theorem requireText_eq_ok {label text : String} {value : Json} :
    requireText label value = .ok text ↔ value = .str text ∧ blank text = false := by
  cases value with
  | str s =>
    rw [requireText]
    cases hb : blank s with
    | true =>
      simp only [requireText.fail, if_true, reduceCtorEq, Json.str.injEq, false_iff, not_and]
      rintro rfl
      simp [hb]
    | false =>
      simp only [Bool.false_eq_true, if_false, Except.ok.injEq, Json.str.injEq]
      exact ⟨fun h => ⟨h, h ▸ hb⟩, And.left⟩
  | _ => simp [requireText, requireText.fail]

theorem timestampToDatetime_eq_ok {fieldName : String} {value : Json} {t : DateTime} :
    timestampToDatetime lib fieldName value = .ok t ↔ value.IsNumber ∧ lib.fromTimestamp value = .ok t := by
  cases value <;> simp [timestampToDatetime, Json.IsNumber]

theorem audienceEntries_eq_ok {entries : List Json} :
    (∃ value, Json.get? "aud" payload = some value ∧ audienceEntries value = .ok entries) ↔
      AudienceIs payload entries := by
  constructor
  · rintro ⟨value, hget, h⟩
    cases value with
    | str audience => cases h; exact .inl ⟨audience, hget, rfl⟩
    | arr audiences => cases h; exact .inr hget
    | _ => cases h
  · rintro (⟨audience, hget, rfl⟩ | hget)
    · exact ⟨_, hget, rfl⟩
    · exact ⟨_, hget, rfl⟩

/-- The claims of a payload that has them all. -/
structure ReadsAs (lib : TokenLibrary JWK DateTime) (payload : Claims) (claims : BasisLocalTokenClaims DateTime) :
    Prop where
  issuer : TextAt payload ["iss"] claims.issuer
  subjectId : TextAt payload ["sub"] claims.subjectId
  tokenId : TextAt payload ["jti"] claims.tokenId
  tokenType : TextAt payload ["typ"] claims.tokenType
  audience : AudienceIs payload claims.audience
  issuedAt : TimeAt lib payload "iat" claims.issuedAt
  expiresAt : TimeAt lib payload "exp" claims.expiresAt
  sessionId : TextAt payload ["basis", "session_id"] claims.sessionId
  providerId : TextAt payload ["basis", "provider_id"] claims.providerId
  authorityMode : TextAt payload ["basis", "authority_mode"] claims.authorityMode
  authenticationProtocol : TextAt payload ["basis", "authentication_protocol"] claims.authenticationProtocol
  canonicalIdentity : Json.At ["basis", "canonical_identity"] (.obj payload) (.obj claims.canonicalIdentity)
  rawClaims : claims.rawClaims = payload

theorem textAt_claim {key text : String} {value : Json} (hget : Json.get? key payload = some value)
    (hvalue : value = .str text ∧ blank text = false) : TextAt payload [key] text := by
  obtain ⟨rfl, hblank⟩ := hvalue
  exact ⟨Json.at_one_iff.2 hget, hblank⟩

theorem textAt_basis {key text : String} {basis : Claims} {value : Json}
    (hbasis : Json.get? "basis" payload = some (.obj basis)) (hget : Json.get? key basis = some value)
    (hvalue : value = .str text ∧ blank text = false) : TextAt payload ["basis", key] text := by
  obtain ⟨rfl, hblank⟩ := hvalue
  exact ⟨Json.at_two_iff.2 ⟨basis, hbasis, hget⟩, hblank⟩

theorem readClaims_eq_ok {claims : BasisLocalTokenClaims DateTime} :
    readClaims lib payload = .ok claims ↔ ReadsAs lib payload claims := by
  simp only [readClaims, Except.bind_eq_ok, Except.pure_eq_ok, subscript_eq_ok, requireObject_eq_ok,
    requireText_eq_ok, timestampToDatetime_eq_ok]
  constructor
  · rintro ⟨_, hbasis, basis, rfl, _, hiss, _, hsub, _, hjti, _, htyp, aud, haud, entries, hentries,
      iat, hiat, issuedAt, hissuedAt, exp, hexp, expiresAt, hexpiresAt, _, hsession, _, hprovider, _, hmode,
      _, hprotocol, _, hidentity, fields, hfields, iss, hiss', sub, hsub', jti, hjti', typ, htyp',
      session, hsession', provider, hprovider', mode, hmode', protocol, hprotocol', hclaims⟩
    rw [hfields] at hidentity
    rw [← hclaims]
    exact {
      issuer := textAt_claim hiss hiss'
      subjectId := textAt_claim hsub hsub'
      tokenId := textAt_claim hjti hjti'
      tokenType := textAt_claim htyp htyp'
      audience := audienceEntries_eq_ok.1 ⟨aud, haud, hentries⟩
      issuedAt := ⟨iat, hiat, hissuedAt⟩
      expiresAt := ⟨exp, hexp, hexpiresAt⟩
      sessionId := textAt_basis hbasis hsession hsession'
      providerId := textAt_basis hbasis hprovider hprovider'
      authorityMode := textAt_basis hbasis hmode hmode'
      authenticationProtocol := textAt_basis hbasis hprotocol hprotocol'
      canonicalIdentity := Json.at_two_iff.2 ⟨basis, hbasis, hidentity⟩
      rawClaims := rfl }
  · intro h
    obtain ⟨basis, hbasis, hidentity⟩ := Json.at_two_iff.1 h.canonicalIdentity
    -- the other claims below `basis` stand in the object that holds the canonical identity
    have below : ∀ {key text}, TextAt payload ["basis", key] text → Json.get? key basis = some (.str text) := by
      intro key text htext
      obtain ⟨basis', hbasis', hget⟩ := Json.at_two_iff.1 htext.1
      cases hbasis.symm.trans hbasis'
      exact hget
    obtain ⟨aud, haud, hentries⟩ := audienceEntries_eq_ok.2 h.audience
    obtain ⟨iat, hiat, hissuedAt⟩ := h.issuedAt
    obtain ⟨exp, hexp, hexpiresAt⟩ := h.expiresAt
    exact ⟨_, hbasis, basis, rfl, _, Json.at_one_iff.1 h.issuer.1, _, Json.at_one_iff.1 h.subjectId.1, _,
      Json.at_one_iff.1 h.tokenId.1, _, Json.at_one_iff.1 h.tokenType.1, aud, haud, _, hentries, iat, hiat, _,
      hissuedAt, exp, hexp, _, hexpiresAt, _, below h.sessionId, _, below h.providerId, _,
      below h.authorityMode, _, below h.authenticationProtocol, _, hidentity, _, rfl,
      _, ⟨rfl, h.issuer.2⟩, _, ⟨rfl, h.subjectId.2⟩, _, ⟨rfl, h.tokenId.2⟩, _, ⟨rfl, h.tokenType.2⟩,
      _, ⟨rfl, h.sessionId.2⟩, _, ⟨rfl, h.providerId.2⟩, _, ⟨rfl, h.authorityMode.2⟩,
      _, ⟨rfl, h.authenticationProtocol.2⟩, by rw [← h.rawClaims]⟩

/-! ## The result -/

theorem assertNoAuthorizationShapedKeys_eq_ok {tables : UnicodeTables} {data : Json} {u : Unit} :
    assertNoAuthorizationShapedKeys tables data = .ok u ↔
      ∀ key, Json.HasKey key data → key = "allowed_algorithms" ∨ ¬ NamesAuthorization tables key := by
  have hkey : ∀ key, rejectAuthorizationShapedKey tables key = .ok () ↔
      key = "allowed_algorithms" ∨ ¬ NamesAuthorization tables key := by
    intro key
    rw [rejectAuthorizationShapedKey, Except.guard_eq_ok, authorizationScanExemptKeys, List.mem_singleton,
      not_and_or, not_not, authorizationShaped_iff]
    simp
  cases u
  simp only [assertNoAuthorizationShapedKeys, Json.forKeys_eq_ok, hkey]

-- the exempt key exempts itself, not what stands below it
example : (assertNoAuthorizationShapedKeys asciiTables
      (.obj [("allowed_algorithms", .arr [.str "RS256"])])).isOk = true ∧
    (assertNoAuthorizationShapedKeys asciiTables
      (.obj [("allowed_algorithms", .arr [.obj [("Decision", .null)]])])).isOk = false := by
  decide +kernel

/-- On the claims of a payload, the result's own checks are those of the audience and of the keys: the
strings have been checked, and the canonical identity lies in the payload. -/
theorem postInit_eq_ok {claims : BasisLocalTokenClaims DateTime} {u : Unit} (h : ReadsAs lib payload claims) :
    postInit lib.tables (resultOf claims) = .ok u ↔ claims.audience ≠ [] ∧
      ∀ key, Json.HasKey key (.obj payload) →
        key = "allowed_algorithms" ∨ ¬ NamesAuthorization lib.tables key := by
  have htexts : forM [("subject_id", claims.subjectId), ("issuer", claims.issuer), ("token_id", claims.tokenId),
      ("token_type", claims.tokenType), ("session_id", claims.sessionId), ("provider_id", claims.providerId),
      ("authority_mode", claims.authorityMode), ("authentication_protocol", claims.authenticationProtocol)]
      requireNonEmpty = .ok () := by
    rw [Except.forM_eq_ok]
    simp [requireNonEmpty, h.subjectId.2, h.issuer.2, h.tokenId.2, h.tokenType.2, h.sessionId.2, h.providerId.2,
      h.authorityMode.2, h.authenticationProtocol.2]
  have haudience : postInit.requireAudience (resultOf claims) = .ok () ↔ claims.audience ≠ [] := by
    rw [postInit.requireAudience, Except.guard_eq_ok, List.isEmpty_iff]
    simp [resultOf]
  have hidentity : ∀ key, Json.HasKey key (.obj claims.canonicalIdentity) → Json.HasKey key (.obj payload) :=
    fun key hkey => .of_at h.canonicalIdentity hkey
  have hclaims : (resultOf claims).claims = payload := h.rawClaims
  rw [postInit, Except.check_bind_eq_ok, Except.check_bind_eq_ok, Except.check_bind_eq_ok, haudience,
    hclaims]
  simp only [assertNoAuthorizationShapedKeys_eq_ok]
  constructor
  · rintro ⟨-, hne, -, hkeys⟩
    exact ⟨hne, hkeys⟩
  · rintro ⟨hne, hkeys⟩
    exact ⟨htexts, hne, fun key hkey => hkeys key (hidentity key hkey), hkeys⟩

/-- The claims and the result of one payload say the same. -/
theorem carries_resultOf {claims : BasisLocalTokenClaims DateTime} (h : ReadsAs lib payload claims) :
    Carries payload (resultOf claims) where
  subjectId := h.subjectId.1
  issuer := h.issuer.1
  audience := h.audience
  tokenId := h.tokenId.1
  tokenType := h.tokenType.1
  sessionId := h.sessionId.1
  providerId := h.providerId.1
  authorityMode := h.authorityMode.1
  authenticationProtocol := h.authenticationProtocol.1
  canonicalIdentity := h.canonicalIdentity
  claims := h.rawClaims

/-! ## The verification -/

/-- A payload is at one value for each path. -/
theorem at_unique {path : List String} {j v w : Json} (hv : Json.At path j v) (hw : Json.At path j w) : v = w :=
  Option.some.inj ((Json.walk_eq_some_iff.2 hv).symm.trans (Json.walk_eq_some_iff.2 hw))

theorem audienceIs_unique {entries entries' : List Json} (h : AudienceIs payload entries)
    (h' : AudienceIs payload entries') : entries = entries' := by
  rcases h with ⟨_, hget, rfl⟩ | hget <;> rcases h' with ⟨_, hget', rfl⟩ | hget'
  · cases hget.symm.trans hget'; rfl
  · cases hget.symm.trans hget'
  · cases hget.symm.trans hget'
  · cases hget.symm.trans hget'; rfl

/-- A payload determines the result that carries it. -/
theorem Carries.unique {result result' : VerifiedBasisLocalToken} (h : Carries payload result)
    (h' : Carries payload result') : result = result' := by
  obtain ⟨⟨subjectId, issuer, canonicalIdentity, claims⟩, audience, tokenId, tokenType, sessionId, providerId,
    authorityMode, authenticationProtocol⟩ := result
  obtain ⟨⟨subjectId', issuer', canonicalIdentity', claims'⟩, audience', tokenId', tokenType', sessionId',
    providerId', authorityMode', authenticationProtocol'⟩ := result'
  cases at_unique h.subjectId h'.subjectId
  cases at_unique h.issuer h'.issuer
  cases at_unique h.tokenId h'.tokenId
  cases at_unique h.tokenType h'.tokenType
  cases at_unique h.sessionId h'.sessionId
  cases at_unique h.providerId h'.providerId
  cases at_unique h.authorityMode h'.authorityMode
  cases at_unique h.authenticationProtocol h'.authenticationProtocol
  cases at_unique h.canonicalIdentity h'.canonicalIdentity
  cases audienceIs_unique h.audience h'.audience
  cases h.claims.trans h'.claims.symm
  rfl

/-- The claims of a trusted payload can be read. -/
theorem Trusted.reads (h : Trusted lib trust token payload) :
    ∃ claims, ReadsAs lib payload claims ∧ claims.audience ≠ [] := by
  obtain ⟨issuedAt, hissuedAt⟩ := h.issuedAt
  obtain ⟨expiresAt, hexpiresAt⟩ := h.expiresAt
  obtain ⟨audience, haudience, hne⟩ := h.audience
  obtain ⟨issuer, hissuer⟩ := h.texts ["iss"] (by decide)
  obtain ⟨subjectId, hsubjectId⟩ := h.texts ["sub"] (by decide)
  obtain ⟨tokenId, htokenId⟩ := h.texts ["jti"] (by decide)
  obtain ⟨tokenType, htokenType⟩ := h.texts ["typ"] (by decide)
  obtain ⟨sessionId, hsessionId⟩ := h.texts ["basis", "session_id"] (by decide)
  obtain ⟨providerId, hproviderId⟩ := h.texts ["basis", "provider_id"] (by decide)
  obtain ⟨authorityMode, hauthorityMode⟩ := h.texts ["basis", "authority_mode"] (by decide)
  obtain ⟨authenticationProtocol, hprotocol⟩ := h.texts ["basis", "authentication_protocol"] (by decide)
  obtain ⟨canonicalIdentity, hidentity⟩ := h.identity
  exact ⟨⟨issuer, subjectId, audience, issuedAt, expiresAt, tokenId, tokenType, sessionId, providerId,
    authorityMode, authenticationProtocol, canonicalIdentity, payload⟩,
    ⟨hissuer, hsubjectId, htokenId, htokenType, haudience, hissuedAt, hexpiresAt, hsessionId, hproviderId,
      hauthorityMode, hprotocol, hidentity, rfl⟩, hne⟩

theorem ReadsAs.texts {claims : BasisLocalTokenClaims DateTime} (h : ReadsAs lib payload claims) :
    ∀ path ∈ textClaims, ∃ text, TextAt payload path text := by
  simp only [textClaims, List.forall_mem_cons, List.not_mem_nil, false_imp_iff, implies_true, and_true]
  exact ⟨⟨_, h.issuer⟩, ⟨_, h.subjectId⟩, ⟨_, h.tokenId⟩, ⟨_, h.tokenType⟩, ⟨_, h.sessionId⟩, ⟨_, h.providerId⟩,
    ⟨_, h.authorityMode⟩, ⟨_, h.authenticationProtocol⟩⟩

theorem requireToken_eq_ok {u : Unit} : requireToken token = .ok u ↔ blank token = false := by
  rw [requireToken, Except.guard_eq_ok, Bool.not_eq_true]
  simp

/-- Verification returns the result that carries a trusted payload, and nothing else. -/
theorem verifyBasisLocalIdentityToken_eq_ok {result : VerifiedBasisLocalToken} :
    verifyBasisLocalIdentityToken lib trust token = .ok result ↔
      ∃ payload, Trusted lib trust token payload ∧ Carries payload result := by
  rw [verifyBasisLocalIdentityToken, Except.check_bind_eq_ok, requireToken_eq_ok]
  simp only [Except.bind_eq_ok, Except.mapError_eq_ok, Except.pure_eq_ok, basisLocalClaimsFromVerifiedPayload,
    readClaims_eq_ok, resultFromClaims]
  constructor
  · rintro ⟨nonblank, header, hheader, ⟨alg, publicKeyPem⟩, haccept, payload, hdecode, _, hpaths, _, htype, claims,
      hread, _, hpost, rfl⟩
    obtain ⟨hne, identityOnly⟩ := (postInit_eq_ok hread).1 hpost
    refine ⟨payload, ?_, carries_resultOf hread⟩
    exact {
      nonblank
      signed := ⟨header, alg, publicKeyPem, hheader, acceptHeader_eq_ok.1 haccept, _, asksVerification_iff.2 rfl,
        hdecode⟩
      required := requireClaimPaths_eq_ok.1 hpaths
      tokenType := requireTokenType_eq_ok.1 htype
      issuedAt := ⟨_, hread.issuedAt⟩
      expiresAt := ⟨_, hread.expiresAt⟩
      audience := ⟨_, hread.audience, hne⟩
      texts := hread.texts
      identity := ⟨_, hread.canonicalIdentity⟩
      identityOnly }
  · rintro ⟨payload, htrusted, hcarries⟩
    obtain ⟨header, alg, publicKeyPem, hheader, haccept, call, hcall, hdecode⟩ := htrusted.signed
    rw [← asksVerification_iff.1 hcall] at hdecode
    obtain ⟨claims, hread, hne⟩ := htrusted.reads
    exact ⟨htrusted.nonblank, header, hheader, (alg, publicKeyPem), acceptHeader_eq_ok.2 haccept, payload, hdecode,
      (), requireClaimPaths_eq_ok.2 htrusted.required, (), requireTokenType_eq_ok.2 htrusted.tokenType, claims,
      hread, (), (postInit_eq_ok hread).2 ⟨hne, htrusted.identityOnly⟩, (carries_resultOf hread).unique hcarries⟩

/-- **Verification is sound and exact.** It returns a result if and only if the token has a trusted payload,
and the result it returns has that payload's own claims in every field. -/
theorem basis_local_verification_exact (lib : TokenLibrary JWK DateTime)
    (trust : BasisLocalTokenTrustConfig lib.tables) (token : String) :
    ((∃ result, verifyBasisLocalIdentityToken lib trust token = .ok result) ↔
      ∃ payload, Trusted lib trust token payload) ∧
    ∀ result, verifyBasisLocalIdentityToken lib trust token = .ok result ↔
      ∃ payload, Trusted lib trust token payload ∧ Carries payload result := by
  refine ⟨⟨?_, ?_⟩, fun result => verifyBasisLocalIdentityToken_eq_ok⟩
  · rintro ⟨result, h⟩
    obtain ⟨payload, htrusted, -⟩ := verifyBasisLocalIdentityToken_eq_ok.1 h
    exact ⟨payload, htrusted⟩
  · rintro ⟨payload, htrusted⟩
    obtain ⟨claims, hread, -⟩ := htrusted.reads
    exact ⟨resultOf claims, verifyBasisLocalIdentityToken_eq_ok.2 ⟨payload, htrusted, carries_resultOf hread⟩⟩

/-- The claims of an operator's token that expires with the year 9999. -/
def operatorPayload : Claims :=
  [("iss", .str "basis-identity"), ("sub", .str "operator"), ("aud", .arr [.str "basis-gateway"]),
    ("iat", .int 1750000000), ("exp", .int 253402300799), ("jti", .str "token-1"),
    ("typ", .str "basis-local-identity"),
    ("basis", .obj [("session_id", .str "session-1"), ("provider_id", .str "local"), ("authority_mode", .str "local"),
      ("authentication_protocol", .str "password"),
      ("canonical_identity", .obj [("subject", .obj [("roles", .arr [.str "viewer"])])])])]

/-- A header that names RS256 and `key-1`, these claims, and a signature segment. -/
def operatorToken : String :=
  "eyJhbGciOiJSUzI1NiIsImtpZCI6ImtleS0xIn0." ++
    ("eyJpc3MiOiJiYXNpcy1pZGVudGl0eSIsInN1YiI6Im9wZXJhdG9yIiwiYXVkIjpbImJhc2lzLWdhdGV3YXkiXSwi" ++
     "aWF0IjoxNzUwMDAwMDAwLCJleHAiOjI1MzQwMjMwMDc5OSwianRpIjoidG9rZW4tMSIsInR5cCI6ImJhc2lzLWxv" ++
     "Y2FsLWlkZW50aXR5IiwiYmFzaXMiOnsic2Vzc2lvbl9pZCI6InNlc3Npb24tMSIsInByb3ZpZGVyX2lkIjoibG9j" ++
     "YWwiLCJhdXRob3JpdHlfbW9kZSI6ImxvY2FsIiwiYXV0aGVudGljYXRpb25fcHJvdG9jb2wiOiJwYXNzd29yZCIs" ++
     "ImNhbm9uaWNhbF9pZGVudGl0eSI6eyJzdWJqZWN0Ijp7InJvbGVzIjpbInZpZXdlciJdfX19fQ.c2ln")

/-- PyJWT on this token, which is signed by RS256 under the one key of the configuration. -/
def operatorJwt : PyJWT Unit where
  getUnverifiedHeader token :=
    if token = operatorToken then .ok [("alg", .str "RS256"), ("kid", .str "key-1")]
    else .error { cls := .decodeError, msg := "Not enough segments" }
  decode call :=
    match call.key with
    | .pem text =>
      if call.token = operatorToken ∧ call.algorithms = ["RS256"] ∧ text = "-----BEGIN PUBLIC KEY-----" then
        .ok operatorPayload
      else .error { cls := .invalidSignatureError, msg := "Signature verification failed" }
    | .jwk () => .error { cls := .invalidKeyError, msg := "Could not parse the provided public key." }
  claim _ := ""

def operatorLibrary : TokenLibrary Unit Int where
  jwt := operatorJwt
  tables := asciiTables
  fromTimestamp value :=
    match value with
    | .int seconds => .ok seconds
    | _ => .error { cls := .valueError, msg := "not an integer" }

theorem operatorJwt_decode_eq_ok {call : DecodeCall Unit} {payload : Claims}
    (h : operatorJwt.decode call = .ok payload) : payload = operatorPayload := by
  rw [operatorJwt] at h
  dsimp only at h
  split at h
  next text hkey =>
    split at h
    next hsigned => exact (Except.ok.inj h).symm
    next => cases h
  next => cases h

/-- The theorem at this token, which is accepted. -/
theorem basis_local_verification_exact_operator : ∃ result,
    verifyBasisLocalIdentityToken operatorLibrary singleKeyTrust operatorToken = .ok result ∧
    Trusted operatorLibrary singleKeyTrust operatorToken operatorPayload ∧ Carries operatorPayload result := by
  have hpresent : blank operatorToken = false := not_blank_append (by decide) _
  have haccepted : (verifyBasisLocalIdentityToken operatorLibrary singleKeyTrust operatorToken).isOk = true := by
    unfold verifyBasisLocalIdentityToken
    rw [requireToken, hpresent]
    decide +kernel
  cases h : verifyBasisLocalIdentityToken operatorLibrary singleKeyTrust operatorToken with
  | error exc =>
    rw [h] at haccepted
    cases haccepted
  | ok result =>
    obtain ⟨payload, htrusted, hcarries⟩ :=
      ((basis_local_verification_exact operatorLibrary singleKeyTrust operatorToken).2 result).1 h
    obtain ⟨_, _, _, _, _, call, _, hdecode⟩ := htrusted.signed
    obtain rfl : payload = operatorPayload := operatorJwt_decode_eq_ok hdecode
    exact ⟨result, rfl, htrusted, hcarries⟩

end BasisLocalToken

end BasisGateway
