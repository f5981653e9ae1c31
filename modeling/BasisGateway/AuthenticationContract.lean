/-
The error contract of `authenticate` (`auth/runtime.py`): a pair that
describes one caller, or an `AuthenticationError`.

Each stage of either verifier raises nothing else, three calls apart, and the
contract is kept exactly on the inputs on which those three behave. A
`DocumentedTokenLibrary` is a library that raises what its documentation says.
-/
import BasisGateway.Auth.BasisLocalTokenFacts

namespace BasisGateway

open Except (Raises raises_ok raises_error_iff raises_bind_iff raises_mapError_iff raises_guard raises_forM raises_pure)

variable {JWK DateTime : Type}

/-- A library whose functions raise the classes they are documented to raise. -/
structure DocumentedTokenLibrary (JWK DateTime : Type) extends TokenLibrary JWK DateTime where
  header_raises : ∀ token, Raises (·.isInstance .invalidTokenError = true) (jwt.getUnverifiedHeader token)
  decode_raises : ∀ call, Raises (·.isInstance .pyJWTError = true) (jwt.decode call)
  timestamp_raises : ∀ value,
    Raises (fun exc => exc.cls = .overflowError ∨ exc.cls = .osError ∨ exc.isInstance .valueError = true)
      (fromTimestamp value)

/-- The verifier and the trust configuration that startup built, if it did. -/
structure TokenVerifiers (JWK : Type) (tables : UnicodeTables) where
  oidc : Option (OIDCVerifier JWK)
  basisLocal : Option (BasisLocalTokenTrustConfig tables)

/-- What `authenticate` calls: `OIDCVerifier.verify` and `verify_basis_local_identity_token`. -/
def TokenVerifiers.verifiers (lib : TokenLibrary JWK DateTime) (config : TokenVerifiers JWK lib.tables) :
    Verifiers where
  oidcVerifier := config.oidc.map fun verifier => verifier.verify lib.jwt lib.tables.printable
  basisLocalTrust := config.basisLocal.map fun trust token =>
    (BasisLocalToken.verifyBasisLocalIdentityToken lib trust token).map (·.toBasisLocalTokenVerificationResult)

/-- The contract. -/
def keepsContract : Except PyExc (NormalizedSubject × IdentityContext) → Bool
  | .ok (subject, context) => decide (context.subjectId = subject.subjectId)
  | .error exc => exc.isInstance .authenticationError

/-! ## Exceptions the contract allows -/

/-- `exc` is an `AuthenticationError`. -/
def PyExc.IsAuthentication (exc : PyExc) : Prop := exc.isInstance .authenticationError = true

@[simp] theorem isAuthentication_headerError (msg : String) : (headerError msg).IsAuthentication := rfl

@[simp] theorem isAuthentication_signatureError (msg : String) : (signatureError msg).IsAuthentication := rfl

@[simp] theorem isAuthentication_verificationError (msg : String) : (verificationError msg).IsAuthentication := rfl

@[simp] theorem isAuthentication_claimsError (msg : String) : (claimsError msg).IsAuthentication := rfl

@[simp] theorem isAuthentication_jwtVerificationError (msg : String) :
    (jwtVerificationError msg).IsAuthentication := rfl

@[simp] theorem isAuthentication_jwksFetchError (msg : String) : (jwksFetchError msg).IsAuthentication := rfl

/-- No exception of PyJWT is one of the gateway's. -/
theorem not_isAuthentication_of_pyJWTError {exc : PyExc} (h : exc.isInstance .pyJWTError = true) :
    ¬ exc.IsAuthentication := by
  intro hauthentication
  have hchain := PyExc.isInstance_chain h hauthentication
  revert hchain
  decide

/-- Around a call, clauses that raise authentication errors keep the contract when they name every exception of
the call that is not one already. -/
theorem raises_exceptClauses_iff {α : Type} {clauses : List (ExcClass × (PyExc → PyExc))} {x : Except PyExc α}
    (hraises : ∀ exc, ∀ clause ∈ clauses, exc.isInstance clause.1 = true → (clause.2 exc).IsAuthentication)
    (hown : Raises (fun exc => exc.IsAuthentication → Named clauses exc) x) :
    Raises PyExc.IsAuthentication (x.mapError (exceptClauses clauses)) ↔ Raises (Named clauses) x := by
  rw [raises_mapError_iff]
  constructor
  · intro h exc hx
    by_contra hunnamed
    have hauth : (exceptClauses clauses exc).IsAuthentication := h exc hx
    rw [exceptClauses_of_not_named hunnamed] at hauth
    exact hunnamed (hown exc hx hauth)
  · intro h exc hx
    exact isInstance_exceptClauses (hraises exc) (h exc hx)

/-! ## The OIDC verifier -/

section

variable {tables : UnicodeTables}

theorem raises_getSigningKey (client : PyJWKClient JWK) (token : String) :
    Raises PyExc.IsAuthentication (client.getSigningKey token) := by
  rw [PyJWKClient.getSigningKey, raises_mapError_iff]
  intro exc _
  split <;> simp

theorem raises_requireAllowedAlgorithm (header : Claims) :
    Raises PyExc.IsAuthentication (OIDCVerifier.requireAllowedAlgorithm tables.printable header) := by
  rw [OIDCVerifier.requireAllowedAlgorithm]
  split
  next =>
    split
    next => exact raises_ok ()
    next => exact raises_error_iff.2 rfl
  next => exact raises_error_iff.2 rfl
  next => exact raises_error_iff.2 rfl

theorem named_oidcHeaderClauses {exc : PyExc} :
    Named OIDCVerifier.headerClauses exc ↔ exc.isInstance .decodeError = true := by
  simp [Named, OIDCVerifier.headerClauses]

/-- The last clause names every exception of PyJWT. -/
theorem named_oidcDecodeClauses {exc : PyExc} (h : exc.isInstance .pyJWTError = true) :
    Named OIDCVerifier.decodeClauses exc :=
  ⟨_, List.getLast_mem (by simp [OIDCVerifier.decodeClauses]), h⟩

/-- An initialized verifier keeps the contract when the header call raises no other `InvalidTokenError` than a
`DecodeError`. -/
theorem raises_oidcVerify_iff {lib : DocumentedTokenLibrary JWK DateTime} {verifier : OIDCVerifier JWK}
    {client : PyJWKClient JWK} (hcache : verifier.cache = some client) (token : String) :
    Raises PyExc.IsAuthentication (verifier.verify lib.jwt lib.tables.printable token) ↔
      Raises (·.isInstance .decodeError = true) (lib.jwt.getUnverifiedHeader token) := by
  have hdecode : ∀ call, Raises PyExc.IsAuthentication
      ((lib.jwt.decode call).mapError (exceptClauses OIDCVerifier.decodeClauses)) := by
    intro call
    rw [raises_exceptClauses_iff (by simp [OIDCVerifier.decodeClauses])]
    · intro exc hexc
      exact named_oidcDecodeClauses (lib.decode_raises call exc hexc)
    · intro exc hexc hauth
      exact absurd hauth (not_isAuthentication_of_pyJWTError (lib.decode_raises call exc hexc))
  simp only [OIDCVerifier.verify, hcache, raises_bind_iff, raises_requireAllowedAlgorithm, raises_getSigningKey,
    hdecode, implies_true, and_true]
  rw [raises_exceptClauses_iff (by simp [OIDCVerifier.headerClauses])]
  · simp only [Raises, named_oidcHeaderClauses]
  · intro exc hexc hauth
    have hjwt : exc.isInstance .pyJWTError = true :=
      PyExc.isInstance_of_base (lib.header_raises token exc hexc) (by decide)
    exact absurd hauth (not_isAuthentication_of_pyJWTError hjwt)

end

/-! ## The BASIS-local verifier -/

namespace BasisLocalToken

section

variable {tables : UnicodeTables} {trust : BasisLocalTokenTrustConfig tables}

theorem raises_requireToken (token : String) : Raises PyExc.IsAuthentication (requireToken token) :=
  raises_guard rfl (raises_ok ())

theorem raises_headerText (header : Claims) (name missing : String) :
    Raises PyExc.IsAuthentication (headerText header name missing) := by
  rw [headerText]
  split
  next => exact raises_guard rfl (raises_ok _)
  next => exact raises_error_iff.2 rfl

theorem raises_selectPublicKey (kid : String) :
    Raises PyExc.IsAuthentication (selectPublicKey tables trust kid) := by
  rw [selectPublicKey]
  split
  next => exact raises_ok _
  next => exact raises_error_iff.2 rfl

theorem raises_acceptHeader (header : Claims) :
    Raises PyExc.IsAuthentication (acceptHeader tables trust header) := by
  have hall : ∀ alg, Raises PyExc.IsAuthentication (requireAcceptedAlgorithm tables trust alg) := fun alg =>
    raises_guard rfl (raises_guard rfl (raises_guard rfl (raises_ok ())))
  simp only [acceptHeader, raises_bind_iff, raises_headerText, hall, raises_selectPublicKey, raises_pure, true_and,
    implies_true]

theorem raises_requireClaimPaths (paths : List String) (payload : Claims) :
    Raises PyExc.IsAuthentication (requireClaimPaths tables paths payload) :=
  raises_guard rfl (raises_ok ())

theorem raises_requireTokenType (payload : Claims) :
    Raises PyExc.IsAuthentication (requireTokenType tables payload) := by
  rw [requireTokenType]
  split
  next =>
    split
    next => exact raises_ok ()
    next => exact raises_error_iff.2 rfl
  next => exact raises_error_iff.2 rfl
  next => exact raises_error_iff.2 rfl

theorem raises_resultFromClaims (claims : BasisLocalTokenClaims DateTime) :
    Raises PyExc.IsAuthentication (resultFromClaims tables claims) := by
  have hkeys : ∀ key, Raises PyExc.IsAuthentication (rejectAuthorizationShapedKey tables key) :=
    fun key => raises_guard rfl (raises_ok ())
  have hscan : ∀ data, Raises PyExc.IsAuthentication (assertNoAuthorizationShapedKeys tables data) := by
    intro data exc hexc
    obtain ⟨key, hkey⟩ := Json.forKeys_eq_error hexc
    exact hkeys key exc hkey
  have htexts : ∀ fields : List (String × String), Raises PyExc.IsAuthentication (forM fields requireNonEmpty) :=
    fun fields => raises_forM fun field => raises_guard rfl (raises_ok ())
  have haudience : Raises PyExc.IsAuthentication (postInit.requireAudience (resultOf claims)) :=
    raises_guard rfl (raises_ok ())
  simp only [resultFromClaims, postInit, raises_bind_iff, htexts, haudience, hscan, raises_pure, implies_true,
    true_and]

end

/-- The last clause names every `InvalidTokenError`, and no clause anything else. -/
theorem named_decodeClauses {lib : TokenLibrary JWK DateTime} {exc : PyExc} :
    Named (decodeClauses lib) exc ↔ exc.isInstance .invalidTokenError = true := by
  constructor
  · rintro ⟨clause, hmem, hinst⟩
    have hbases : ∀ clause ∈ decodeClauses lib, clause.1 = .invalidTokenError ∨
        .invalidTokenError ∈ clause.1.bases := by
      simp [decodeClauses, ExcClass.bases]
    rcases hbases clause hmem with hlast | hbase
    · exact hlast ▸ hinst
    · exact PyExc.isInstance_of_base hinst hbase
  · intro h
    exact ⟨_, List.getLast_mem (by simp [decodeClauses]), h⟩

variable {lib : DocumentedTokenLibrary JWK DateTime} {trust : BasisLocalTokenTrustConfig lib.tables}
  {token : String} {payload : Claims}

theorem raises_header (token : String) : Raises PyExc.IsAuthentication
    ((lib.jwt.getUnverifiedHeader token).mapError (exceptClauses headerClauses)) := by
  rw [raises_exceptClauses_iff (by simp [headerClauses])]
  · intro exc hexc
    exact ⟨_, List.mem_singleton_self _, lib.header_raises token exc hexc⟩
  · intro exc hexc hauth
    have hjwt : exc.isInstance .pyJWTError = true :=
      PyExc.isInstance_of_base (lib.header_raises token exc hexc) (by decide)
    exact absurd hauth (not_isAuthentication_of_pyJWTError hjwt)

theorem raises_decode_iff {call : DecodeCall JWK} : Raises PyExc.IsAuthentication
      ((lib.jwt.decode call).mapError (exceptClauses (decodeClauses lib.toTokenLibrary))) ↔
    Raises (·.isInstance .invalidTokenError = true) (lib.jwt.decode call) := by
  rw [raises_exceptClauses_iff (by simp [decodeClauses])]
  · simp only [Raises, named_decodeClauses]
  · intro exc hexc hauth
    exact absurd hauth (not_isAuthentication_of_pyJWTError (lib.decode_raises call exc hexc))

/-! ### The timestamps -/

/-- The number under `key` lies outside what the platform converts, and not by a `ValueError`. -/
def OutOfRange (lib : TokenLibrary JWK DateTime) (payload : Claims) (key : String) : Prop :=
  ∃ value exc, Json.get? key payload = some value ∧ value.IsNumber ∧ lib.fromTimestamp value = .error exc ∧
    exc.isInstance .valueError = false

/-- `iat` is out of range, or it converts and `exp` is. -/
def TimeOutOfRange (lib : TokenLibrary JWK DateTime) (payload : Claims) : Prop :=
  OutOfRange lib payload "iat" ∨ (∃ t, TimeAt lib payload "iat" t) ∧ OutOfRange lib payload "exp"

/-- The claims that are read before the timestamps. -/
structure ReadsUpToTimes (payload : Claims) : Prop where
  basis : ∃ basis, Json.get? "basis" payload = some (.obj basis)
  present : ∀ key ∈ ["iss", "sub", "jti", "typ"], ∃ value, Json.get? key payload = some value
  audience : ∃ entries, AudienceIs payload entries

theorem named_claimsClauses_iff {value : Json} {exc : PyExc} (h : lib.fromTimestamp value = .error exc) :
    Named claimsClauses exc ↔ exc.isInstance .valueError = true := by
  have hcls := lib.timestamp_raises value exc h
  constructor
  · rintro ⟨clause, hmem, hinst⟩
    simp only [claimsClauses, List.mem_cons, List.not_mem_nil, or_false] at hmem
    obtain ⟨cls, msg, errors⟩ := exc
    rcases hcls with rfl | rfl | hvalue
    · rcases hmem with rfl | rfl | rfl | rfl <;> simp [PyExc.isInstance, ExcClass.bases] at hinst
    · rcases hmem with rfl | rfl | rfl | rfl <;> simp [PyExc.isInstance, ExcClass.bases] at hinst
    · exact hvalue
  · intro hvalue
    exact ⟨_, List.getLast_mem (by simp [claimsClauses]), hvalue⟩

/-- What a claim's reading raises, apart from the conversion, the clauses name. -/
theorem named_claimsError (msg : String) : Named claimsClauses (claimsError msg) := ⟨_, List.mem_cons_self, rfl⟩

theorem raises_subscript (fields : Claims) (key : String) : Raises (Named claimsClauses) (subscript fields key) := by
  rw [subscript]
  split
  next => exact raises_ok _
  next => exact raises_error_iff.2 ⟨_, List.mem_cons_of_mem _ List.mem_cons_self, rfl⟩

theorem raises_requireObject (name : String) (value : Json) :
    Raises (Named claimsClauses) (requireObject name value) := by
  cases value with
  | obj fields => exact raises_ok fields
  | _ => exact raises_error_iff.2 (named_claimsError _)

theorem raises_audienceEntries (value : Json) : Raises (Named claimsClauses) (audienceEntries value) := by
  cases value with
  | str _ | arr _ => exact raises_ok _
  | _ => exact raises_error_iff.2 (named_claimsError _)

theorem raises_requireText (label : String) (value : Json) :
    Raises (Named claimsClauses) (requireText label value) := by
  cases value with
  | str text => exact raises_guard (named_claimsError _) (raises_ok text)
  | _ => exact raises_error_iff.2 (named_claimsError _)

theorem raises_timestamp_iff {fieldName : String} {value : Json} :
    Raises (Named claimsClauses) (timestampToDatetime lib.toTokenLibrary fieldName value) ↔
      ∀ exc, value.IsNumber → lib.fromTimestamp value = .error exc → exc.isInstance .valueError = true := by
  have hnumber : Raises (Named claimsClauses) (lib.fromTimestamp value) ↔
      ∀ exc, lib.fromTimestamp value = .error exc → exc.isInstance .valueError = true :=
    forall_congr' fun exc => forall_congr' fun hexc => named_claimsClauses_iff hexc
  cases value with
  | int _ | float _ => simp only [timestampToDatetime, hnumber, Json.IsNumber, true_imp_iff]
  | _ => exact iff_of_true (raises_error_iff.2 (named_claimsError _)) fun _ hnum => hnum.elim

/-- The claims are read within the contract, or the reading stops at a time out of range. -/
theorem raises_readClaims_iff : Raises (Named claimsClauses) (readClaims lib.toTokenLibrary payload) ↔
    ¬ (ReadsUpToTimes payload ∧ TimeOutOfRange lib.toTokenLibrary payload) := by
  simp only [readClaims, raises_bind_iff, raises_subscript, raises_requireObject, raises_audienceEntries,
    raises_requireText, raises_timestamp_iff, raises_pure, implies_true, true_and, and_true, subscript_eq_ok,
    requireObject_eq_ok, timestampToDatetime_eq_ok]
  constructor
  · rintro h ⟨⟨⟨basis, hbasis⟩, hpresent, entries, haudience⟩, htime⟩
    obtain ⟨_, hiss⟩ := hpresent "iss" (by simp)
    obtain ⟨_, hsub⟩ := hpresent "sub" (by simp)
    obtain ⟨_, hjti⟩ := hpresent "jti" (by simp)
    obtain ⟨_, htyp⟩ := hpresent "typ" (by simp)
    obtain ⟨_, haud, hentries⟩ := audienceEntries_eq_ok.2 haudience
    have htimes := h _ hbasis basis rfl _ hiss _ hsub _ hjti _ htyp _ haud entries hentries
    rcases htime with ⟨iat, exc, hiat, hnumber, hexc, hother⟩ |
      ⟨⟨issuedAt, iat, hiat, hissuedAt⟩, exp, exc, hexp, hnumber, hexc, hother⟩
    · have hvalue := (htimes iat hiat).1 exc hnumber hexc
      rw [hother] at hvalue
      cases hvalue
    · have hvalue := (htimes iat hiat).2 issuedAt hissuedAt exp hexp exc hnumber hexc
      rw [hother] at hvalue
      cases hvalue
  · intro h _ hbasis basis rfl iss hiss sub hsub jti hjti typ htyp aud haud entries hentries iat hiat
    have hread : ReadsUpToTimes payload :=
      ⟨⟨basis, hbasis⟩, by simp [hiss, hsub, hjti, htyp], entries, audienceEntries_eq_ok.1 ⟨aud, haud, hentries⟩⟩
    constructor
    · intro exc hnumber hexc
      by_contra hother
      exact h ⟨hread, .inl ⟨iat, exc, hiat, hnumber, hexc, Bool.eq_false_of_not_eq_true hother⟩⟩
    · intro issuedAt hissuedAt exp hexp exc hnumber hexc
      by_contra hother
      exact h ⟨hread, .inr ⟨⟨issuedAt, iat, hiat, hissuedAt⟩, exp, exc, hexp, hnumber, hexc,
        Bool.eq_false_of_not_eq_true hother⟩⟩

/-- An authentication error of the reading is one its first clause passes on. -/
theorem raises_readClaims_own : Raises (fun exc => exc.IsAuthentication → Named claimsClauses exc)
    (readClaims lib.toTokenLibrary payload) := by
  have hnamed : ∀ {α : Type} {x : Except PyExc α}, Raises (Named claimsClauses) x →
      Raises (fun exc => exc.IsAuthentication → Named claimsClauses exc) x :=
    fun hx exc hexc _ => hx exc hexc
  have htime : ∀ fieldName value, Raises (fun exc => exc.IsAuthentication → Named claimsClauses exc)
      (timestampToDatetime lib.toTokenLibrary fieldName value) := by
    intro fieldName value exc hexc hauth
    by_cases hnumber : value.IsNumber
    · have hraised : lib.fromTimestamp value = .error exc := by
        cases value with
        | int _ | float _ => exact hexc
        | _ => exact hnumber.elim
      refine (named_claimsClauses_iff hraised).2 ?_
      obtain ⟨cls, msg, errors⟩ := exc
      rcases lib.timestamp_raises value _ hraised with rfl | rfl | hvalue
      · cases hauth
      · cases hauth
      · exact hvalue
    · exact raises_timestamp_iff.2 (fun _ h => absurd h hnumber) exc hexc
  simp only [readClaims, raises_bind_iff, hnamed (raises_subscript _ _), hnamed (raises_requireObject _ _),
    hnamed (raises_audienceEntries _), hnamed (raises_requireText _ _), htime, raises_pure, implies_true, true_and]

theorem raises_claims_iff : Raises PyExc.IsAuthentication
      (basisLocalClaimsFromVerifiedPayload lib.toTokenLibrary payload) ↔
    ¬ (ReadsUpToTimes payload ∧ TimeOutOfRange lib.toTokenLibrary payload) := by
  rw [basisLocalClaimsFromVerifiedPayload, raises_exceptClauses_iff _ raises_readClaims_own, raises_readClaims_iff]
  intro exc clause hmem hinst
  simp only [claimsClauses, List.mem_cons, List.not_mem_nil, or_false] at hmem
  rcases hmem with rfl | rfl | rfl | rfl
  · exact PyExc.isInstance_of_base hinst (by decide)
  · exact isAuthentication_claimsError _
  · exact isAuthentication_claimsError _
  · exact isAuthentication_claimsError _

/-! ### The verification -/

/-- `call` is the call of `jwt.decode` that the verification of `token` makes. -/
def Submits (lib : TokenLibrary JWK DateTime) (trust : BasisLocalTokenTrustConfig lib.tables) (token : String)
    (call : DecodeCall JWK) : Prop :=
  blank token = false ∧ ∃ header alg publicKeyPem, lib.jwt.getUnverifiedHeader token = .ok header ∧
    AcceptedHeader trust header alg publicKeyPem ∧ AsksVerification trust token alg publicKeyPem call

/-- The payload gets past the required claim paths, the token type and the claims before the timestamps. -/
structure ReachesTimes {tables : UnicodeTables} (trust : BasisLocalTokenTrustConfig tables) (payload : Claims) :
    Prop where
  required : ∀ path ∈ trust.requiredClaims, Resolves payload path
  tokenType : Json.get? "typ" payload = some (.str "basis-local-identity")
  read : ReadsUpToTimes payload

theorem raises_verifyBasisLocalIdentityToken_iff :
    Raises PyExc.IsAuthentication (verifyBasisLocalIdentityToken lib.toTokenLibrary trust token) ↔
    ∀ call, Submits lib.toTokenLibrary trust token call →
      Raises (·.isInstance .invalidTokenError = true) (lib.jwt.decode call) ∧
      ∀ payload, lib.jwt.decode call = .ok payload → ReachesTimes trust payload →
        ¬ TimeOutOfRange lib.toTokenLibrary payload := by
  simp only [verifyBasisLocalIdentityToken, raises_bind_iff, raises_requireToken, raises_header,
    raises_acceptHeader, raises_decode_iff, raises_requireClaimPaths, raises_requireTokenType, raises_claims_iff,
    raises_resultFromClaims, implies_true, true_and, and_true, Except.mapError_eq_ok]
  constructor
  · rintro h call ⟨hblank, header, alg, publicKeyPem, hheader, haccept, hcall⟩
    cases asksVerification_iff.1 hcall
    obtain ⟨hdecode, hrest⟩ :=
      h () (requireToken_eq_ok.2 hblank) header hheader (alg, publicKeyPem) (acceptHeader_eq_ok.2 haccept)
    refine ⟨hdecode, fun payload hpayload hreach htime => ?_⟩
    exact hrest payload hpayload () (requireClaimPaths_eq_ok.2 hreach.required) ()
      (requireTokenType_eq_ok.2 hreach.tokenType) ⟨hreach.read, htime⟩
  · rintro h ⟨⟩ hblank header hheader ⟨alg, publicKeyPem⟩ haccept
    obtain ⟨hdecode, hrest⟩ :=
      h _ ⟨requireToken_eq_ok.1 hblank, header, alg, publicKeyPem, hheader, acceptHeader_eq_ok.1 haccept,
        asksVerification_iff.2 rfl⟩
    refine ⟨hdecode, ?_⟩
    rintro payload hpayload _ hrequired _ htype ⟨hread, htime⟩
    exact hrest payload hpayload
      ⟨requireClaimPaths_eq_ok.1 hrequired, requireTokenType_eq_ok.1 htype, hread⟩ htime

end BasisLocalToken

/-! ## The contract -/

open BasisLocalToken (Submits ReachesTimes TimeOutOfRange)

/-- The ways out of the contract. -/
inductive Escapes (lib : TokenLibrary JWK DateTime) (config : TokenVerifiers JWK lib.tables) (token : String) :
    AuthMode → Prop
  /-- OIDC: the header call raises an `InvalidTokenError` that is no `DecodeError`. -/
  | header {verifier : OIDCVerifier JWK} {client : PyJWKClient JWK} {exc : PyExc}
      (hverifier : config.oidc = some verifier) (hcache : verifier.cache = some client)
      (hraised : lib.jwt.getUnverifiedHeader token = .error exc) (hother : exc.isInstance .decodeError = false) :
      Escapes lib config token .oidc
  /-- BASIS-local: `jwt.decode` raises a `PyJWTError` that is no `InvalidTokenError`. -/
  | key {trust : BasisLocalTokenTrustConfig lib.tables} {call : DecodeCall JWK} {exc : PyExc}
      (htrust : config.basisLocal = some trust) (hcall : Submits lib trust token call)
      (hraised : lib.jwt.decode call = .error exc) (hother : exc.isInstance .invalidTokenError = false) :
      Escapes lib config token .basisLocalToken
  /-- BASIS-local: a timestamp of the verified payload is out of the platform's range. -/
  | time {trust : BasisLocalTokenTrustConfig lib.tables} {call : DecodeCall JWK} {payload : Claims}
      (htrust : config.basisLocal = some trust) (hcall : Submits lib trust token call)
      (hdecode : lib.jwt.decode call = .ok payload) (hreach : ReachesTimes trust payload)
      (htime : TimeOutOfRange lib payload) : Escapes lib config token .basisLocalToken

/-- The pair always describes one caller, so the contract is about what is raised. -/
theorem keepsContract_iff {verifiers : Verifiers} {mode : AuthMode} {token : String} :
    keepsContract (authenticate verifiers mode token) = true ↔
      Raises PyExc.IsAuthentication (authenticate verifiers mode token) := by
  rcases h : authenticate verifiers mode token with exc | ⟨subject, context⟩
  · rw [keepsContract, raises_error_iff]
    rfl
  · rw [keepsContract, decide_eq_true_iff]
    exact iff_of_true (authenticate_subjectId h) (raises_ok _)

theorem raises_mapClaims (claims : Claims) : Raises PyExc.IsAuthentication (mapClaims claims) := by
  rw [mapClaims]
  split
  next =>
    split
    next => exact raises_error_iff.2 rfl
    next => exact raises_ok _
  next => exact raises_error_iff.2 rfl

theorem oidc_keepsContract_iff {lib : DocumentedTokenLibrary JWK DateTime}
    {config : TokenVerifiers JWK lib.tables} {token : String} :
    Raises PyExc.IsAuthentication (authenticate (config.verifiers lib.toTokenLibrary) .oidc token) ↔
      ¬ Escapes lib.toTokenLibrary config token .oidc := by
  rcases hverifier : config.oidc with - | verifier
  · simp only [authenticate, TokenVerifiers.verifiers, hverifier, Option.map_none]
    refine iff_of_true (raises_error_iff.2 rfl) ?_
    rintro ⟨hsome, -, -, -⟩
    cases hverifier.symm.trans hsome
  · simp only [authenticate, TokenVerifiers.verifiers, hverifier, Option.map_some, raises_bind_iff, raises_mapClaims,
      implies_true, and_true]
    rcases hcache : verifier.cache with - | client
    · simp only [OIDCVerifier.verify, hcache]
      refine iff_of_true (raises_error_iff.2 rfl) ?_
      rintro ⟨hsome, hclient, -, -⟩
      cases hverifier.symm.trans hsome
      cases hcache.symm.trans hclient
    · rw [raises_oidcVerify_iff hcache]
      constructor
      · rintro h ⟨-, -, hraised, hother⟩
        exact Bool.false_ne_true (hother.symm.trans (h _ hraised))
      · intro h exc hraised
        by_contra hother
        exact h (.header hverifier hcache hraised (Bool.eq_false_of_not_eq_true hother))

theorem basisLocal_keepsContract_iff {lib : DocumentedTokenLibrary JWK DateTime}
    {config : TokenVerifiers JWK lib.tables} {token : String} :
    Raises PyExc.IsAuthentication (authenticate (config.verifiers lib.toTokenLibrary) .basisLocalToken token) ↔
      ¬ Escapes lib.toTokenLibrary config token .basisLocalToken := by
  rcases htrust : config.basisLocal with - | trust
  · simp only [authenticate, TokenVerifiers.verifiers, htrust, Option.map_none]
    refine iff_of_true (raises_error_iff.2 rfl) ?_
    rintro (- | ⟨hsome, -, -, -⟩ | ⟨hsome, -, -, -, -⟩)
    · cases htrust.symm.trans hsome
    · cases htrust.symm.trans hsome
  · have hverify : Raises PyExc.IsAuthentication
          (authenticate (config.verifiers lib.toTokenLibrary) .basisLocalToken token) ↔
        Raises PyExc.IsAuthentication
          (BasisLocalToken.verifyBasisLocalIdentityToken lib.toTokenLibrary trust token) := by
      simp only [authenticate, TokenVerifiers.verifiers, htrust, Option.map_some]
      cases BasisLocalToken.verifyBasisLocalIdentityToken lib.toTokenLibrary trust token with
      | error exc => exact raises_error_iff.trans raises_error_iff.symm
      | ok result => exact iff_of_true (raises_ok _) (raises_ok _)
    rw [hverify, BasisLocalToken.raises_verifyBasisLocalIdentityToken_iff]
    constructor
    · rintro h (- | ⟨hsome, hcall, hraised, hother⟩ | ⟨hsome, hcall, hdecode, hreach, htime⟩)
      · cases htrust.symm.trans hsome
        exact Bool.false_ne_true (hother.symm.trans ((h _ hcall).1 _ hraised))
      · cases htrust.symm.trans hsome
        exact (h _ hcall).2 _ hdecode hreach htime
    · intro h call hcall
      constructor
      · intro exc hraised
        by_contra hother
        exact h (.key htrust hcall hraised (Bool.eq_false_of_not_eq_true hother))
      · intro payload hdecode hreach htime
        exact h (.time htrust hcall hdecode hreach htime)

/-- **The error contract.** `authenticate` returns a pair with one subject id or raises an `AuthenticationError`
exactly on the inputs that take none of the ways out. -/
theorem error_contract_iff (lib : DocumentedTokenLibrary JWK DateTime) (config : TokenVerifiers JWK lib.tables)
    (mode : AuthMode) (token : String) :
    keepsContract (authenticate (config.verifiers lib.toTokenLibrary) mode token) = true ↔
      ¬ Escapes lib.toTokenLibrary config token mode := by
  rw [keepsContract_iff]
  cases mode with
  | oidc => exact oidc_keepsContract_iff
  | basisLocalToken => exact basisLocal_keepsContract_iff

/-! ### The three ways out, taken -/

/-- A verified payload that is in order but for its `exp`, which is `10 ^ 20`. -/
def farFuturePayload : Claims :=
  [("iss", .str "basis-identity"), ("sub", .str "operator"), ("aud", .str "basis-gateway"), ("iat", .int 1),
    ("exp", .int 100000000000000000000), ("jti", .str "token-1"), ("typ", .str "basis-local-identity"),
    ("basis", .obj [("session_id", .str "session-1"), ("provider_id", .str "local"), ("authority_mode", .str "local"),
      ("authentication_protocol", .str "password"), ("canonical_identity", .obj [])])]

/-- That payload as the second segment of a compact token, and a signature segment. -/
def payloadAndSignature : String :=
  "." ++ "eyJpc3MiOiJiYXNpcy1pZGVudGl0eSIsInN1YiI6Im9wZXJhdG9yIiwiYXVkIjoiYmFzaXMtZ2F0ZXdheSIsImlh" ++
    "dCI6MSwiZXhwIjoxMDAwMDAwMDAwMDAwMDAwMDAwMDAsImp0aSI6InRva2VuLTEiLCJ0eXAiOiJiYXNpcy1sb2Nh" ++
    "bC1pZGVudGl0eSIsImJhc2lzIjp7InNlc3Npb25faWQiOiJzZXNzaW9uLTEiLCJwcm92aWRlcl9pZCI6ImxvY2Fs" ++
    "IiwiYXV0aG9yaXR5X21vZGUiOiJsb2NhbCIsImF1dGhlbnRpY2F0aW9uX3Byb3RvY29sIjoicGFzc3dvcmQiLCJj" ++
    "YW5vbmljYWxfaWRlbnRpdHkiOnt9fX0" ++
    ".c2ln"

/-- The header has the number 7 for a `kid`. -/
def numericKidToken : String := "eyJhbGciOiJSUzI1NiIsImtpZCI6N30" ++ payloadAndSignature

/-- The header names the key `key-1`. -/
def farFutureToken : String := "eyJhbGciOiJSUzI1NiIsImtpZCI6ImtleS0xIn0" ++ payloadAndSignature

/-- The header names the key `key-2`. -/
def otherKeyToken : String := "eyJhbGciOiJSUzI1NiIsImtpZCI6ImtleS0yIn0" ++ payloadAndSignature

def publicKeyText : String := "-----BEGIN PUBLIC KEY-----"

/-- PyJWT on these tokens: it refuses a `kid` that is no string, and a key it cannot parse. -/
def sampleJwt : PyJWT Unit where
  getUnverifiedHeader token :=
    if token = numericKidToken then
      .error { cls := .invalidTokenError, msg := "Key ID header parameter must be a string" }
    else if token = otherKeyToken then .ok [("alg", .str "RS256"), ("kid", .str "key-2")]
    else .ok [("alg", .str "RS256"), ("kid", .str "key-1")]
  decode call := match call.key with
    | .pem text =>
      if text = publicKeyText then .ok farFuturePayload
      else .error { cls := .invalidKeyError, msg := "Could not parse the provided public key." }
    | .jwk () => .ok farFuturePayload
  claim _ := ""

/-- `datetime.fromtimestamp` of an integer, as the seconds themselves, where `time_t` has 64 bits. -/
def timestampOfInt (value : Json) : Except PyExc Int :=
  match value with
  | .int n =>
    if n < -9223372036854775808 ∨ 9223372036854775807 < n then
      .error { cls := .overflowError, msg := "timestamp out of range for platform time_t" }
    else if n < -62135596800 ∨ 253402300799 < n then
      .error { cls := .valueError, msg := "year is out of range" }
    else .ok n
  | _ => .error { cls := .valueError, msg := "not an integer" }

/-- It keeps to the documentation. -/
def sampleLibrary : DocumentedTokenLibrary Unit Int where
  jwt := sampleJwt
  tables := asciiTables
  fromTimestamp := timestampOfInt
  header_raises token := by
    simp only [sampleJwt]
    refine raises_guard rfl ?_
    split <;> exact raises_ok _
  decode_raises call := by
    simp only [sampleJwt]
    split
    next =>
      split
      next => exact raises_ok _
      next => exact raises_error_iff.2 rfl
    next => exact raises_ok _
  timestamp_raises value := by
    cases value with
    | int n => exact raises_guard (.inl rfl) (raises_guard (.inr (.inr rfl)) (raises_ok n))
    | _ => exact raises_error_iff.2 (.inr (.inr rfl))

/-- Both modes configured; the text of `key-2` is no key. -/
def sampleTrust : BasisLocalTokenTrustConfig asciiTables where
  issuer := "basis-identity"
  audience := ["basis-gateway"]
  publicKeysById :=
    ((OrderedDict.empty.set "key-1" (.str publicKeyText)).set "key-2" (.str "not a key"))
  valid := BasisLocalTokenTrustFields.postInit_eq_ok.1 (by decide +kernel)

def sampleVerifiers : Verifiers :=
  TokenVerifiers.verifiers sampleLibrary.toTokenLibrary
    { oidc := some { issuer := "issuer", audience := none,
                     cache := some { getSigningKeyFromJwt := fun _ => .ok () } }
      basisLocal := some sampleTrust }

/-- An `InvalidTokenError`, an `InvalidKeyError` and an `OverflowError` come out of `authenticate`. -/
theorem error_contract_broken :
    keepsContract (authenticate sampleVerifiers .oidc numericKidToken) = false ∧
    keepsContract (authenticate sampleVerifiers .basisLocalToken otherKeyToken) = false ∧
    keepsContract (authenticate sampleVerifiers .basisLocalToken farFutureToken) = false := by
  refine ⟨by decide +kernel, ?_, ?_⟩
  · have htoken : BasisLocalToken.requireToken otherKeyToken = .ok () :=
      BasisLocalToken.requireToken_eq_ok.2 (not_blank_append (by decide) payloadAndSignature)
    have hheader : sampleJwt.getUnverifiedHeader otherKeyToken =
        .ok [("alg", .str "RS256"), ("kid", .str "key-2")] := by
      simp only [sampleJwt, if_neg (show otherKeyToken ≠ numericKidToken by decide +kernel), if_true]
    simp only [authenticate, sampleVerifiers, TokenVerifiers.verifiers, Option.map_some,
      BasisLocalToken.verifyBasisLocalIdentityToken, sampleLibrary, htoken, hheader]
    decide +kernel
  · have htoken : BasisLocalToken.requireToken farFutureToken = .ok () :=
      BasisLocalToken.requireToken_eq_ok.2 (not_blank_append (by decide) payloadAndSignature)
    have hheader : sampleJwt.getUnverifiedHeader farFutureToken =
        .ok [("alg", .str "RS256"), ("kid", .str "key-1")] := by
      simp only [sampleJwt, if_neg (show farFutureToken ≠ numericKidToken by decide +kernel),
        if_neg (show farFutureToken ≠ otherKeyToken by decide +kernel)]
    simp only [authenticate, sampleVerifiers, TokenVerifiers.verifiers, Option.map_some,
      BasisLocalToken.verifyBasisLocalIdentityToken, sampleLibrary, htoken, hheader]
    decide +kernel

end BasisGateway
