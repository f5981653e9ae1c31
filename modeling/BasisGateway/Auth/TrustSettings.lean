/-
From the settings to the trust configuration of BASIS-local tokens
(`build_basis_local_token_trust_config` of `auth/runtime.py`), and back:
which trust configurations the settings can say. `json.loads` and
`json.dumps` are parameters.
-/
import BasisGateway.Allowlists
import BasisGateway.Auth.BasisLocalTrust
import BasisGateway.Config

namespace BasisGateway

/-! ## The settings -/

/-- A `float` that is not zero or below, as a not-a-number is not. -/
inductive PositiveFloat
  | finite (value : Rat) (pos : 0 < value)
  | infinity
  | nan

/-- The default of `audit_failure_threshold` is at least 1. -/
theorem auditFailureThreshold_default : (1 : Int) ≤ 10 := by decide

/-- The default of `jwks_cache_ttl_seconds` is positive. -/
theorem jwksCacheTtlSeconds_default : (0 : Rat) < 300 := by decide

/-- The default of `basis_local_token_leeway_seconds` is not negative. -/
theorem basisLocalTokenLeewaySeconds_default : (0 : Int) ≤ 0 := by decide

/-- `GatewayConfig`, with the fields that the verifiers are built from. -/
structure Settings extends GatewayConfig where
  auditFailureThreshold_pos := by first | exact auditFailureThreshold_default | decide
  oidcAudience : Option String := none
  oidcJwksUri : Option String := none
  /-- `Field(gt=0)`. -/
  jwksCacheTtlSeconds : PositiveFloat := .finite 300 jwksCacheTtlSeconds_default
  basisLocalTokenAllowedAlgorithms : String := "RS256"
  basisLocalTokenLeewaySeconds : Int := 0
  /-- `Field(ge=0)`. -/
  basisLocalTokenLeewaySeconds_nonneg : 0 ≤ basisLocalTokenLeewaySeconds := by
    first | exact basisLocalTokenLeewaySeconds_default | decide

/-- `_split_csv`. -/
def splitCsv (value : String) : List String := ((splitCommas value).map strip).filter fun part => part ≠ ""

/-! ## `build_basis_local_token_trust_config` -/

/-- One of the three presence checks, and the value when it is there. -/
def requireSetting (name : String) (value : Option String) : Except PyExc String :=
  match value with
  | some text => if text = "" then missing else .ok text
  | none => missing
where
  missing : Except PyExc String :=
    .error (GatewayConfig.evaluationConfigError (name ++ " is required when AUTH_MODE=basis_local_token."))

/-- The `except` clause around `json.loads`. -/
def publicKeysClauses : List (ExcClass × (PyExc → PyExc)) :=
  [ExcClass.typeError, .valueError].map fun cls => (cls, fun exc => GatewayConfig.evaluationConfigError
    ("BASIS_LOCAL_TOKEN_PUBLIC_KEYS_JSON is not valid JSON: " ++ exc.msg))

/-- The members of a non-empty object. -/
def requirePublicKeys (publicKeys : Json) : Except PyExc (List (String × Json)) :=
  match publicKeys with
  | .obj fields => if fields.isEmpty then notAnObject else .ok fields
  | _ => notAnObject
where
  notAnObject : Except PyExc (List (String × Json)) :=
    .error (GatewayConfig.evaluationConfigError
      ("BASIS_LOCAL_TOKEN_PUBLIC_KEYS_JSON must decode to a non-empty JSON object " ++
        "mapping key id to PEM public key, e.g. " ++
        "\x7b\"basis-identity-key-1\": \"-----BEGIN PUBLIC KEY-----...\"\x7d"))

section

variable (tables : UnicodeTables) (jsonLoads : String → Except PyExc Json)

/-- `build_basis_local_token_trust_config`. -/
def buildBasisLocalTokenTrustConfig (settings : Settings) : Except PyExc (BasisLocalTokenTrustConfig tables) := do
  let issuer ← requireSetting "BASIS_LOCAL_TOKEN_ISSUER" settings.basisLocalTokenIssuer
  let audience ← requireSetting "BASIS_LOCAL_TOKEN_AUDIENCE" settings.basisLocalTokenAudience
  let publicKeysJson ← requireSetting "BASIS_LOCAL_TOKEN_PUBLIC_KEYS_JSON" settings.basisLocalTokenPublicKeysJson
  let publicKeys ← (jsonLoads publicKeysJson).mapError (exceptClauses publicKeysClauses)
  let fields ← requirePublicKeys publicKeys
  BasisLocalTokenTrustConfig.make tables
    { issuer
      audience := splitCsv audience
      publicKeysById := OrderedDict.empty.update fields
      allowedAlgorithms := splitCsv settings.basisLocalTokenAllowedAlgorithms
      leewaySeconds := settings.basisLocalTokenLeewaySeconds }

end

/-! ## Comma-separated lists -/

/-- What an entry of a comma-separated list can be. -/
def Listable (entry : String) : Prop := Trimmed entry ∧ ',' ∉ entry.toList

theorem blank_strip_iff {s : String} : blank (strip s) = true ↔ strip s = "" := by
  constructor
  · intro h
    have htrims : Separators.Trims isSpace s.toList (strip s).toList := strip_eq_iff.1 rfl
    rw [← String.toList_inj, String.toList_empty]
    cases hcore : (strip s).toList with
    | nil => rfl
    | cons c cs =>
      have hfirst := htrims.first c (by rw [hcore]; rfl)
      rw [blank, hcore, List.all_cons, hfirst] at h
      cases h
  · intro h
    rw [h]
    rfl

theorem strip_strip (s : String) : strip (strip s) = strip s := by
  have htrims : Separators.Trims isSpace s.toList (strip s).toList := strip_eq_iff.1 rfl
  rw [strip_eq_iff]
  exact { between := ⟨[], [], by simp, by simp, by simp⟩, first := htrims.first, last := htrims.last }

theorem mem_of_mem_strip {s : String} {c : Char} (h : c ∈ (strip s).toList) : c ∈ s.toList := by
  have htrims : Separators.Trims isSpace s.toList (strip s).toList := strip_eq_iff.1 rfl
  obtain ⟨before, after, heq, -, -⟩ := htrims.between
  rw [heq]
  simp [h]

/-- Every entry that is read is listable. -/
theorem listable_of_mem_splitCsv {value entry : String} (h : entry ∈ splitCsv value) : Listable entry := by
  simp only [splitCsv, splitCommas, List.mem_filter, List.mem_map, decide_eq_true_eq] at h
  obtain ⟨⟨_, ⟨part, hpart, rfl⟩, rfl⟩, hne⟩ := h
  have hblank : blank (strip (String.ofList part)) = false := by
    rw [Bool.eq_false_iff]
    intro hblank
    exact hne (blank_strip_iff.1 hblank)
  refine ⟨⟨hblank, strip_strip _⟩, fun hcomma => ?_⟩
  have hmem := mem_of_mem_strip hcomma
  rw [String.toList_ofList] at hmem
  exact Separators.not_mem_of_mem_splitOn hpart hmem

/-- `entries` are what stands between the commas of `text`, without the blanks around it, where there is
anything else. -/
def SpellsList (text : String) (entries : List String) : Prop :=
  ∃ (parts : List (List Char)) (trimmed : List String), Separators.Parts ',' text.toList parts ∧
    List.Forall₂ (Separators.Trims isSpace) parts (trimmed.map String.toList) ∧
    entries = trimmed.filter fun entry => entry ≠ ""

theorem forall₂_trims_iff {parts : List (List Char)} {trimmed : List String} :
    List.Forall₂ (Separators.Trims isSpace) parts (trimmed.map String.toList) ↔
      (parts.map String.ofList).map strip = trimmed := by
  induction parts generalizing trimmed with
  | nil => simp [eq_comm]
  | cons part parts ih =>
    cases trimmed with
    | nil => simp
    | cons entry trimmed =>
      simp only [List.map_cons, List.forall₂_cons, ih, List.cons.injEq, strip_eq_iff, String.toList_ofList]

theorem splitCsv_eq_iff {text : String} {entries : List String} :
    splitCsv text = entries ↔ SpellsList text entries := by
  rw [splitCsv, splitCommas]
  constructor
  · rintro rfl
    exact ⟨_, _, Separators.parts_splitOn ',' text.toList, forall₂_trims_iff.2 rfl, rfl⟩
  · rintro ⟨parts, trimmed, hparts, htrimmed, rfl⟩
    rw [hparts.splitOn_eq, forall₂_trims_iff.1 htrimmed]

/-- A list of listable entries is read back from its text. -/
theorem splitCsv_intercalate {entries : List String} (h : ∀ entry ∈ entries, Listable entry) :
    splitCsv (",".intercalate entries) = entries := by
  cases entries with
  | nil =>
    rw [String.intercalate_nil]
    rfl
  | cons entry rest =>
    have hfree : ∀ part ∈ (entry :: rest).map String.toList, ',' ∉ part := by
      intro part hpart
      obtain ⟨e, he, rfl⟩ := List.mem_map.1 hpart
      exact (h e he).2
    have hparts : splitCommas (",".intercalate (entry :: rest)) = entry :: rest := by
      rw [splitCommas, String.toList_intercalate]
      have hsplit := List.splitOn_intercalate ',' hfree (by simp)
      rw [show ",".toList = [','] from rfl, hsplit, List.map_map]
      simp
    have hstrip : (entry :: rest).map strip = entry :: rest := by
      rw [List.map_congr_left fun e he => (h e he).1.2, List.map_id']
    rw [splitCsv, hparts, hstrip, List.filter_eq_self]
    intro e he
    have hne : e ≠ "" := by
      rintro rfl
      have hblank := (h "" he).1.1
      cases hblank
    simpa using hne

/-! ## What the settings build -/

section

variable {tables : UnicodeTables} {jsonLoads : String → Except PyExc Json}

/-- The constructor returns the configuration of these fields, when they are valid. -/
theorem make_eq_ok {fields : BasisLocalTokenTrustFields} {trust : BasisLocalTokenTrustConfig tables} :
    BasisLocalTokenTrustConfig.make tables fields = .ok trust ↔
      trust.toBasisLocalTokenTrustFields = fields := by
  unfold BasisLocalTokenTrustConfig.make
  split
  next exc hexc =>
    simp only [reduceCtorEq, false_iff]
    rintro rfl
    rw [BasisLocalTokenTrustFields.postInit_eq_ok.2 trust.valid] at hexc
    cases hexc
  next h =>
    rw [Except.ok.injEq]
    constructor
    · rintro rfl
      rfl
    · rintro rfl
      rfl

theorem requireSetting_eq_ok {name text : String} {value : Option String} :
    requireSetting name value = .ok text ↔ value = some text ∧ text ≠ "" := by
  cases value with
  | none => simp [requireSetting, requireSetting.missing]
  | some s =>
    rw [requireSetting, requireSetting.missing, Except.guard_eq_ok, Except.ok.injEq, Option.some.injEq]
    constructor
    · rintro ⟨hne, rfl⟩
      exact ⟨rfl, hne⟩
    · rintro ⟨rfl, hne⟩
      exact ⟨hne, rfl⟩

theorem requirePublicKeys_eq_ok {publicKeys : Json} {fields : List (String × Json)} :
    requirePublicKeys publicKeys = .ok fields ↔ publicKeys = .obj fields ∧ fields ≠ [] := by
  cases publicKeys with
  | obj members =>
    rw [requirePublicKeys, requirePublicKeys.notAnObject, Except.guard_eq_ok, Except.ok.injEq, Json.obj.injEq,
      List.isEmpty_iff]
    constructor
    · rintro ⟨hne, rfl⟩
      exact ⟨rfl, hne⟩
    · rintro ⟨rfl, hne⟩
      exact ⟨hne, rfl⟩
  | _ => simp [requirePublicKeys, requirePublicKeys.notAnObject]

/-- The settings are there, and these are the fields they spell out. -/
structure TrustSettings (jsonLoads : String → Except PyExc Json) (settings : Settings)
    (audienceText keysText : String) (keys : List (String × Json)) (fields : BasisLocalTokenTrustFields) :
    Prop where
  issuer : settings.basisLocalTokenIssuer = some fields.issuer
  issuer_ne : fields.issuer ≠ ""
  audience : settings.basisLocalTokenAudience = some audienceText
  audience_ne : audienceText ≠ ""
  publicKeys : settings.basisLocalTokenPublicKeysJson = some keysText
  publicKeys_ne : keysText ≠ ""
  loads : jsonLoads keysText = .ok (.obj keys)
  keys_ne : keys ≠ []
  audienceEntries : SpellsList audienceText fields.audience
  publicKeysById : fields.publicKeysById = OrderedDict.empty.update keys
  algorithms : SpellsList settings.basisLocalTokenAllowedAlgorithms fields.allowedAlgorithms
  requiredClaims : fields.requiredClaims =
    ["iss", "sub", "aud", "iat", "exp", "jti", "typ", "basis.session_id", "basis.provider_id",
      "basis.authority_mode", "basis.authentication_protocol", "basis.canonical_identity"]
  leewaySeconds : fields.leewaySeconds = settings.basisLocalTokenLeewaySeconds

/-- The fields that the settings spell out are those the configuration is made of. -/
theorem TrustSettings.spelled {settings : Settings} {audienceText keysText : String} {keys : List (String × Json)}
    {fields : BasisLocalTokenTrustFields} (h : TrustSettings jsonLoads settings audienceText keysText keys fields) :
    fields =
      { issuer := fields.issuer
        audience := splitCsv audienceText
        publicKeysById := OrderedDict.empty.update keys
        allowedAlgorithms := splitCsv settings.basisLocalTokenAllowedAlgorithms
        leewaySeconds := settings.basisLocalTokenLeewaySeconds } := by
  obtain ⟨issuer, audience, publicKeysById, algorithms, requiredClaims, leewaySeconds⟩ := fields
  simp only [splitCsv_eq_iff.2 h.audienceEntries, splitCsv_eq_iff.2 h.algorithms, h.publicKeysById.symm,
    h.leewaySeconds.symm, BasisLocalTokenTrustFields.mk.injEq, true_and, and_true]
  exact h.requiredClaims

theorem buildBasisLocalTokenTrustConfig_eq_ok {settings : Settings} {trust : BasisLocalTokenTrustConfig tables} :
    buildBasisLocalTokenTrustConfig tables jsonLoads settings = .ok trust ↔
      ∃ audienceText keysText keys,
        TrustSettings jsonLoads settings audienceText keysText keys trust.toBasisLocalTokenTrustFields := by
  simp only [buildBasisLocalTokenTrustConfig, Except.bind_eq_ok, requireSetting_eq_ok, Except.mapError_eq_ok,
    requirePublicKeys_eq_ok, make_eq_ok]
  constructor
  · intro h
    obtain ⟨issuer, ⟨hissuer, hissuerNe⟩, audience, ⟨haudience, haudienceNe⟩, keysText, ⟨hkeys, hkeysNe⟩,
      publicKeys, hloads, keys, ⟨rfl, hne⟩, hfields⟩ := h
    refine ⟨audience, keysText, keys, ?_⟩
    rw [hfields]
    exact { issuer := hissuer, issuer_ne := hissuerNe, audience := haudience, audience_ne := haudienceNe
            publicKeys := hkeys, publicKeys_ne := hkeysNe, loads := hloads, keys_ne := hne
            audienceEntries := splitCsv_eq_iff.1 rfl, publicKeysById := rfl, algorithms := splitCsv_eq_iff.1 rfl
            requiredClaims := rfl, leewaySeconds := rfl }
  · intro h
    obtain ⟨audience, keysText, keys, h⟩ := h
    exact ⟨trust.issuer, ⟨h.issuer, h.issuer_ne⟩, audience, ⟨h.audience, h.audience_ne⟩, keysText,
      ⟨h.publicKeys, h.publicKeys_ne⟩, .obj keys, h.loads, keys, ⟨rfl, h.keys_ne⟩, h.spelled⟩

end

/-! ## What the settings can say -/

section

variable {tables : UnicodeTables}

/-- The configurations that settings can say: no entry of a list has a comma in it, and the required claims
are the default ones. -/
structure BasisLocalTokenTrustConfig.FromSettings (trust : BasisLocalTokenTrustConfig tables) : Prop where
  audience : ∀ entry ∈ trust.audience, ',' ∉ entry.toList
  algorithms : ∀ alg ∈ trust.allowedAlgorithms, ',' ∉ alg.toList
  required : trust.requiredClaims =
    ["iss", "sub", "aud", "iat", "exp", "jti", "typ", "basis.session_id", "basis.provider_id",
      "basis.authority_mode", "basis.authentication_protocol", "basis.canonical_identity"]

/-- The settings that spell this configuration out, with its keys as this JSON text, and say all else as the
others do. -/
def BasisLocalTokenTrustConfig.settings (trust : BasisLocalTokenTrustConfig tables) (others : Settings)
    (keysText : String) : Settings :=
  { others with
    authMode := .basisLocalToken
    basisLocalTokenIssuer := some trust.issuer
    basisLocalTokenAudience := some (",".intercalate trust.audience)
    basisLocalTokenPublicKeysJson := some keysText
    basisLocalTokenAllowedAlgorithms := ",".intercalate trust.allowedAlgorithms
    basisLocalTokenLeewaySeconds := trust.leewaySeconds
    basisLocalTokenLeewaySeconds_nonneg := trust.valid.leeway }

theorem intercalate_ne_empty {entries : List String} (hne : entries ≠ [])
    (h : ∀ entry ∈ entries, Trimmed entry) : ",".intercalate entries ≠ "" := by
  cases entries with
  | nil => exact absurd rfl hne
  | cons entry rest =>
    have hblank : blank entry = false := (h entry (List.mem_cons_self ..)).1
    have hentry : entry ≠ "" := by
      rintro rfl
      cases hblank
    cases rest with
    | nil =>
      rw [String.intercalate_singleton]
      exact hentry
    | cons next rest =>
      rw [String.intercalate_cons_cons]
      simp

end

/-- **The settings say exactly these configurations**: each is built from the settings that spell it out,
whatever the others say, and no other is built from any settings. -/
theorem trust_settings_exact {tables : UnicodeTables} {jsonLoads : String → Except PyExc Json}
    (trust : BasisLocalTokenTrustConfig tables) :
    (∀ others keysText, trust.FromSettings → keysText ≠ "" →
      jsonLoads keysText = .ok (.obj trust.publicKeysById.entries) →
        buildBasisLocalTokenTrustConfig tables jsonLoads (trust.settings others keysText) = .ok trust) ∧
    ∀ settings, buildBasisLocalTokenTrustConfig tables jsonLoads settings = .ok trust → trust.FromSettings := by
  constructor
  · intro others keysText h hne hloads
    have haudience : splitCsv (",".intercalate trust.audience) = trust.audience :=
      splitCsv_intercalate fun entry hentry => ⟨trust.valid.audience entry hentry, h.audience entry hentry⟩
    have halgorithms : splitCsv (",".intercalate trust.allowedAlgorithms) = trust.allowedAlgorithms :=
      splitCsv_intercalate fun alg halg => ⟨(trust.valid.algorithms alg halg).1, h.algorithms alg halg⟩
    have hkeys : OrderedDict.empty.update trust.publicKeysById.entries = trust.publicKeysById :=
      OrderedDict.ext (OrderedDict.entries_update_of_disjoint trust.publicKeysById.nodup (by simp [OrderedDict.keys]))
    refine buildBasisLocalTokenTrustConfig_eq_ok.2
      ⟨",".intercalate trust.audience, keysText, trust.publicKeysById.entries, ?_⟩
    refine { issuer := rfl, issuer_ne := ?_, audience := rfl, audience_ne := ?_, publicKeys := rfl
             publicKeys_ne := hne, loads := hloads, keys_ne := trust.valid.keys_ne
             audienceEntries := splitCsv_eq_iff.1 haudience, publicKeysById := hkeys.symm
             algorithms := splitCsv_eq_iff.1 halgorithms, requiredClaims := h.required, leewaySeconds := rfl }
    · intro hempty
      have hblank := trust.valid.issuer.1
      rw [hempty] at hblank
      cases hblank
    · exact intercalate_ne_empty trust.valid.audience_ne trust.valid.audience
  · intro settings hbuild
    obtain ⟨audienceText, keysText, keys, h⟩ := buildBasisLocalTokenTrustConfig_eq_ok.1 hbuild
    refine { audience := ?_, algorithms := ?_, required := ?_ }
    · rw [h.spelled]
      exact fun entry hentry => (listable_of_mem_splitCsv hentry).2
    · rw [h.spelled]
      exact fun alg halg => (listable_of_mem_splitCsv halg).2
    · exact h.requiredClaims

/-- The theorem at this configuration, and the JSON text of its key. -/
theorem trust_settings_exact_single :
    buildBasisLocalTokenTrustConfig asciiTables (fun _ => .ok (.obj [("key-1", .str "-----BEGIN PUBLIC KEY-----")]))
      (singleKeyTrust.settings {} "\x7b\"key-1\": \"-----BEGIN PUBLIC KEY-----\"\x7d") = .ok singleKeyTrust :=
  (trust_settings_exact singleKeyTrust).1 {} _ ⟨by decide, by decide, rfl⟩ (by decide) rfl

end BasisGateway
