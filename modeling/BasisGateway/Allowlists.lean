/-
The two allowlists, from their settings to the decisions made with them: the
parsers of `config.py`, and `admit_producer` of `auth/producer_mtls.py`.

The subject ids are a comma-separated text whose parts are trimmed. The
producer URIs are a JSON array of strings, each kept as it is written.
`json.loads` is a parameter.
-/
import Mathlib.Data.Finset.Dedup
import BasisGateway.Auth.OperationProducer
import BasisGateway.Lib.Checks
import BasisGateway.Lib.Separators

namespace BasisGateway

/-- An element of a collection. One that is no string has its `str` and the `repr` of its type. -/
inductive SettingItem
  | str (s : String)
  | other (asText typeRepr : String)

/-- A setting as it comes to its parser: a text from the environment, or what the constructor was called
with, a value of another type being the `repr` of the type. -/
inductive Setting
  | none
  | text (v : String)
  | collection (items : List SettingItem)
  | other (typeRepr : String)

/-- `str(item)`. -/
def SettingItem.asText : SettingItem → String
  | .str s => s
  | .other asText _ => asText

/-- `v.split(",")`. -/
def splitCommas (v : String) : List String := (v.toList.splitOn ',').map String.ofList

/-- `frozenset(part.strip() for part in parts if part.strip())`. -/
def strippedEntries (parts : List String) : Finset String :=
  ((parts.map strip).filter fun part => part ≠ "").toFinset

/-- `parse_operation_producer_subject_ids`. -/
def parseOperationProducerSubjectIds : Setting → Except PyExc (Finset String)
  | .none => .ok ∅
  | .text v => .ok (strippedEntries (splitCommas v))
  | .collection items => .ok (strippedEntries (items.map SettingItem.asText))
  | .other typeRepr => .error
    { cls := .typeError
      msg := "operation_producer_subject_ids must be a comma-separated string or an " ++
        "iterable of strings, got " ++ typeRepr }

def admittedUrisValueError (msg : String) : PyExc := { cls := .valueError, msg }

/-- An entry that has to be a non-empty string: `asString` is what it is as one. -/
def admittedEntry (asString : Option String) (notString empty : PyExc) : Except PyExc String :=
  match asString with
  | none => .error notString
  | some entry => if entry = "" then .error empty else .ok entry

/-- An entry of the collection. -/
def admittedItem (item : SettingItem) : Except PyExc String :=
  admittedEntry (match item with | .str s => some s | .other .. => none)
    { cls := .typeError
      msg := "operation_producer_mtls_admitted_uris entries must all be strings, got " ++
        match item with | .str _ => "<class 'str'>" | .other _ typeRepr => typeRepr }
    (admittedUrisValueError "operation_producer_mtls_admitted_uris entries must not be empty strings")

/-- An entry of the JSON array. -/
def admittedJson (item : Json) : Except PyExc String :=
  admittedEntry (match item with | .str s => some s | _ => none)
    (admittedUrisValueError ("OPERATION_PRODUCER_MTLS_ADMITTED_URIS entries must all be JSON strings, got " ++
      item.typeName))
    (admittedUrisValueError "OPERATION_PRODUCER_MTLS_ADMITTED_URIS entries must not be empty strings")

/-- The entries of what the text was parsed to. -/
def admittedArray : Json → Except PyExc (Finset String)
  | .arr items => (items.mapM admittedJson).map List.toFinset
  | parsed => .error (admittedUrisValueError
    ("OPERATION_PRODUCER_MTLS_ADMITTED_URIS must be a JSON array of strings, not " ++ parsed.typeName ++
      " — a scalar string, a JSON object, or any other JSON shape is rejected"))

/-- `parse_operation_producer_mtls_admitted_uris`. -/
def parseOperationProducerMtlsAdmittedUris (jsonLoads : String → Except PyExc Json) :
    Setting → Except PyExc (Finset String)
  | .none => .ok ∅
  | .collection items => (items.mapM admittedItem).map List.toFinset
  | .text v =>
    match jsonLoads v with
    | .ok parsed => admittedArray parsed
    | .error exc =>
      if exc.isInstance .jsonDecodeError then .error (admittedUrisValueError
        ("OPERATION_PRODUCER_MTLS_ADMITTED_URIS must be valid JSON — a JSON array of exact producer " ++
          "identity strings: " ++ exc.msg))
      else .error exc
  | .other typeRepr => .error
    { cls := .typeError
      msg := "operation_producer_mtls_admitted_uris must be a JSON array string or an iterable of strings, got " ++
        typeRepr }

/-- What the default factory of both fields gives when the setting is absent. -/
def Setting.absent : Setting := .collection []

/-! ## Admission -/

inductive ProducerAdmissionStatus
  | admitted | notAdmitted
  deriving DecidableEq, Repr

/-- `ProducerAdmissionResult`. -/
structure ProducerAdmissionResult where
  status : ProducerAdmissionStatus
  producerUri : String
  deriving DecidableEq, Repr

/-- What `admit_producer` can be called with: the set it asks for, or a string, which it refuses. -/
inductive AdmittedProducerUris
  | uris (set : Finset String)
  | str (s : String)

/-- `admit_producer`. -/
def admitProducer (producerUri : String) : AdmittedProducerUris → Except PyExc ProducerAdmissionResult
  | .str _ => .error
    { cls := .producerAdmissionConfigurationError
      msg := "admitted_producer_uris must be a set of exact producer identity strings, not a single str" }
  | .uris admitted =>
    if producerUri ∈ admitted then .ok { status := .admitted, producerUri }
    else .ok { status := .notAdmitted, producerUri }

/-- The trust that `resolve_mtls_operation_producer_trust` makes of an admission. -/
def trustOfAdmission (subject : NormalizedSubject) (result : ProducerAdmissionResult) : OperationProducerTrust :=
  match result.status with
  | .admitted =>
    { status := .trusted, source := .mtlsAdmittedUriSan, authorizationSubjectId := subject.subjectId,
      operationProducerSubjectId := none, producerWorkloadIdentity := some result.producerUri }
  | .notAdmitted =>
    { status := .untrusted, source := .mtlsUriSanNotAdmitted, authorizationSubjectId := subject.subjectId,
      operationProducerSubjectId := none, producerWorkloadIdentity := some result.producerUri }

/-- The admission inside the certificate pipeline is `admit_producer`'s. -/
theorem admitProducer_trust (subject : NormalizedSubject) (uris : Finset String) (uri : String) :
    (admitProducer uri (.uris uris)).map (trustOfAdmission subject) = .ok (admittedTrust subject uris uri) := by
  by_cases hmem : uri ∈ uris
  · simp only [admitProducer, admittedTrust, hmem, if_true]
    rfl
  · simp only [admitProducer, admittedTrust, hmem, if_false]
    rfl

theorem admitted_iff {uris : Finset String} {uri : String} :
    admitProducer uri (.uris uris) = .ok { status := .admitted, producerUri := uri } ↔ uri ∈ uris := by
  by_cases hmem : uri ∈ uris
  · simp [admitProducer, hmem]
  · simp [admitProducer, hmem]

theorem trusted_iff {subject : NormalizedSubject} {ids : Finset String} :
    (classifyOperationProducer subject ids).status = .trusted ↔ subject.subjectId ∈ ids := by
  by_cases hempty : ids = ∅
  · simp [classifyOperationProducer, hempty]
  · by_cases hmem : subject.subjectId ∈ ids
    · simp [classifyOperationProducer, hempty, hmem]
    · simp [classifyOperationProducer, hempty, hmem]

/-! ## The URIs -/

section

variable {jsonLoads : String → Except PyExc Json} {text : String} {uris : Finset String}

/-- `text` is a JSON array of exactly these strings. -/
def DenotesStrings (jsonLoads : String → Except PyExc Json) (text : String) (entries : List String) : Prop :=
  jsonLoads text = .ok (.arr (entries.map .str))

theorem admittedEntry_eq_ok {asString : Option String} {notString empty : PyExc} {entry : String} :
    admittedEntry asString notString empty = .ok entry ↔ asString = some entry ∧ entry ≠ "" := by
  cases asString with
  | none => simp [admittedEntry]
  | some s =>
    by_cases hs : s = ""
    · simp only [admittedEntry, hs, if_true, reduceCtorEq, Option.some.injEq, false_iff]
      intro h
      exact h.2 h.1.symm
    · simp only [admittedEntry, hs, if_false, Except.ok.injEq, Option.some.injEq]
      constructor
      · intro h
        exact ⟨h, h ▸ hs⟩
      · intro h
        exact h.1

theorem admittedJson_eq_ok {item : Json} {entry : String} :
    admittedJson item = .ok entry ↔ item = .str entry ∧ entry ≠ "" := by
  cases item <;> simp [admittedJson, admittedEntry_eq_ok]

theorem admittedItem_eq_ok {item : SettingItem} {entry : String} :
    admittedItem item = .ok entry ↔ item = .str entry ∧ entry ≠ "" := by
  cases item <;> simp [admittedItem, admittedEntry_eq_ok]

/-- Either way of listing them, what is read are non-empty strings. -/
theorem mapM_admitted_eq_ok {α : Type} {admitted : α → Except PyExc String} {str : String → α}
    (hreads : ∀ item entry, admitted item = .ok entry ↔ item = str entry ∧ entry ≠ "") {items : List α}
    {entries : List String} : items.mapM admitted = .ok entries ↔ items = entries.map str ∧ "" ∉ entries := by
  rw [Except.mapM_eq_ok_of_reads hreads]
  have hne : (∀ entry ∈ entries, entry ≠ "") ↔ "" ∉ entries := by
    constructor
    · intro h hmem
      exact h "" hmem rfl
    · intro h entry hmem heq
      exact h (heq ▸ hmem)
  rw [hne]

theorem mapM_admittedJson_eq_ok {items : List Json} {entries : List String} :
    items.mapM admittedJson = .ok entries ↔ items = entries.map .str ∧ "" ∉ entries :=
  mapM_admitted_eq_ok fun _ _ => admittedJson_eq_ok

theorem mapM_admittedItem_eq_ok {items : List SettingItem} {entries : List String} :
    items.mapM admittedItem = .ok entries ↔ items = entries.map .str ∧ "" ∉ entries :=
  mapM_admitted_eq_ok fun _ _ => admittedItem_eq_ok

/-- The texts that are let through are the JSON arrays of non-empty strings, and the set is that of the
array's elements. -/
theorem parseUris_eq_ok_iff :
    parseOperationProducerMtlsAdmittedUris jsonLoads (.text text) = .ok uris ↔
      ∃ entries, DenotesStrings jsonLoads text entries ∧ "" ∉ entries ∧ uris = entries.toFinset := by
  unfold DenotesStrings
  cases hloads : jsonLoads text with
  | error exc =>
    simp only [parseOperationProducerMtlsAdmittedUris, hloads, reduceCtorEq, false_and, exists_false, iff_false]
    split <;> simp
  | ok parsed =>
    simp only [parseOperationProducerMtlsAdmittedUris, hloads, Except.ok.injEq]
    cases parsed with
    | arr items =>
      simp only [admittedArray, Except.map_eq_ok, mapM_admittedJson_eq_ok, Json.arr.injEq]
      constructor
      · intro h
        obtain ⟨entries, ⟨hitems, hne⟩, huris⟩ := h
        exact ⟨entries, hitems, hne, huris.symm⟩
      · intro h
        obtain ⟨entries, hitems, hne, huris⟩ := h
        exact ⟨entries, ⟨hitems, hne⟩, huris.symm⟩
    | _ => simp [admittedArray]

/-- However the URIs are set, the empty string is not one of them. -/
theorem empty_notMem_uris {setting : Setting}
    (h : parseOperationProducerMtlsAdmittedUris jsonLoads setting = .ok uris) : "" ∉ uris := by
  cases setting with
  | none =>
    cases h
    exact Finset.notMem_empty ""
  | text v =>
    obtain ⟨entries, -, hne, rfl⟩ := parseUris_eq_ok_iff.1 h
    simpa using hne
  | collection items =>
    obtain ⟨entries, hentries, rfl⟩ := Except.map_eq_ok.1 h
    obtain ⟨-, hne⟩ := mapM_admittedItem_eq_ok.1 hentries
    simpa using hne
  | other typeRepr => cases h

end

/-! ## The subject ids -/

/-- `id` is a comma-separated part of `text`, its surrounding whitespace cut off. -/
def TrimmedPart (text id : String) : Prop :=
  ∃ parts part, Separators.Parts ',' text.toList parts ∧ part ∈ parts ∧ Separators.Trims isSpace part id.toList

theorem mem_strippedEntries {parts : List String} {id : String} :
    id ∈ strippedEntries parts ↔ id ≠ "" ∧ ∃ part ∈ parts, strip part = id := by
  simp [strippedEntries, and_comm]

theorem strip_eq_iff {s core : String} : strip s = core ↔ Separators.Trims isSpace s.toList core.toList := by
  rw [Separators.trims_iff, strip, ← String.toList_inj, String.toList_ofList]

theorem mem_splitCommas_stripped {text id : String} :
    id ∈ strippedEntries (splitCommas text) ↔ id ≠ "" ∧ TrimmedPart text id := by
  rw [mem_strippedEntries, splitCommas]
  have hparts : (∃ part ∈ (text.toList.splitOn ',').map String.ofList, strip part = id) ↔ TrimmedPart text id := by
    simp only [List.mem_map, strip_eq_iff]
    constructor
    · intro h
      obtain ⟨_, ⟨part, hpart, rfl⟩, htrims⟩ := h
      rw [String.toList_ofList] at htrims
      exact ⟨_, part, Separators.parts_splitOn ',' text.toList, hpart, htrims⟩
    · intro h
      obtain ⟨parts, part, hparts, hpart, htrims⟩ := h
      rw [hparts.splitOn_eq]
      exact ⟨String.ofList part, ⟨part, hpart, rfl⟩, by rwa [String.toList_ofList]⟩
  rw [hparts]

/-- Whitespace and commas alone have no part but the empty one. -/
theorem no_trimmedPart {text id : String} (hblank : ∀ c ∈ text.toList, isSpace c = true ∨ c = ',')
    (h : TrimmedPart text id) : id = "" := by
  obtain ⟨parts, part, hparts, hpart, htrims⟩ := h
  rw [← String.toList_inj, String.toList_empty]
  have hspaces : ∀ c ∈ part, isSpace c = true := by
    intro c hc
    have hmem : c ∈ text.toList := by
      rw [← hparts.joined]
      exact Separators.mem_intercalate hpart hc
    refine (hblank c hmem).resolve_right ?_
    intro hcomma
    rw [hcomma] at hc
    exact hparts.free part hpart hc
  obtain ⟨before, after, hpart, -, -⟩ := htrims.between
  cases hid : id.toList with
  | nil => rfl
  | cons c cs =>
    have hfirst := htrims.first c (by rw [hid]; rfl)
    rw [hspaces c (by rw [hpart, hid]; simp)] at hfirst
    cases hfirst

/-! ## Exactness -/

/-- The URIs of a text: a JSON array of non-empty strings is read to the set of its elements, of which each
is admitted and nothing else is; no other text is read. -/
structure AdmittedUrisExact (jsonLoads : String → Except PyExc Json) (text : String) : Prop where
  reads : ∀ entries, DenotesStrings jsonLoads text entries → "" ∉ entries →
    ∃ uris, parseOperationProducerMtlsAdmittedUris jsonLoads (.text text) = .ok uris ∧
      (∀ uri, uri ∈ uris ↔ uri ∈ entries) ∧
      ∀ uri, admitProducer uri (.uris uris) = .ok { status := .admitted, producerUri := uri } ↔ uri ∈ entries
  rejects : (¬ ∃ entries, DenotesStrings jsonLoads text entries ∧ "" ∉ entries) →
    ∃ exc, parseOperationProducerMtlsAdmittedUris jsonLoads (.text text) = .error exc

/-- The subject ids of a text: its non-empty trimmed parts, which are the ids that are trusted. -/
structure SubjectIdsExact (text : String) : Prop where
  reads : ∃ ids, parseOperationProducerSubjectIds (.text text) = .ok ids ∧
    (∀ id, id ∈ ids ↔ id ≠ "" ∧ TrimmedPart text id) ∧
    ∀ subject, (classifyOperationProducer subject ids).status = .trusted ↔
      subject.subjectId ≠ "" ∧ TrimmedPart text subject.subjectId

/-- No subject is trusted by these ids, and no URI admitted by these URIs. -/
structure TrustsNobody (ids uris : Except PyExc (Finset String)) : Prop where
  subjects : ∃ set, ids = .ok set ∧ ∀ subject, (classifyOperationProducer subject set).status = .untrusted
  producers : ∃ set, uris = .ok set ∧
    ∀ uri, admitProducer uri (.uris set) = .ok { status := .notAdmitted, producerUri := uri }

theorem untrusted_of_empty (subject : NormalizedSubject) :
    (classifyOperationProducer subject ∅).status = .untrusted := by
  simp [classifyOperationProducer]

theorem notAdmitted_of_empty (uri : String) :
    admitProducer uri (.uris ∅) = .ok { status := .notAdmitted, producerUri := uri } := by
  simp [admitProducer]

/-- **From the setting to the decision**: what the two allowlists let through is what their settings list. -/
theorem allowlists_exact (jsonLoads : String → Except PyExc Json) :
    (∀ text, AdmittedUrisExact jsonLoads text) ∧ (∀ text, SubjectIdsExact text) ∧
    TrustsNobody (parseOperationProducerSubjectIds .none)
      (parseOperationProducerMtlsAdmittedUris jsonLoads .none) ∧
    TrustsNobody (parseOperationProducerSubjectIds .absent)
      (parseOperationProducerMtlsAdmittedUris jsonLoads .absent) ∧
    ∀ text array, (∀ c ∈ text.toList, isSpace c = true ∨ c = ',') → DenotesStrings jsonLoads array [] →
      TrustsNobody (parseOperationProducerSubjectIds (.text text))
        (parseOperationProducerMtlsAdmittedUris jsonLoads (.text array)) := by
  refine ⟨?_, ?_, ?_, ?_, ?_⟩
  · intro text
    constructor
    · intro entries hdenotes hne
      refine ⟨entries.toFinset, parseUris_eq_ok_iff.2 ⟨entries, hdenotes, hne, rfl⟩, ?_, ?_⟩
      · intro uri
        exact List.mem_toFinset
      · intro uri
        rw [admitted_iff, List.mem_toFinset]
    · intro hnone
      cases hparse : parseOperationProducerMtlsAdmittedUris jsonLoads (.text text) with
      | error exc => exact ⟨exc, rfl⟩
      | ok uris =>
        obtain ⟨entries, hdenotes, hne, -⟩ := parseUris_eq_ok_iff.1 hparse
        exact absurd ⟨entries, hdenotes, hne⟩ hnone
  · intro text
    refine ⟨strippedEntries (splitCommas text), rfl, fun id => mem_splitCommas_stripped, ?_⟩
    intro subject
    rw [trusted_iff, mem_splitCommas_stripped]
  · exact ⟨⟨∅, rfl, untrusted_of_empty⟩, ∅, rfl, notAdmitted_of_empty⟩
  · exact ⟨⟨∅, rfl, untrusted_of_empty⟩, ∅, rfl, notAdmitted_of_empty⟩
  · intro text array hblank hempty
    have hids : strippedEntries (splitCommas text) = ∅ := by
      refine Finset.eq_empty_of_forall_notMem ?_
      intro id hid
      obtain ⟨hne, hpart⟩ := mem_splitCommas_stripped.1 hid
      exact hne (no_trimmedPart hblank hpart)
    refine ⟨⟨∅, ?_, untrusted_of_empty⟩, ∅, ?_, notAdmitted_of_empty⟩
    · rw [parseOperationProducerSubjectIds, hids]
    · exact parseUris_eq_ok_iff.2 ⟨[], hempty, List.not_mem_nil, rfl⟩

end BasisGateway
