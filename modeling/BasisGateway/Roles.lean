/-
Where the roles of a caller come from, and that both authentication modes
make the same of them: the first list found along the paths of the mode, its
string entries in strictly increasing order.
-/
import Mathlib.Data.List.Sort
import BasisGateway.Auth.Subject
import BasisGateway.Lib.JsonTrees

namespace BasisGateway

/-! ## The list of a mode -/

/-- The list at the first of `paths` that leads to one, and no roles when none does. -/
inductive FirstList (j : Json) : List (List String) → List Json → Prop
  | found {path : List String} {paths : List (List String)} {raw : List Json} (h : Json.At path j (.arr raw)) :
      FirstList j (path :: paths) raw
  | next {path : List String} {paths : List (List String)} {raw : List Json}
      (hnot : ∀ raw', ¬ Json.At path j (.arr raw')) (hrest : FirstList j paths raw) :
      FirstList j (path :: paths) raw
  | none : FirstList j [] []

theorem FirstList.unique {j : Json} {paths : List (List String)} {raw raw' : List Json}
    (h : FirstList j paths raw) (h' : FirstList j paths raw') : raw = raw' := by
  induction h with
  | found hat =>
    cases h' with
    | found hat' =>
      have hsame := (Json.walk_eq_some_iff.2 hat).symm.trans (Json.walk_eq_some_iff.2 hat')
      simpa using hsame
    | next hnot _ => exact absurd hat (hnot _)
  | next hnot _ ih =>
    cases h' with
    | found hat' => exact absurd hat' (hnot _)
    | next _ hrest' => exact ih hrest'
  | none =>
    cases h'
    rfl

theorem exists_firstList (j : Json) : ∀ paths, ∃ raw, FirstList j paths raw
  | [] => ⟨[], .none⟩
  | path :: paths => by
    by_cases hlist : ∃ raw, Json.At path j (.arr raw)
    · obtain ⟨raw, hat⟩ := hlist
      exact ⟨raw, .found hat⟩
    · obtain ⟨raw, hrest⟩ := exists_firstList j paths
      exact ⟨raw, .next (fun raw' hat => hlist ⟨raw', hat⟩) hrest⟩

/-- Nothing but the lists at the paths matters. -/
theorem FirstList.congr {j j' : Json} {paths : List (List String)} {raw : List Json} (h : FirstList j paths raw)
    (hsame : ∀ path ∈ paths, ∀ raw', Json.At path j (.arr raw') ↔ Json.At path j' (.arr raw')) :
    FirstList j' paths raw := by
  induction h with
  | found hat => exact .found ((hsame _ (List.mem_cons_self ..) _).1 hat)
  | next hnot _ ih =>
    refine .next ?_ (ih fun path hpath => hsame path (List.mem_cons_of_mem _ hpath))
    intro raw' hat
    exact hnot raw' ((hsame _ (List.mem_cons_self ..) raw').2 hat)
  | none => exact .none

/-- Where `map_claims` looks. -/
def oidcRolePaths : List (List String) := [["realm_access", "roles"], ["roles"]]

/-- Where `basis_local_verification_result_to_gateway_identity` looks in the canonical identity. -/
def basisLocalRolePaths : List (List String) := [["subject", "roles"]]

theorem extractRoles_of_firstList {claims : Claims} {raw : List Json}
    (h : FirstList (.obj claims) oidcRolePaths raw) : extractRoles claims = normalizeRoles raw := by
  unfold extractRoles
  cases h with
  | found hat =>
    obtain ⟨realm, hrealm, hroles⟩ := Json.at_two_iff.1 hat
    simp only [hrealm, hroles]
  | next hnot hrest =>
    simp only
    split
    next raw' hnested =>
      split at hnested
      next realm hrealm => exact absurd (Json.at_two_iff.2 ⟨realm, hrealm, hnested⟩) (hnot raw')
      next => cases hnested
    next =>
      cases hrest with
      | found hat => simp only [Json.at_one_iff.1 hat]
      | next hnot hrest =>
        cases hrest
        split
        next raw' hroles => exact absurd (Json.at_one_iff.2 hroles) (hnot raw')
        next => rfl

theorem basisLocalIdentity_roles {result : BasisLocalTokenVerificationResult} {raw : List Json}
    (h : FirstList (.obj result.canonicalIdentity) basisLocalRolePaths raw) :
    (basisLocalIdentity result).1.roles = normalizeRoles raw := by
  unfold basisLocalIdentity
  cases h with
  | found hat =>
    obtain ⟨data, hdata, hroles⟩ := Json.at_two_iff.1 hat
    simp only [hdata, hroles]
  | next hnot hrest =>
    cases hrest
    simp only
    split
    next raw' hroles =>
      split at hroles
      next data hdata => exact absurd (Json.at_two_iff.2 ⟨data, hdata, hroles⟩) (hnot raw')
      next => cases hroles
    next => rfl

/-! ## Canonical roles -/

/-- Exactly the string entries of `raw`, in strictly increasing order. -/
structure CanonicalRoles (raw : List Json) (roles : List String) : Prop where
  increasing : roles.SortedLT
  entries : ∀ role, role ∈ roles ↔ .str role ∈ raw

theorem CanonicalRoles.nodup {raw : List Json} {roles : List String} (h : CanonicalRoles raw roles) :
    roles.Nodup := h.increasing.nodup

theorem canonicalRoles_normalizeRoles (raw : List Json) : CanonicalRoles raw (normalizeRoles raw) where
  increasing := by
    rw [List.sortedLT_iff_nodup_and_sortedLE]
    refine ⟨?_, List.sortedLE_insertionSort⟩
    exact (List.perm_insertionSort (· ≤ ·) _).nodup_iff.2 (List.nodup_dedup _)
  entries := by
    intro role
    rw [normalizeRoles, sortedSet, List.mem_insertionSort, List.mem_dedup, List.mem_filterMap]
    constructor
    · intro h
      obtain ⟨entry, hentry, hrole⟩ := h
      cases entry with
      | str s =>
        obtain rfl : s = role := by simpa using hrole
        exact hentry
      | _ => simp at hrole
    · intro h
      exact ⟨.str role, h, rfl⟩

/-- The same strings stand in both lists. -/
def SameStrings (raw raw' : List Json) : Prop := ∀ role : String, Json.str role ∈ raw ↔ .str role ∈ raw'

theorem CanonicalRoles.unique {raw raw' : List Json} {roles roles' : List String} (h : CanonicalRoles raw roles)
    (h' : CanonicalRoles raw' roles') (hsame : SameStrings raw raw') : roles = roles' := by
  refine h.increasing.eq_of_mem_iff h'.increasing ?_
  intro role
  rw [h.entries, h'.entries, hsame role]

/-- What permuting, repeating entries and putting in values that are no strings make of a list. -/
inductive Rearranges : List Json → List Json → Prop
  | permute {raw raw' : List Json} (h : raw.Perm raw') : Rearranges raw raw'
  | repeats {raw : List Json} {entry : Json} (h : entry ∈ raw) : Rearranges raw (entry :: raw)
  | inserts {raw : List Json} {entry : Json} (h : ∀ role, entry ≠ .str role) : Rearranges raw (entry :: raw)
  | trans {raw raw' raw'' : List Json} (h : Rearranges raw raw') (h' : Rearranges raw' raw'') :
      Rearranges raw raw''

theorem Rearranges.sameStrings {raw raw' : List Json} (h : Rearranges raw raw') : SameStrings raw raw' := by
  induction h with
  | permute h =>
    intro role
    exact h.mem_iff
  | repeats h =>
    intro role
    rw [List.mem_cons]
    constructor
    · intro hmem
      exact .inr hmem
    · intro hmem
      cases hmem with
      | inl heq => exact heq ▸ h
      | inr hmem => exact hmem
  | inserts h =>
    intro role
    simp [Ne.symm (h role)]
  | trans _ _ ih ih' =>
    intro role
    rw [ih role, ih' role]

/-! ## Both modes -/

/-- Some mode makes `roles` of the list `raw` that it finds. -/
inductive ReadsRoles : List Json → List String → Prop
  | oidc {claims : Claims} {subject : NormalizedSubject} {context : IdentityContext} {raw : List Json}
      (hlist : FirstList (.obj claims) oidcRolePaths raw) (hmap : mapClaims claims = .ok (subject, context)) :
      ReadsRoles raw subject.roles
  | basisLocal {result : BasisLocalTokenVerificationResult} {raw : List Json}
      (hlist : FirstList (.obj result.canonicalIdentity) basisLocalRolePaths raw) :
      ReadsRoles raw (basisLocalIdentity result).1.roles

theorem mapClaims_roles {claims : Claims} {subject : NormalizedSubject} {context : IdentityContext}
    (h : mapClaims claims = .ok (subject, context)) : subject.roles = extractRoles claims := by
  unfold mapClaims at h
  split at h
  next =>
    split at h
    next => cases h
    next =>
      cases h
      rfl
  next => cases h

theorem ReadsRoles.eq_normalizeRoles {raw : List Json} {roles : List String} (h : ReadsRoles raw roles) :
    roles = normalizeRoles raw := by
  cases h with
  | oidc hlist hmap => rw [mapClaims_roles hmap, extractRoles_of_firstList hlist]
  | basisLocal hlist => exact basisLocalIdentity_roles hlist

/-- **Roles are canonical**: each mode reads one list, the same string entries give the same roles in either
mode, reading roles again changes nothing, and nothing but the lists at the mode's paths matters. -/
theorem roles_canonical :
    (∀ claims, ∃! raw, FirstList (.obj claims) oidcRolePaths raw) ∧
    (∀ canonicalIdentity, ∃! raw, FirstList (.obj canonicalIdentity) basisLocalRolePaths raw) ∧
    (∀ raw roles, ReadsRoles raw roles → CanonicalRoles raw roles ∧ roles.Nodup) ∧
    (∀ raw roles raw' roles', ReadsRoles raw roles → ReadsRoles raw' roles' →
      SameStrings raw raw' ∨ raw' = roles.map .str → roles' = roles) ∧
    (∀ raw raw', Rearranges raw raw' → SameStrings raw raw') ∧
    ∀ claims claims' subject subject' context context',
      mapClaims claims = .ok (subject, context) → mapClaims claims' = .ok (subject', context') →
      (∀ path ∈ oidcRolePaths, ∀ raw,
        Json.At path (.obj claims) (.arr raw) ↔ Json.At path (.obj claims') (.arr raw)) →
      subject.roles = subject'.roles := by
  have hunique : ∀ j paths, ∃! raw, FirstList j paths raw := by
    intro j paths
    obtain ⟨raw, hraw⟩ := exists_firstList j paths
    exact ⟨raw, hraw, fun raw' hraw' => hraw'.unique hraw⟩
  have hcanonical : ∀ raw roles, ReadsRoles raw roles → CanonicalRoles raw roles := by
    intro raw roles h
    rw [h.eq_normalizeRoles]
    exact canonicalRoles_normalizeRoles raw
  refine ⟨fun claims => hunique _ _, fun canonicalIdentity => hunique _ _, ?_, ?_, ?_, ?_⟩
  · intro raw roles h
    exact ⟨hcanonical raw roles h, (hcanonical raw roles h).nodup⟩
  · intro raw roles raw' roles' h h' hcase
    have hroles := hcanonical raw roles h
    have hroles' := hcanonical raw' roles' h'
    have hsame : SameStrings raw raw' := by
      cases hcase with
      | inl hsame => exact hsame
      | inr hagain =>
        intro role
        rw [hagain, ← hroles.entries]
        simp
    exact (hroles.unique hroles' hsame).symm
  · intro raw raw' h
    exact h.sameStrings
  · intro claims claims' subject subject' context context' h h' hsame
    obtain ⟨raw, hraw⟩ := exists_firstList (.obj claims) oidcRolePaths
    rw [mapClaims_roles h, mapClaims_roles h', extractRoles_of_firstList hraw,
      extractRoles_of_firstList (hraw.congr hsame)]

/-- Two roles, one of them twice, and a number. -/
def mixedRoles : List Json := [.str "viewer", .int 7, .str "admin", .str "viewer"]

/-- Claims whose flat list is hidden. -/
def operatorClaims : Claims :=
  [("sub", .str "operator"), ("realm_access", .obj [("roles", .arr mixedRoles)]), ("roles", .arr [.str "owner"])]

def operatorResult : BasisLocalTokenVerificationResult where
  subjectId := "operator"
  issuer := "basis-identity"
  canonicalIdentity := [("subject", .obj [("roles", .arr mixedRoles)])]
  claims := []

/-- The theorem at these roles: both modes accept the caller, and make the same of them. -/
theorem roles_canonical_operator : ∃ subject context, mapClaims operatorClaims = .ok (subject, context) ∧
    CanonicalRoles mixedRoles subject.roles ∧ (basisLocalIdentity operatorResult).1.roles = subject.roles := by
  have hoidc : FirstList (.obj operatorClaims) oidcRolePaths mixedRoles := .found (Json.at_two_iff.2 ⟨_, rfl, rfl⟩)
  have hlocal : FirstList (.obj operatorResult.canonicalIdentity) basisLocalRolePaths mixedRoles :=
    .found (Json.at_two_iff.2 ⟨_, rfl, rfl⟩)
  obtain ⟨-, -, hcanonical, hsame, -⟩ := roles_canonical
  obtain ⟨subject, context, hmap⟩ : ∃ subject context, mapClaims operatorClaims = .ok (subject, context) :=
    ⟨_, _, rfl⟩
  have hreads : ReadsRoles mixedRoles subject.roles := .oidc hoidc hmap
  exact ⟨subject, context, hmap, (hcanonical _ _ hreads).1,
    hsame _ _ _ _ hreads (.basisLocal hlocal) (.inl fun role => Iff.rfl)⟩

end BasisGateway
