/-
What the v0.1 policy parser accepts, and what the rules it makes say: the
grammar of a policy file as predicates on its JSON value, the meaning of a
rule as the table it was written with.
-/
import Mathlib.Data.Finset.Empty
import BasisGateway.Lib.JsonTrees
import BasisGateway.Policy.Loader

namespace BasisGateway

/-! ## Parsed values -/

/-- No object of a parsed text has a key twice. -/
inductive Json.DistinctKeys : Json → Prop
  | null : DistinctKeys .null
  | bool {b : Bool} : DistinctKeys (.bool b)
  | int {n : Int} : DistinctKeys (.int n)
  | float {repr : String} : DistinctKeys (.float repr)
  | str {s : String} : DistinctKeys (.str s)
  | arr {items : List Json} (hitems : ∀ item ∈ items, DistinctKeys item) : DistinctKeys (.arr items)
  | obj {fields : List (String × Json)} (hkeys : (fields.map Prod.fst).Nodup)
      (hfields : ∀ field ∈ fields, DistinctKeys field.2) : DistinctKeys (.obj fields)

theorem Json.DistinctKeys.items {items : List Json} (h : Json.DistinctKeys (.arr items)) :
    ∀ item ∈ items, Json.DistinctKeys item := by
  cases h with
  | arr hitems => exact hitems

theorem Json.DistinctKeys.keys {fields : List (String × Json)} (h : Json.DistinctKeys (.obj fields)) :
    (fields.map Prod.fst).Nodup := by
  cases h with
  | obj hkeys _ => exact hkeys

theorem Json.DistinctKeys.get? {key : String} {value : Json} {fields : List (String × Json)}
    (h : Json.DistinctKeys (.obj fields)) (hget : Json.get? key fields = some value) : value.DistinctKeys := by
  cases h with
  | obj _ hfields => exact hfields (key, value) (Json.mem_of_get? hget)

/-! ## The grammar -/

/-- `roles` lists the roles of an action: an array of these non-blank strings. -/
def ListsRoles (value : Json) (roles : List String) : Prop :=
  value = .arr (roles.map .str) ∧ ∀ role ∈ roles, blank role = false

/-- A role table: no key is blank, and each stands by an array of non-blank strings. -/
def TableGrammar (table : List (String × Json)) : Prop :=
  ∀ entry ∈ table, blank entry.1 = false ∧ ∃ roles, ListsRoles entry.2 roles

/-- The name of the rule at `index`: the file's, or the default when the file has none. -/
def RuleNamed (index : Nat) (fields : List (String × Json)) (name : String) : Prop :=
  (Json.get? "rule_name" fields = some (.str name) ∧ blank name = false) ∨
  (Json.get? "rule_name" fields = none ∧ name = "rule-" ++ toString index)

/-- A rule: its name absent or a non-blank string, and a role table. -/
def RuleGrammar (raw : Json) : Prop :=
  ∃ fields table, raw = .obj fields ∧
    (Json.get? "rule_name" fields = none ∨
      ∃ name, Json.get? "rule_name" fields = some (.str name) ∧ blank name = false) ∧
    Json.get? "role_table" fields = some (.obj table) ∧ TableGrammar table

/-- A policy: an object with a non-empty array of rules. -/
def PolicyGrammar (data : Json) : Prop :=
  ∃ fields rules, data = .obj fields ∧ Json.get? "rules" fields = some (.arr rules) ∧ rules ≠ [] ∧
    ∀ raw ∈ rules, RuleGrammar raw

/-! ## What it means -/

/-- The roles that a rule has for an action. -/
def RolePolicyRule.rolesFor (rule : RolePolicyRule) (action : String) : Finset String :=
  (rule.roleTable.get? action).getD ∅

/-- The rule made of `raw` at `index`: its name, exactly the actions listed, and for each action exactly
the roles listed. -/
structure RuleMeans (index : Nat) (raw : Json) (rule : RolePolicyRule) : Prop where
  listed : ∃ fields table, raw = .obj fields ∧ Json.get? "role_table" fields = some (.obj table) ∧
    RuleNamed index fields rule.ruleName ∧
    rule.roleTable.keys = table.map Prod.fst ∧
    ∀ action role, role ∈ rule.rolesFor action ↔
      ∃ roles : List String, (action, Json.arr (roles.map .str)) ∈ table ∧ role ∈ roles

/-- One rule per element, in order. -/
def EngineMeans (data : Json) (engine : PolicyEngine) : Prop :=
  ∃ fields rules, data = .obj fields ∧ Json.get? "rules" fields = some (.arr rules) ∧
    engine.policies.length = rules.length ∧
    ∀ index raw rule, rules[index]? = some raw → engine.policies[index]? = some rule → RuleMeans index raw rule

/-! ## Roles and tables -/

section

variable {printable : Char → Bool} {index : Nat}

theorem parseRole_eq_ok {action name : String} {role : Json} :
    parseRole printable index action role = .ok name ↔ role = .str name ∧ blank name = false := by
  cases role with
  | str s =>
    by_cases hblank : blank s = true
    · simp only [parseRole, parseRole.badRole, hblank, if_true, reduceCtorEq, Json.str.injEq, false_iff]
      intro h
      rw [← h.1, hblank] at h
      exact absurd h.2 (by simp)
    · rw [Bool.not_eq_true] at hblank
      simp only [parseRole, hblank, Bool.false_eq_true, if_false, Except.ok.injEq, Json.str.injEq]
      constructor
      · intro h
        exact ⟨h, h ▸ hblank⟩
      · intro h
        exact h.1
  | _ => simp [parseRole, parseRole.badRole]

theorem parseRoles_eq_ok {entry : String × Json} {parsed : String × Finset String} :
    parseRoles printable index entry = .ok parsed ↔
      blank entry.1 = false ∧ ∃ roles, ListsRoles entry.2 roles ∧ parsed = (entry.1, roles.toFinset) := by
  rw [parseRoles, Except.guard_eq_ok, Bool.not_eq_true]
  refine and_congr_right fun _ => ?_
  obtain ⟨action, value⟩ := entry
  cases value with
  | arr items =>
    simp only [Except.bind_eq_ok, Except.pure_eq_ok, ListsRoles, Json.arr.injEq,
      Except.mapM_eq_ok_of_reads fun role name => parseRole_eq_ok]
    refine exists_congr fun roles => ?_
    rw [eq_comm (a := parsed)]
  | _ => simp [ListsRoles]

theorem exists_parseRoles_iff {table : List (String × Json)} :
    (∃ entries, table.mapM (parseRoles printable index) = .ok entries) ↔ TableGrammar table := by
  rw [Except.exists_mapM_eq_ok, TableGrammar]
  refine forall₂_congr fun entry _ => ?_
  constructor
  · intro h
    obtain ⟨parsed, hparsed⟩ := h
    obtain ⟨hblank, roles, hroles, -⟩ := parseRoles_eq_ok.1 hparsed
    exact ⟨hblank, roles, hroles⟩
  · intro h
    obtain ⟨hblank, roles, hroles⟩ := h
    exact ⟨(entry.1, roles.toFinset), parseRoles_eq_ok.2 ⟨hblank, roles, hroles, rfl⟩⟩

theorem keys_of_parseRoles {table : List (String × Json)} {entries : List (String × Finset String)}
    (h : table.mapM (parseRoles printable index) = .ok entries) : entries.map Prod.fst = table.map Prod.fst := by
  refine Except.map_of_mapM ?_ h
  intro entry parsed hparsed
  obtain ⟨-, roles, -, rfl⟩ := parseRoles_eq_ok.1 hparsed
  rfl

/-- A parsed table has the actions and the roles that are listed. -/
theorem table_means {table : List (String × Json)} {entries : List (String × Finset String)}
    (hkeys : (table.map Prod.fst).Nodup) (h : table.mapM (parseRoles printable index) = .ok entries) :
    (OrderedDict.empty.update entries).keys = table.map Prod.fst ∧
    ∀ action role, role ∈ ((OrderedDict.empty.update entries).get? action).getD ∅ ↔
      ∃ roles : List String, (action, Json.arr (roles.map .str)) ∈ table ∧ role ∈ roles := by
  have hentryKeys := keys_of_parseRoles h
  have hentries : (OrderedDict.empty.update entries).entries = entries := by
    rw [OrderedDict.entries_update_of_disjoint (hentryKeys ▸ hkeys) (by simp [OrderedDict.keys]),
      OrderedDict.entries_empty, List.nil_append]
  refine ⟨by rw [OrderedDict.keys, hentries, hentryKeys], fun action role => ?_⟩
  have hget : ∀ set, (OrderedDict.empty.update entries).get? action = some set ↔
      ∃ roles : List String, (action, Json.arr (roles.map .str)) ∈ table ∧ set = roles.toFinset := by
    intro set
    rw [OrderedDict.get?_eq_some_iff, hentries, Except.mem_of_mapM h]
    constructor
    · intro hmem
      obtain ⟨⟨action', value⟩, hentry, hparsed⟩ := hmem
      obtain ⟨-, roles, ⟨rfl, -⟩, hset⟩ := parseRoles_eq_ok.1 hparsed
      obtain ⟨rfl, rfl⟩ := Prod.mk.inj hset
      exact ⟨roles, hentry, rfl⟩
    · intro hmem
      obtain ⟨roles, hentry, rfl⟩ := hmem
      obtain ⟨parsed, hparsed⟩ := Except.exists_mapM_eq_ok.1 ⟨entries, h⟩ _ hentry
      obtain ⟨hblank, listed, hlisted, -⟩ := parseRoles_eq_ok.1 hparsed
      have hsame : roles = listed := by
        have hitems := Json.arr.inj hlisted.1
        exact List.map_injective_iff.2 (fun _ _ heq => Json.str.inj heq) hitems
      subst hsame
      exact ⟨_, hentry, parseRoles_eq_ok.2 ⟨hblank, roles, hlisted, rfl⟩⟩
  cases hlookup : (OrderedDict.empty.update entries).get? action with
  | none =>
    simp only [Option.getD_none, Finset.notMem_empty, false_iff]
    intro hmem
    obtain ⟨roles, hentry, -⟩ := hmem
    rw [(hget _).2 ⟨roles, hentry, rfl⟩] at hlookup
    cases hlookup
  | some set =>
    rw [Option.getD_some]
    constructor
    · intro hrole
      obtain ⟨roles, hentry, rfl⟩ := (hget set).1 hlookup
      exact ⟨roles, hentry, List.mem_toFinset.1 hrole⟩
    · intro hmem
      obtain ⟨roles, hentry, hrole⟩ := hmem
      rw [(hget _).2 ⟨roles, hentry, rfl⟩] at hlookup
      obtain rfl := Option.some.inj hlookup
      exact List.mem_toFinset.2 hrole

/-! ## Rules -/

theorem parseRuleName_eq_ok {fields : List (String × Json)} {name : String} :
    parseRuleName index fields = .ok name ↔ RuleNamed index fields name := by
  unfold parseRuleName RuleNamed
  cases hget : Json.get? "rule_name" fields with
  | none =>
    simp only [Except.ok.injEq, reduceCtorEq, false_and, false_or, true_and]
    exact eq_comm
  | some value =>
    cases value with
    | str s =>
      by_cases hblank : blank s = true
      · simp only [hblank, if_true, parseRuleName.badName, reduceCtorEq, Option.some.injEq, Json.str.injEq,
          false_and, or_false, false_iff]
        intro h
        rw [← h.1, hblank] at h
        exact absurd h.2 (by simp)
      · rw [Bool.not_eq_true] at hblank
        simp only [hblank, Bool.false_eq_true, if_false, Except.ok.injEq, Option.some.injEq, Json.str.injEq,
          reduceCtorEq, false_and, or_false]
        constructor
        · intro h
          exact ⟨h, h ▸ hblank⟩
        · intro h
          exact h.1
    | _ => simp [parseRuleName.badName]

theorem requireRoleTable_eq_ok {fields table : List (String × Json)} :
    requireRoleTable index fields = .ok table ↔ Json.get? "role_table" fields = some (.obj table) := by
  unfold requireRoleTable
  cases hget : Json.get? "role_table" fields with
  | none => simp
  | some value => cases value <;> simp

theorem parseRule_eq_ok {raw : Json} {rule : RolePolicyRule} :
    parseRule printable raw index = .ok rule ↔
      ∃ fields table entries, raw = .obj fields ∧ RuleNamed index fields rule.ruleName ∧
        Json.get? "role_table" fields = some (.obj table) ∧
        table.mapM (parseRoles printable index) = .ok entries ∧
        rule.roleTable = OrderedDict.empty.update entries := by
  cases raw with
  | obj fields =>
    simp only [parseRule, Except.bind_eq_ok, Except.pure_eq_ok, parseRuleName_eq_ok, requireRoleTable_eq_ok]
    constructor
    · intro h
      obtain ⟨name, hname, table, htable, entries, hentries, rfl⟩ := h
      exact ⟨fields, table, entries, rfl, hname, htable, hentries, rfl⟩
    · intro h
      obtain ⟨fields', table, entries, hfields, hname, htable, hentries, hrule⟩ := h
      obtain rfl := Json.obj.inj hfields
      refine ⟨rule.ruleName, hname, table, htable, entries, hentries, ?_⟩
      rw [← hrule]
  | _ => simp [parseRule]

theorem exists_parseRule_iff {raw : Json} :
    (∃ rule, parseRule printable raw index = .ok rule) ↔ RuleGrammar raw := by
  constructor
  · intro h
    obtain ⟨rule, hrule⟩ := h
    obtain ⟨fields, table, entries, hraw, hname, htable, hentries, -⟩ := parseRule_eq_ok.1 hrule
    refine ⟨fields, table, hraw, ?_, htable, exists_parseRoles_iff.1 ⟨entries, hentries⟩⟩
    cases hname with
    | inl hgiven => exact .inr ⟨_, hgiven⟩
    | inr hdefault => exact .inl hdefault.1
  · intro h
    obtain ⟨fields, table, hraw, hname, htable, hgrammar⟩ := h
    obtain ⟨entries, hentries⟩ := exists_parseRoles_iff.2 hgrammar
    have hnamed : ∃ name, RuleNamed index fields name := by
      cases hname with
      | inl hnone => exact ⟨_, .inr ⟨hnone, rfl⟩⟩
      | inr hgiven =>
        obtain ⟨name, hgiven⟩ := hgiven
        exact ⟨name, .inl hgiven⟩
    obtain ⟨ruleName, hruleName⟩ := hnamed
    exact ⟨{ roleTable := OrderedDict.empty.update entries, ruleName },
      parseRule_eq_ok.2 ⟨fields, table, entries, hraw, hruleName, htable, hentries, rfl⟩⟩

theorem ruleMeans_of_parseRule {raw : Json} {rule : RolePolicyRule} (hkeys : raw.DistinctKeys)
    (h : parseRule printable raw index = .ok rule) : RuleMeans index raw rule := by
  obtain ⟨fields, table, entries, hraw, hname, htable, hentries, hrule⟩ := parseRule_eq_ok.1 h
  rw [hraw] at hkeys
  obtain ⟨hactions, hroles⟩ := table_means (hkeys.get? htable).keys hentries
  refine ⟨fields, table, hraw, htable, hname, ?_, ?_⟩
  · rw [hrule, hactions]
  · intro action role
    rw [RolePolicyRule.rolesFor, hrule, hroles]

/-! ## The engine -/

variable {path : String}

theorem requireRules_eq_ok {fields : List (String × Json)} {rules : List Json} :
    requireRules printable path fields = .ok rules ↔
      Json.get? "rules" fields = some (.arr rules) ∧ rules ≠ [] := by
  unfold requireRules
  cases hget : Json.get? "rules" fields with
  | none => simp
  | some value =>
    cases value with
    | arr items =>
      cases items with
      | nil =>
        simp only [List.isEmpty_nil, if_true, reduceCtorEq, Option.some.injEq, Json.arr.injEq, ne_eq, false_iff]
        intro h
        exact h.2 h.1.symm
      | cons item items =>
        simp only [List.isEmpty_cons, Bool.false_eq_true, if_false, Except.ok.injEq, Option.some.injEq,
          Json.arr.injEq]
        constructor
        · intro h
          exact ⟨h, h ▸ List.cons_ne_nil item items⟩
        · intro h
          exact h.1
    | _ => simp

theorem policyEngineOf_eq_ok {data : Json} {engine : PolicyEngine} :
    policyEngineOf printable path data = .ok engine ↔
      ∃ fields rules, data = .obj fields ∧ Json.get? "rules" fields = some (.arr rules) ∧ rules ≠ [] ∧
        rules.zipIdx.mapM (fun rule => parseRule printable rule.1 rule.2) = .ok engine.policies := by
  cases data with
  | obj fields =>
    simp only [policyEngineOf, Except.bind_eq_ok, Except.pure_eq_ok, requireRules_eq_ok]
    constructor
    · intro h
      obtain ⟨rules, hrules, policies, hpolicies, rfl⟩ := h
      exact ⟨fields, rules, rfl, hrules.1, hrules.2, hpolicies⟩
    · intro h
      obtain ⟨fields', rules, hfields, hrules, hne, hpolicies⟩ := h
      obtain rfl := Json.obj.inj hfields
      exact ⟨rules, ⟨hrules, hne⟩, engine.policies, hpolicies, rfl⟩
  | _ => simp [policyEngineOf]

theorem exists_policyEngineOf_iff {data : Json} :
    (∃ engine, policyEngineOf printable path data = .ok engine) ↔ PolicyGrammar data := by
  have hrules : ∀ rules : List Json,
      (∃ policies, rules.zipIdx.mapM (fun rule => parseRule printable rule.1 rule.2) = .ok policies) ↔
        ∀ raw ∈ rules, RuleGrammar raw := by
    intro rules
    rw [Except.exists_mapM_eq_ok]
    constructor
    · intro h raw hraw
      obtain ⟨index, hindex⟩ := List.mem_iff_getElem?.1 hraw
      exact exists_parseRule_iff.1 (h (raw, index) (List.mem_zipIdx_iff_getElem?.2 hindex))
    · intro h rule hrule
      have hraw := List.mem_iff_getElem?.2 ⟨rule.2, List.mem_zipIdx_iff_getElem?.1 hrule⟩
      exact exists_parseRule_iff.2 (h rule.1 hraw)
  constructor
  · intro h
    obtain ⟨engine, hengine⟩ := h
    obtain ⟨fields, rules, hdata, hget, hne, hpolicies⟩ := policyEngineOf_eq_ok.1 hengine
    exact ⟨fields, rules, hdata, hget, hne, (hrules rules).1 ⟨_, hpolicies⟩⟩
  · intro h
    obtain ⟨fields, rules, hdata, hget, hne, hgrammar⟩ := h
    obtain ⟨policies, hpolicies⟩ := (hrules rules).2 hgrammar
    exact ⟨{ policies }, policyEngineOf_eq_ok.2 ⟨fields, rules, hdata, hget, hne, hpolicies⟩⟩

theorem engineMeans_of_policyEngineOf {data : Json} {engine : PolicyEngine} (hkeys : data.DistinctKeys)
    (h : policyEngineOf printable path data = .ok engine) : EngineMeans data engine := by
  obtain ⟨fields, rules, hdata, hget, -, hpolicies⟩ := policyEngineOf_eq_ok.1 h
  rw [hdata] at hkeys
  have hlookup := Except.getElem?_of_mapM hpolicies
  refine ⟨fields, rules, hdata, hget, ?_, ?_⟩
  · have hlength := congrArg List.length (Except.mapM_eq_ok.1 hpolicies)
    simpa using hlength.symm
  · intro index raw rule hraw hrule
    have hparsed := hlookup index
    rw [hrule, List.getElem?_zipIdx, hraw] at hparsed
    simp only [Option.map_some, Nat.zero_add, Option.some.injEq] at hparsed
    have hmem : raw ∈ rules := List.mem_of_getElem? hraw
    exact ruleMeans_of_parseRule ((hkeys.get? hget).items raw hmem) hparsed.symm

/-! ## What it raises -/

/-- The loader's own error. -/
def IsPolicyLoadError (exc : PyExc) : Prop := exc.cls = .policyLoadError

theorem isPolicyLoadError (msg : String) : IsPolicyLoadError (policyLoadError msg) := rfl

theorem raises_parseRoles (entry : String × Json) :
    Except.Raises IsPolicyLoadError (parseRoles printable index entry) := by
  refine Except.raises_guard (isPolicyLoadError _) ?_
  obtain ⟨action, value⟩ := entry
  cases value with
  | arr items =>
    refine Except.raises_bind_iff.2 ⟨Except.raises_mapM ?_, fun roles _ => Except.raises_pure _⟩
    intro role _
    cases role with
    | str name =>
      rw [parseRole]
      split
      next => exact Except.raises_error_iff.2 (isPolicyLoadError _)
      next => exact Except.raises_ok _
    | _ => exact Except.raises_error_iff.2 (isPolicyLoadError _)
  | _ => exact Except.raises_error_iff.2 (isPolicyLoadError _)

theorem raises_parseRule (raw : Json) : Except.Raises IsPolicyLoadError (parseRule printable raw index) := by
  cases raw with
  | obj fields =>
    refine Except.raises_bind_iff.2 ⟨?_, fun ruleName _ => Except.raises_bind_iff.2 ⟨?_, fun table _ =>
      Except.raises_bind_iff.2 ⟨Except.raises_mapM fun entry _ => raises_parseRoles entry,
        fun entries _ => Except.raises_pure _⟩⟩⟩
    · unfold parseRuleName
      split
      next => exact Except.raises_ok _
      next =>
        split
        next => exact Except.raises_error_iff.2 (isPolicyLoadError _)
        next => exact Except.raises_ok _
      next => exact Except.raises_error_iff.2 (isPolicyLoadError _)
    · unfold requireRoleTable
      split
      next => exact Except.raises_error_iff.2 (isPolicyLoadError _)
      next => exact Except.raises_error_iff.2 (isPolicyLoadError _)
      next => exact Except.raises_ok _
      next => exact Except.raises_error_iff.2 (isPolicyLoadError _)
  | _ => exact Except.raises_error_iff.2 (isPolicyLoadError _)

theorem raises_policyEngineOf (data : Json) :
    Except.Raises IsPolicyLoadError (policyEngineOf printable path data) := by
  cases data with
  | obj fields =>
    refine Except.raises_bind_iff.2 ⟨?_, fun rules _ => Except.raises_bind_iff.2
      ⟨Except.raises_mapM fun rule _ => raises_parseRule rule.1, fun policies _ => Except.raises_pure _⟩⟩
    unfold requireRules
    split
    next => exact Except.raises_error_iff.2 (isPolicyLoadError _)
    next => exact Except.raises_error_iff.2 (isPolicyLoadError _)
    next => exact Except.raises_guard (isPolicyLoadError _) (Except.raises_ok _)
    next => exact Except.raises_error_iff.2 (isPolicyLoadError _)
  | _ => exact Except.raises_error_iff.2 (isPolicyLoadError _)

end

/-- **The policy parser accepts its grammar and keeps its meaning**, and raises `PolicyLoadError` on
everything else. -/
theorem policy_grammar_exact (printable : Char → Bool) (path : String) (data : Json) (hkeys : data.DistinctKeys) :
    ((∃ engine, policyEngineOf printable path data = .ok engine) ↔ PolicyGrammar data) ∧
    (∀ engine, policyEngineOf printable path data = .ok engine → EngineMeans data engine) ∧
    ∀ exc, policyEngineOf printable path data = .error exc → exc.cls = .policyLoadError :=
  ⟨exists_policyEngineOf_iff, fun _ => engineMeans_of_policyEngineOf hkeys, raises_policyEngineOf data⟩

/-- A policy of one rule without a name. -/
def viewerPolicy : Json :=
  .obj [("rules", .arr [.obj [("role_table", .obj [("read", .arr [.str "viewer", .str "viewer"])])]])]

theorem viewerPolicy_distinctKeys : viewerPolicy.DistinctKeys := by
  have hroles : Json.DistinctKeys (.arr [.str "viewer", .str "viewer"]) := .arr (by simp [Json.DistinctKeys.str])
  have htable : Json.DistinctKeys (.obj [("read", .arr [.str "viewer", .str "viewer"])]) :=
    .obj (by simp) (by simp [hroles])
  have hrule : Json.DistinctKeys (.obj [("role_table", .obj [("read", .arr [.str "viewer", .str "viewer"])])]) :=
    .obj (by simp) (by simp [htable])
  exact .obj (by simp) (by simp [Json.DistinctKeys.arr, hrule])

theorem policy_grammar_exact_viewer : PolicyGrammar viewerPolicy ∧
    ∃ engine, policyEngineOf asciiTables.printable "policy.json" viewerPolicy = .ok engine ∧
      EngineMeans viewerPolicy engine := by
  have hexact := policy_grammar_exact asciiTables.printable "policy.json" viewerPolicy viewerPolicy_distinctKeys
  have hok : ∃ engine, policyEngineOf asciiTables.printable "policy.json" viewerPolicy = .ok engine := ⟨_, rfl⟩
  obtain ⟨engine, hengine⟩ := hok
  exact ⟨hexact.1.1 ⟨engine, hengine⟩, engine, hengine, hexact.2.1 engine hengine⟩

end BasisGateway
