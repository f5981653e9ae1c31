/-
The v0.1 policy loader (`policy/loader.py`): a JSON file of rules, each with a
table of the roles that may perform an action.

The file system and `json.loads` are parameters. `RolePolicyRule` and
`PolicyEngine` store what they are given. Log lines are left out.
-/
import Mathlib.Data.Finset.Dedup
import BasisGateway.Errors
import BasisGateway.Lib.Checks
import BasisGateway.Lib.OrderedDict
import BasisGateway.Text
import BasisGateway.Values

namespace BasisGateway

/-- What a loader finds at a path: `Path.exists`, `Path.is_file` and `Path.read_text`. -/
structure PolicyFile where
  path : String
  present : Bool
  isFile : Bool
  readText : Except PyExc String

/-- `RolePolicyRule`. -/
structure RolePolicyRule where
  roleTable : OrderedDict String (Finset String)
  ruleName : String

/-- `PolicyEngine`. -/
structure PolicyEngine where
  policies : List RolePolicyRule

def policyLoadError (msg : String) : PyExc := { cls := .policyLoadError, msg }

/-- `rules[{index}]`. -/
def ruleAt (index : Nat) : String := "rules[" ++ toString index ++ "]"

section

variable (printable : Char → Bool)

/-- `rules[{index}].role_table[{action!r}]`. -/
def roleTableAt (index : Nat) (action : String) : String :=
  ruleAt index ++ ".role_table[" ++ pyRepr printable action ++ "]"

/-- One role of an action. -/
def parseRole (index : Nat) (action : String) (role : Json) : Except PyExc String :=
  match role with
  | .str name => if blank name then badRole else .ok name
  | _ => badRole
where
  badRole : Except PyExc String :=
    .error (policyLoadError (roleTableAt printable index action ++ ": each role must be a non-empty string"))

/-- One action of a role table and its roles. -/
def parseRoles (index : Nat) (entry : String × Json) : Except PyExc (String × Finset String) :=
  if blank entry.1 then
    .error (policyLoadError (ruleAt index ++ ".role_table: action keys must be non-empty strings"))
  else match entry.2 with
    | .arr roles => do return (entry.1, (← roles.mapM (parseRole printable index entry.1)).toFinset)
    | roles => .error (policyLoadError (roleTableAt printable index entry.1 ++ ": roles must be a list, got " ++
        roles.typeName))

/-- `raw.get("rule_name", f"rule-{index}")`, checked. -/
def parseRuleName (index : Nat) (fields : List (String × Json)) : Except PyExc String :=
  match Json.get? "rule_name" fields with
  | none => .ok ("rule-" ++ toString index)
  | some (.str name) => if blank name then badName else .ok name
  | some _ => badName
where
  badName : Except PyExc String :=
    .error (policyLoadError (ruleAt index ++ ".rule_name must be a non-empty string"))

/-- `raw.get("role_table")`, checked. -/
def requireRoleTable (index : Nat) (fields : List (String × Json)) : Except PyExc (List (String × Json)) :=
  match Json.get? "role_table" fields with
  | none | some .null => .error (policyLoadError (ruleAt index ++ ".role_table is required"))
  | some (.obj table) => .ok table
  | some rawTable => .error (policyLoadError (ruleAt index ++ ".role_table must be an object, got " ++
      rawTable.typeName))

/-- `_parse_rule`. -/
def parseRule (raw : Json) (index : Nat) : Except PyExc RolePolicyRule :=
  match raw with
  | .obj fields => do
    -- the default name is never blank, so only a name in the file is checked
    let ruleName ← parseRuleName index fields
    let table ← requireRoleTable index fields
    let entries ← table.mapM (parseRoles printable index)
    return { roleTable := OrderedDict.empty.update entries, ruleName }
  | _ => .error (policyLoadError (ruleAt index ++ " must be an object, got " ++ raw.typeName))

/-- `data.get("rules")`, checked. -/
def requireRules (path : String) (fields : List (String × Json)) : Except PyExc (List Json) :=
  match Json.get? "rules" fields with
  | none | some .null =>
    .error (policyLoadError ("Policy file " ++ pyRepr printable path ++ " must contain a 'rules' array"))
  | some (.arr rawRules) =>
    if rawRules.isEmpty then
      .error (policyLoadError ("Policy file " ++ pyRepr printable path ++
        ": 'rules' must contain at least one rule"))
    else .ok rawRules
  | some rawRules =>
    .error (policyLoadError ("Policy file " ++ pyRepr printable path ++ ": 'rules' must be an array, got " ++
      rawRules.typeName))

/-- `load_policy_engine` from the parsed file on. -/
def policyEngineOf (path : String) (data : Json) : Except PyExc PolicyEngine :=
  match data with
  | .obj fields => do
    let rawRules ← requireRules printable path fields
    let policies ← rawRules.zipIdx.mapM fun rule => parseRule printable rule.1 rule.2
    return { policies }
  | _ => .error (policyLoadError ("Policy file " ++ pyRepr printable path ++
      " must be a JSON object at the top level"))

/-- `load_policy_engine`. -/
def loadPolicyEngine (jsonLoads : String → Except PyExc Json) (file : PolicyFile) : Except PyExc PolicyEngine :=
  if file.present = false then
    .error (policyLoadError ("Policy file not found: " ++ pyRepr printable file.path ++
      ". Set POLICY_PATH to the path of your JSON policy file."))
  else if file.isFile = false then
    .error (policyLoadError ("Policy path is not a file: " ++ pyRepr printable file.path))
  else do
    let rawText ← file.readText.mapError (exceptClauses [(.osError, fun exc => policyLoadError
      ("Could not read policy file " ++ pyRepr printable file.path ++ ": " ++ exc.msg))])
    let data ← (jsonLoads rawText).mapError (exceptClauses [(.jsonDecodeError, fun exc => policyLoadError
      ("Policy file " ++ pyRepr printable file.path ++ " is not valid JSON: " ++ exc.msg))])
    policyEngineOf printable file.path data

end

end BasisGateway
