import CloudRing.OpenBaoAuth.Contract
import Mathlib.Data.List.Sort

/-!
# The management delegation

`openbaobootstrap.BuildManagementDelegation` derives the one policy under which an apply execution
may work: a table of twelve paths with their capabilities.
-/

namespace CloudRing.OpenBaoBootstrap

open Library OpenBaoAuth

/-- `safeComponent`, the same pattern as `dnsLabel`. -/
def safeComponent (value : String) : Bool := dnsLabel value

def safeRelativePath (value : String) : Bool :=
  value ≠ "" && value.toList.head? ≠ some '/' && value.toList.getLast? ≠ some '/' &&
    (Path.split value).length ≤ 8 && (Path.split value).all safeComponent

structure ManagementDelegation where
  body : String
  paths : List (String × List String)
  deriving DecidableEq, Repr

def assign (paths : List (String × List String)) (entry : String × List String) :
    List (String × List String) :=
  if entry.1 ∈ paths.map Prod.fst then
    paths.map fun known => if known.1 = entry.1 then entry else known
  else paths ++ [entry]

def grants (contract : Contract) (managementPolicyName seedRelativePath : String) :
    List (String × List String) :=
  let seed := contract.dataPrefix ++ "/" ++ seedRelativePath
  [("auth/token/lookup-self", ["read"]),
    ("auth/token/revoke-self", ["update"]),
    ("sys/capabilities-self", ["update"]),
    ("sys/auth/" ++ contract.authMount, ["read", "update", "delete", "sudo"]),
    ("auth/" ++ contract.authMount ++ "/config", ["read", "update"]),
    ("auth/" ++ contract.authMount ++ "/role", ["list"]),
    ("auth/" ++ contract.authMount ++ "/role/" ++ contract.roleName,
      ["create", "read", "delete"]),
    ("sys/mounts/" ++ contract.kvV2Mount, ["read", "update", "sudo"]),
    ("sys/policies/acl/" ++ contract.policyName, ["read", "update", "delete"]),
    ("sys/policies/acl/" ++ managementPolicyName, ["read"]),
    (contract.kvV2Mount ++ "/metadata/" ++ seed, ["read"]),
    (contract.kvV2Mount ++ "/data/" ++ seed, ["create", "read"])]

def capabilitiesOf (paths : List (String × List String)) (path : String) : List String :=
  ((paths.find? (·.1 = path)).map Prod.snd).getD []

def capabilityList : List String → String
  | [] => ""
  | [capability] => "\"" ++ capability ++ "\""
  | capability :: capabilities =>
    "\"" ++ capability ++ "\"" ++ ", " ++ capabilityList capabilities

def stanza (path : String) (capabilities : List String) : String :=
  "path \"" ++ path ++ "\" \x7b\n  capabilities = [" ++ capabilityList capabilities ++ "]\n\x7d\n"

/-- `sort.Strings`. -/
def sortStrings (values : List String) : List String := values.insertionSort (· ≤ ·)

def policyBody (paths : List (String × List String)) : String :=
  (sortStrings (paths.map Prod.fst)).foldl
    (fun body path => body ++ stanza path (capabilitiesOf paths path)) ""

def buildManagementDelegation (contract : Contract)
    (managementPolicyName seedRelativePath : String) : Option ManagementDelegation :=
  if validate contract ≠ [] || !safeComponent managementPolicyName ||
      managementPolicyName = "root" || managementPolicyName = "default" ||
      managementPolicyName = "response-wrapping" ||
      managementPolicyName = contract.policyName || !safeRelativePath seedRelativePath then
    none
  else
    let paths := (grants contract managementPolicyName seedRelativePath).foldl assign []
    some ⟨policyBody paths, paths⟩

inductive Place where
  | lookupSelf
  | revokeSelf
  | capabilitiesSelf
  | authMount
  | authConfig
  | roles
  | role
  | login
  | kvMount
  | policy
  | managementPolicy
  | metadata
  | data
  deriving DecidableEq, Repr

namespace Place

variable (contract : Contract) (managementPolicyName seedRelativePath : String)

def path : Place → String
  | lookupSelf => "auth/token/lookup-self"
  | revokeSelf => "auth/token/revoke-self"
  | capabilitiesSelf => "sys/capabilities-self"
  | authMount => "sys/auth/" ++ contract.authMount
  | authConfig => "auth/" ++ contract.authMount ++ "/config"
  | roles => "auth/" ++ contract.authMount ++ "/role"
  | role => "auth/" ++ contract.authMount ++ "/role/" ++ contract.roleName
  | login => "auth/" ++ contract.authMount ++ "/login"
  | kvMount => "sys/mounts/" ++ contract.kvV2Mount
  | policy => "sys/policies/acl/" ++ contract.policyName
  | managementPolicy => "sys/policies/acl/" ++ managementPolicyName
  | metadata =>
    contract.kvV2Mount ++ "/metadata/" ++ (contract.dataPrefix ++ "/" ++ seedRelativePath)
  | data => contract.kvV2Mount ++ "/data/" ++ (contract.dataPrefix ++ "/" ++ seedRelativePath)

def components : Place → List String
  | lookupSelf => ["auth", "token", "lookup-self"]
  | revokeSelf => ["auth", "token", "revoke-self"]
  | capabilitiesSelf => ["sys", "capabilities-self"]
  | authMount => ["sys", "auth", contract.authMount]
  | authConfig => ["auth", contract.authMount, "config"]
  | roles => ["auth", contract.authMount, "role"]
  | role => ["auth", contract.authMount, "role", contract.roleName]
  | login => ["auth", contract.authMount, "login"]
  | kvMount => ["sys", "mounts", contract.kvV2Mount]
  | policy => ["sys", "policies", "acl", contract.policyName]
  | managementPolicy => ["sys", "policies", "acl", managementPolicyName]
  | metadata =>
    contract.kvV2Mount :: "metadata" ::
      Path.split (contract.dataPrefix ++ "/" ++ seedRelativePath)
  | data =>
    contract.kvV2Mount :: "data" :: Path.split (contract.dataPrefix ++ "/" ++ seedRelativePath)

variable {contract managementPolicyName seedRelativePath}

theorem split_path (accepted : contract.Accepted) (label : dnsLabel managementPolicyName = true)
    (place : Place) :
    Path.split (place.path contract managementPolicyName seedRelativePath) =
      place.components contract managementPolicyName seedRelativePath := by
  have rest : ∀ text, (Path.split text).map String.toList = text.toList.splitOn '/' := by
    intro text
    simp [Path.split, Function.comp_def]
  have joined : (place.path contract managementPolicyName seedRelativePath).toList =
      ['/'].intercalate ((place.components contract managementPolicyName seedRelativePath).map
        String.toList) := by
    cases place <;> simp [path, components, rest, List.intercalate_cons_of_ne_nil,
      List.intercalate_splitOn, List.splitOn_ne_nil]
  have whole : ∀ text ∈ (place.components contract managementPolicyName seedRelativePath).map
      String.toList, '/' ∉ text := by
    cases place <;> simp [components, rest, dnsLabel_noSlash, accepted.authMount,
      accepted.kvV2Mount, accepted.policyName, accepted.roleName, label]
    -- The components of the seed path are left.
    all_goals exact fun _ => Path.notMem_of_mem_splitOn
  rw [Path.split, joined, List.splitOn_intercalate _ whole, List.map_map]
  · simp [Function.comp_def]
  · cases place <;> simp [components]

def locate (contract : Contract) (components : List String) : Place :=
  if components[0]? = some "auth" then
    if components[1]? = some "token" then
      if components[2]? = some "lookup-self" then lookupSelf else revokeSelf
    else if components[2]? = some "config" then authConfig
    else if components[2]? = some "login" then login
    else if components.length = 3 then roles
    else role
  else if components[0]? = some "sys" then
    if components[1]? = some "capabilities-self" then capabilitiesSelf
    else if components[1]? = some "auth" then authMount
    else if components[1]? = some "mounts" then kvMount
    else if components[3]? = some contract.policyName then policy
    else managementPolicy
  else if components[1]? = some "metadata" then metadata
  else data

theorem locate_components (accepted : contract.Accepted)
    (separate : managementPolicyName ≠ contract.policyName) (place : Place) :
    locate contract (place.components contract managementPolicyName seedRelativePath) =
      place := by
  have mount := accepted.authMountFree
  have kv := accepted.kvV2MountFree
  simp only [reservedMountName, decide_eq_false_iff_not, List.mem_cons, List.not_mem_nil,
    or_false, not_or] at mount kv
  obtain ⟨-, -, -, -, notToken⟩ := mount
  obtain ⟨notAuth, -, -, notSys, -⟩ := kv
  cases place <;> simp [locate, components, notToken, notAuth, notSys, separate]

theorem path_injective (accepted : contract.Accepted)
    (label : dnsLabel managementPolicyName = true)
    (separate : managementPolicyName ≠ contract.policyName) {first second : Place}
    (same : first.path contract managementPolicyName seedRelativePath =
      second.path contract managementPolicyName seedRelativePath) : first = second := by
  have components : first.components contract managementPolicyName seedRelativePath =
      second.components contract managementPolicyName seedRelativePath := by
    rw [← split_path accepted label first, ← split_path accepted label second, same]
  calc
    first = locate contract (first.components contract managementPolicyName seedRelativePath) :=
      (locate_components accepted separate first).symm
    _ = locate contract (second.components contract managementPolicyName seedRelativePath) :=
      congrArg (locate contract) components
    _ = second := locate_components accepted separate second

end Place

end CloudRing.OpenBaoBootstrap
