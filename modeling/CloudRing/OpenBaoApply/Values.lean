import CloudRing.Library.Json.Reshape
import CloudRing.OpenBaoAuth.Plan
import CloudRing.OpenBaoBootstrap.Delegation

/-!
# Values read from the API

The accessors of `http_clients.go` for decoded JSON maps, and the pure checks of `engine.go` that
compare what was read with what is desired.
-/

namespace CloudRing.OpenBaoApply

open Library OpenBaoAuth OpenBaoBootstrap

abbrev Fields := List (String × Json)

class TimeFormat where
  parseTime : String → Option Int

def member (fields : Fields) (key : String) : Option Json :=
  (fields.find? (·.1 = key)).map Prod.snd

def isNil (fields : Fields) (key : String) : Bool :=
  match member fields key with
  | none | some .null => true
  | some _ => false

/-- `object`: the map under a key, if there is one. -/
def object (fields : Fields) (key : String) : Option Fields :=
  match member fields key with
  | some (.object members) => some members
  | _ => none

/-- `textValue`: the text under a key, or the empty text. -/
def textValue (fields : Fields) (key : String) : String :=
  match member fields key with
  | some (.string text) => text
  | _ => ""

def boolValue (fields : Fields) (key : String) : Option Bool :=
  match member fields key with
  | some (.bool value) => some value
  | _ => none

def parseDigits (digits : List Char) : Option Nat :=
  if digits ≠ [] && digits.all Char.isDigit then
    some (digits.foldl (fun value digit => value * 10 + (digit.toNat - '0'.toNat)) 0)
  else none

/-- `strconv.ParseInt(text, 10, 64)`. -/
def parseInt64 (text : String) : Option Int :=
  let value : Option Int :=
    match text.toList with
    | '-' :: digits => (parseDigits digits).map fun value => -(value : Int)
    | '+' :: digits => (parseDigits digits).map fun value => (value : Int)
    | digits => (parseDigits digits).map fun value => (value : Int)
  value.filter fun value => -9223372036854775808 ≤ value && value ≤ 9223372036854775807

/-- `integer`: the 64-bit integer under a key. -/
def integer (fields : Fields) (key : String) : Option Int :=
  match member fields key with
  | some (.number value) => parseInt64 value.literal
  | _ => none

def asText : Json → Option String
  | .string text => some text
  | _ => none

/-- `stringSlice`: the list of texts under a key. -/
def stringSlice (fields : Fields) (key : String) : Option (List String) :=
  match member fields key with
  | some (.array items) => items.mapM asText
  | _ => none

/-- `equalStrings`: two lists agree up to order. -/
def equalStrings (left right : List String) : Bool := sortStrings left = sortStrings right

/-- `equalJSON`: two values are marshalled alike. -/
def equalJSON (left right : Json) : Bool := left.marshal = right.marshal

/-- `exactFields`: the expected members and no others. -/
def exactFields (actual expected : Fields) : Bool :=
  actual.length = expected.length && expected.all fun (key, want) =>
    match member actual key with
    | none => false
    | some got => equalJSON got want

structure ReadResult where
  found : Bool
  (data auth : Option Fields)

def ReadResult.absent : ReadResult := ⟨false, none, none⟩

def ReadResult.fields (result : ReadResult) : Fields := result.data.getD []

def mapValue : Option Fields → Json
  | none => .null
  | some members => .object members

def equalReadResult (left right : ReadResult) : Bool :=
  left.found = right.found && equalJSON (mapValue left.data) (mapValue right.data) &&
    equalJSON (mapValue left.auth) (mapValue right.auth)

def supportedOpenBaoVersion : String := "2.5.5"

def runningPluginVersion : String := "v" ++ supportedOpenBaoVersion ++ "+builtin.bao"

def emptyOptions (fields : Fields) (key : String) : Bool :=
  isNil fields key || (object fields key).elim false List.isEmpty

def exactMount (result : ReadResult) (desired : AuthMountDesired) : Bool :=
  let data := result.fields
  let config := object data "config"
  let settings := config.getD []
  result.found && data.length = 13 && textValue data "type" = desired.kind &&
    textValue data "description" = desired.description &&
    textValue data "uuid" ≠ "" && textValue data "accessor" ≠ "" &&
    textValue data "plugin_version" = "" &&
    textValue data "running_plugin_version" = runningPluginVersion &&
    textValue data "running_sha256" = "" && textValue data "deprecation_status" = "supported" &&
    emptyOptions data "options" &&
    ["local", "seal_wrap", "external_entropy_access"].all
      (fun field => boolValue data field = some false) &&
    config.isSome && settings.length = 4 && textValue settings "token_type" = "default-service" &&
    integer settings "default_lease_ttl" = some 0 && integer settings "max_lease_ttl" = some 0 &&
    boolValue settings "force_no_cache" = some false

def exactConfig (result : ReadResult) (desired : KubernetesConfigReadbackExpected) : Bool :=
  result.found && exactFields result.fields desired.members

def seconds (literal : String)
    (wellFormed : Json.scanNumber literal.toList = some (literal.toList, [])) : Json :=
  .number ⟨literal, wellFormed⟩

/-- `exactRole`: a role is read back with its lifetimes in seconds. -/
def exactRole (result : ReadResult) (desired : KubernetesRoleDesired) : Bool :=
  result.found && exactFields result.fields
    (desired.membersWith (seconds "600" (by decide)) (seconds "1800" (by decide))
      (seconds "1800" (by decide)))

def exactKVV2Mount (result : ReadResult) : Bool :=
  let data := result.fields
  let options := object data "options"
  let config := object data "config"
  let settings := config.getD []
  result.found && data.length = 13 && textValue data "type" = "kv" &&
    textValue data "uuid" ≠ "" && textValue data "accessor" ≠ "" &&
    textValue data "plugin_version" = "" &&
    textValue data "running_plugin_version" = runningPluginVersion &&
    textValue data "running_sha256" = "" && textValue data "deprecation_status" = "supported" &&
    options.isSome && (options.getD []).length = 1 &&
    textValue (options.getD []) "version" = "2" && config.isSome && settings.length = 3 &&
    boolValue data "local" = some false && boolValue data "seal_wrap" = some false &&
    boolValue data "external_entropy_access" = some false &&
    (member data "description").bind asText = some "" &&
    integer settings "default_lease_ttl" = some 0 && integer settings "max_lease_ttl" = some 0 &&
    boolValue settings "force_no_cache" = some false

theorem exactKVV2Mount_found {result : ReadResult} (exact : exactKVV2Mount result = true) :
    result.found = true := by
  by_contra absent
  simp [exactKVV2Mount, absent] at exact

def noForeignRoles (result : ReadResult) (desired : String) : Bool :=
  !result.found || match stringSlice result.fields "keys" with
    | none => false
    | some keys => keys.isEmpty || equalStrings keys [desired]

def noRoles (result : ReadResult) : Bool :=
  !result.found || match stringSlice result.fields "keys" with
    | none => false
    | some keys => keys.isEmpty

section Times

variable [TimeFormat]

def validStableTimestamp (value : String) : Bool :=
  value ≠ "" && (TimeFormat.parseTime value).isSome

/-- A policy read back under a name, with a rule text and a check-and-set mode: the family of
`exactPolicy` and `exactManagementPolicy`. -/
def exactPolicyWith (casRequired : Bool) (result : ReadResult) (name policy : String) : Bool :=
  let data := result.fields
  result.found && data.length = 5 && textValue data "name" = name &&
    textValue data "policy" = policy && validStableTimestamp (textValue data "modified") &&
    boolValue data "cas_required" = some casRequired &&
    (integer data "version").elim false (1 ≤ ·)

def exactPolicy (result : ReadResult) (name : String) (desired : ACLPolicyDesired) : Bool :=
  exactPolicyWith desired.casRequired result name desired.policy

def exactManagementPolicy (result : ReadResult) (name body : String) : Bool :=
  exactPolicyWith false result name body

def exactVersion (currentVersion : Int) (key : String) (value : Json) : Bool :=
  match parseInt64 key, value with
  | some version, .object facts =>
    1 ≤ version && version ≤ currentVersion && facts.length = 3 &&
      validStableTimestamp (textValue facts "created_time") &&
      (textValue facts "deletion_time" = "" ||
        validStableTimestamp (textValue facts "deletion_time")) &&
      (boolValue facts "destroyed").isSome
  | _, _ => false

def exactSeedDataAt (seed : ReadResult) (expected : Fields) (createdAt : String)
    (expectedVersion : Int) : Bool :=
  let data := object seed.fields "data"
  let metadata := object seed.fields "metadata"
  let facts := metadata.getD []
  seed.fields.length = 2 && data.isSome &&
    equalJSON (.object (data.getD [])) (.object expected) &&
    metadata.isSome && facts.length = 5 && isNil facts "custom_metadata" &&
    textValue facts "created_time" = createdAt && validStableTimestamp createdAt &&
    1 ≤ expectedVersion && integer facts "version" = some expectedVersion &&
    boolValue facts "destroyed" = some false && textValue facts "deletion_time" = ""

def exactSeedData (seed : ReadResult) (expected : Fields) : Bool :=
  let metadata := object seed.fields "metadata"
  seed.found && metadata.isSome && match integer (metadata.getD []) "version" with
    | none => false
    | some version =>
      1 ≤ version &&
        exactSeedDataAt seed expected (textValue (metadata.getD []) "created_time") version

/-- `exactSeed`: the time of the current version, if metadata and data are the seed's. -/
def exactSeed (metadata seed : ReadResult) (expected : Fields) : Option String := do
  let data := metadata.fields
  guard (metadata.found && seed.found && data.length = 11 && isNil data "custom_metadata")
  let currentVersion ← integer data "current_version"
  let oldestVersion ← integer data "oldest_version"
  let createdAt := textValue data "created_time"
  let updatedAt := textValue data "updated_time"
  guard (1 ≤ currentVersion && integer data "current_metadata_version" = some 0 &&
    (oldestVersion = 0 || (1 ≤ oldestVersion && oldestVersion ≤ currentVersion)) &&
    integer data "max_versions" = some 0 && boolValue data "cas_required" = some false &&
    boolValue data "metadata_cas_required" = some false &&
    textValue data "delete_version_after" = "0s" && validStableTimestamp createdAt &&
    validStableTimestamp updatedAt)
  let createdTime ← TimeFormat.parseTime createdAt
  let updatedTime ← TimeFormat.parseTime updatedAt
  guard (createdTime ≤ updatedTime)
  let versions ← object data "versions"
  guard (versions ≠ [] && (versions.length : Int) ≤ currentVersion &&
    versions.all fun (key, value) => exactVersion currentVersion key value)
  let current ← object versions (toString currentVersion)
  guard (boolValue current "destroyed" = some false && textValue current "deletion_time" = "" &&
    textValue current "created_time" = updatedAt &&
    exactSeedDataAt seed expected updatedAt currentVersion)
  return updatedAt

def exactSeedWrite (result : ReadResult) (createdAt : String) : Bool :=
  let data := result.fields
  result.found && data.length = 5 && isNil data "custom_metadata" &&
    textValue data "created_time" = createdAt && textValue data "deletion_time" = "" &&
    integer data "version" = some 1 && boolValue data "destroyed" = some false &&
    validStableTimestamp createdAt

end Times

def safeOpaque (value : String) (minimum maximum : Nat) : Bool :=
  minimum ≤ value.utf8ByteSize && value.utf8ByteSize ≤ maximum &&
    value.toList.all fun char => 0x21 ≤ char.toNat && char.toNat ≤ 0x7e

def exactLogin (auth : Fields) (contract : Contract) (serviceAccountUID : String) : Bool :=
  let metadata := object auth "metadata"
  let facts := metadata.getD []
  auth.length = 12 && safeOpaque (textValue auth "client_token") 8 65536 &&
    safeOpaque (textValue auth "accessor") 8 512 && textValue auth "entity_id" ≠ "" &&
    textValue auth "token_type" = "service" && isNil auth "mfa_requirement" &&
    (stringSlice auth "policies").elim false (equalStrings · [contract.policyName]) &&
    (stringSlice auth "token_policies").elim false (equalStrings · [contract.policyName]) &&
    integer auth "lease_duration" = some 600 && integer auth "num_uses" = some 0 &&
    boolValue auth "orphan" = some true && boolValue auth "renewable" = some true &&
    metadata.isSome && facts.length = 5 &&
    textValue facts "service_account_name" = contract.workloadIdentity.serviceAccount &&
    textValue facts "service_account_namespace" = contract.workloadIdentity.namespaceName &&
    textValue facts "service_account_uid" = serviceAccountUID &&
    textValue facts "service_account_secret_name" = "" &&
    textValue facts "role" = contract.roleName

structure TokenFacts where
  policies : List String
  accessor : String
  identityPolicies : List String
  externalNamespacePolicies : Nat
  (entityID path : String)
  (ttl explicitMaxTTL numUses : Int)
  metadataEntries : Nat
  (renewable renewableKnown orphan : Bool)
  tokenType : String
  deriving DecidableEq, Repr

def validManagementToken (facts : TokenFacts) (policy : String) : Bool :=
  0 < facts.ttl && facts.ttl ≤ 900 && 0 < facts.explicitMaxTTL && facts.explicitMaxTTL ≤ 900 &&
    facts.renewableKnown && !facts.renewable && facts.orphan && facts.tokenType = "service" &&
    facts.path = "auth/token/create" && facts.accessor ≠ "" && facts.numUses = 0 &&
    facts.metadataEntries = 0 && facts.entityID = "" && facts.identityPolicies.isEmpty &&
    facts.externalNamespacePolicies = 0 && equalStrings facts.policies [policy]

def provenNonRoot (facts : TokenFacts) : Bool := facts.policies.all (· ≠ "root")

def exactManagementCapabilities (actual expected : List (String × List String)) : Bool :=
  actual.length = expected.length &&
    expected.all fun (path, want) => equalStrings (capabilitiesOf actual path) want

end CloudRing.OpenBaoApply
