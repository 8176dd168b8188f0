import CloudRing.Library.Base64
import CloudRing.OpenBaoApply.Lease
import CloudRing.OpenBaoApply.Values
import CloudRing.StrictJson.Validate

/-!
# The apply request

The checks that `Parse` and the supervisor make before anything is executed.
-/

namespace CloudRing.OpenBaoApply

open Library OpenBaoAuth OpenBaoBootstrap

structure Connection where
  (address serverName caCertificateBase64 bearerTokenBase64 : String)
  deriving DecidableEq, Repr

structure SecretEntry where
  (key valueBase64 : String)
  deriving DecidableEq, Repr

structure Seed where
  relativePath : String
  entries : List SecretEntry
  deriving DecidableEq, Repr

structure NegativeIdentities where
  (wrongServiceAccount wrongNamespace : WorkloadIdentity)
  deriving DecidableEq, Repr

structure Approval where
  changeAuthorized : Bool
  bindingSHA256 : String
  deriving DecidableEq, Repr

structure Request where
  schemaVersion : String
  contract : Contract
  (openBao kubernetes : Connection)
  lease : LeaseTarget
  executorIdentity : WorkloadIdentity
  (managementPolicyName managementAccessor wrappingTokenBase64 : String)
  seed : Seed
  negativeIdentities : NegativeIdentities
  approval : Approval
  executorServiceAccountUID : String
  deriving DecidableEq, Repr

/-- `SchemaVersion` of the apply request. -/
def applySchemaVersion : String := "cloudring.openbao-kubernetes-auth-apply/v1"

structure ParsedURL where
  (scheme host : String)
  hasUser : Bool
  (path rawQuery fragment : String)

class Platform extends TimeFormat where
  sha256 : List UInt8 → List UInt8
  parseURL : String → Option ParsedURL

/-- `secretKey`: the pattern `^[A-Za-z0-9][A-Za-z0-9._-]{0,127}$`. -/
def secretKey (value : String) : Bool :=
  match value.toList with
  | [] => false
  | first :: rest =>
    first.isAlphanum && rest.length ≤ 127 &&
      rest.all fun char => char.isAlphanum || char ∈ ['.', '_', '-']

def validRelativePath (value : String) : Bool := labelledPath 8 value

def containsAny (value : String) (chars : List Char) : Bool := value.toList.any (· ∈ chars)

/-- `utf8.Valid`: decoding replaced nothing. -/
def utf8Valid (bytes : List UInt8) : Bool := Utf8.encode (Utf8.decode bytes) = bytes

def hexText (bytes : List UInt8) : String :=
  String.ofList (bytes.flatMap fun byte =>
    [Json.hexDigit (byte.toNat / 16), Json.hexDigit (byte.toNat % 16)])

/-- Whether `hex.DecodeString` accepts a text. -/
def hexValid (text : String) : Bool :=
  text.toList.length % 2 = 0 && text.toList.all fun char => (Json.hexValue char).isSome

/-- `strings.EqualFold` for texts of which one is hexadecimal. -/
def equalFoldASCII (left right : String) : Bool :=
  left.toList.map Char.toLower = right.toList.map Char.toLower

/-- `inspectJSONFields` of a valid document: no repeated key, nested at most 32 deep. -/
def inspectedJSON (data : List UInt8) : Option Json := do
  let value ← StrictJson.validDocument data
  match StrictJson.inspectWithin 32 0 value with
  | .ok false => some value
  | _ => none

def nonemptyAudience : Option Json → Bool
  | some (.string text) => text ≠ ""
  | some (.array items) =>
    !items.isEmpty && items.all fun item => (asText item).elim false (· ≠ "")
  | _ => false

def executorClaims (now : Int) (claims : Fields) (identity : WorkloadIdentity) :
    Option String := do
  let expiration ← integer claims "exp"
  let remaining := expiration * 1000000000 - now
  guard (300000000000 ≤ remaining && remaining ≤ 900000000000 &&
    textValue claims "sub" =
      "system:serviceaccount:" ++ identity.namespaceName ++ ":" ++ identity.serviceAccount &&
    nonemptyAudience (member claims "aud"))
  let kubernetesClaims ← object claims "kubernetes.io"
  guard (textValue kubernetesClaims "namespace" = identity.namespaceName)
  let serviceAccount ← object kubernetesClaims "serviceaccount"
  guard (textValue serviceAccount "name" = identity.serviceAccount &&
    textValue serviceAccount "uid" ≠ "")
  return textValue serviceAccount "uid"

def tokenPayload (raw : List UInt8) : Option (List Char) :=
  match raw.splitOn 46 with
  | [header, payload, signature] =>
    if header ≠ [] && payload ≠ [] && signature ≠ [] then
      some (payload.map fun byte => Char.ofNat byte.toNat)
    else none
  | _ => none

/-- `validateExecutorBearer`: the identity in the executor's token. -/
def validateExecutorBearer (now : Int) (encoded : String) (identity : WorkloadIdentity) :
    Option String := do
  let raw ← Base64.decode encoded
  let part ← tokenPayload raw
  let payload ← Base64.decodeRawURL part
  match ← inspectedJSON payload with
  | .object claims => executorClaims now claims identity
  | _ => none

def check (gate : String) (holds : Bool) : Except String Unit :=
  if holds then .ok () else .error gate

theorem check_bind {α : Type} {gate : String} {holds : Bool} {rest : Unit → Except String α}
    {value : α} :
    (check gate holds >>= rest) = .ok value ↔ holds = true ∧ rest () = .ok value := by
  cases holds <;> simp [check, bind, Except.bind]

section Checks

variable [Platform]

/-- `validateConnection`. -/
def validConnection (connection : Connection) (bearerRequired : Bool) : Bool :=
  (Platform.parseURL connection.address).elim false (fun parsed =>
    parsed.scheme = "https" && parsed.host ≠ "" && !parsed.hasUser &&
      (parsed.path = "" || parsed.path = "/") && parsed.rawQuery = "" && parsed.fragment = "") &&
    connection.serverName ≠ "" &&
    !containsAny connection.serverName ['\x00', '\r', '\n', '\t', ' ', '/', ':', '@'] &&
    (Base64.decode connection.caCertificateBase64).elim false (fun ca =>
      ca ≠ [] && ca.length ≤ 262144) &&
    if bearerRequired then
      (Base64.decode connection.bearerTokenBase64).elim false fun token =>
        8 ≤ token.length && token.length ≤ 65536
    else connection.bearerTokenBase64 = ""

def identityJSON (identity : WorkloadIdentity) : Json :=
  .object [("namespace", .string identity.namespaceName),
    ("serviceAccount", .string identity.serviceAccount)]

def contractJSON (contract : Contract) : Json :=
  .object [("schemaVersion", .string contract.schemaVersion),
    ("authMount", .string contract.authMount),
    ("authMountOwnership", .string contract.authMountOwnership),
    ("kvV2Mount", .string contract.kvV2Mount), ("dataPrefix", .string contract.dataPrefix),
    ("policyName", .string contract.policyName), ("roleName", .string contract.roleName),
    ("workloadIdentity", identityJSON contract.workloadIdentity),
    ("audience", .string contract.audience),
    ("aliasNameSource", .string contract.aliasNameSource),
    ("tokenTTL", .string contract.tokenTTL), ("tokenMaxTTL", .string contract.tokenMaxTTL),
    ("tokenNoDefaultPolicy", .bool contract.tokenNoDefaultPolicy)]

def connectionJSON (connection : Connection) (ca : List UInt8) : Json :=
  .object [("Address", .string connection.address),
    ("ServerName", .string connection.serverName),
    ("CACertificateSHA256", .string (hexText (Platform.sha256 ca)))]

def sortedSecrets (entries : List SecretEntry) : List SecretEntry :=
  entries.insertionSort fun left right => left.key ≤ right.key

/-- The document that `BindingSHA256` hashes. -/
def bindingDocument (request : Request) : Option Json := do
  let openBaoCA ← Base64.decode request.openBao.caCertificateBase64
  let kubernetesCA ← Base64.decode request.kubernetes.caCertificateBase64
  return .object [("schemaVersion", .string request.schemaVersion),
    ("contract", contractJSON request.contract),
    ("openBao", connectionJSON request.openBao openBaoCA),
    ("kubernetes", connectionJSON request.kubernetes kubernetesCA),
    ("lease", .object [("namespace", .string request.lease.namespaceName),
      ("name", .string request.lease.name),
      ("holderIdentity", .string request.lease.holderIdentity)]),
    ("executorIdentity", identityJSON request.executorIdentity),
    ("managementPolicyName", .string request.managementPolicyName),
    ("managementAccessor", .string request.managementAccessor),
    ("seed", .object [("relativePath", .string request.seed.relativePath),
      ("entries", .array ((sortedSecrets request.seed.entries).map fun entry =>
        .object [("key", .string entry.key), ("valueBase64", .string entry.valueBase64)]))]),
    ("negativeIdentities", .object
      [("wrongServiceAccount", identityJSON request.negativeIdentities.wrongServiceAccount),
        ("wrongNamespace", identityJSON request.negativeIdentities.wrongNamespace)])]

def bindingSHA256 (request : Request) : Option String :=
  (bindingDocument request).map fun document =>
    hexText (Platform.sha256 (Json.goStyle.bytes document))

def validLeaseTarget (lease : LeaseTarget) : Bool :=
  dnsLabel lease.namespaceName && dnsLabel lease.name && lease.holderIdentity ≠ "" &&
    lease.holderIdentity.utf8ByteSize ≤ 128 &&
    !containsAny lease.holderIdentity ['\x00', '\r', '\n', '\t', ' ']

def validIdentity (identity : WorkloadIdentity) : Bool :=
  dnsLabel identity.namespaceName && dnsLabel identity.serviceAccount

def validSecrets : List String → List SecretEntry → Bool
  | _, [] => true
  | seen, entry :: entries =>
    secretKey entry.key && entry.key ∉ seen &&
      (Base64.decode entry.valueBase64).elim false (fun value =>
        value ≠ [] && value.length ≤ 262144 && utf8Valid value) &&
      validSecrets (entry.key :: seen) entries

def validNegativeIdentities (request : Request) : Bool :=
  let wrongSA := request.negativeIdentities.wrongServiceAccount
  let wrongNS := request.negativeIdentities.wrongNamespace
  let workload := request.contract.workloadIdentity
  validIdentity wrongSA && validIdentity wrongNS &&
    wrongSA.namespaceName = workload.namespaceName &&
    wrongSA.serviceAccount ≠ workload.serviceAccount &&
    wrongNS.namespaceName ≠ workload.namespaceName &&
    wrongNS.serviceAccount = workload.serviceAccount

def validApproval (request : Request) : Bool :=
  request.approval.changeAuthorized && request.approval.bindingSHA256.utf8ByteSize = 64 &&
    hexValid request.approval.bindingSHA256 &&
    (bindingSHA256 request).elim false (equalFoldASCII request.approval.bindingSHA256)

/-- `validateRequest`: the completed request, or the gate that failed. -/
def validateRequest (now : Int) (request : Request) : Except String Request := do
  check "schema-version" (request.schemaVersion = applySchemaVersion)
  check "planner-contract" (validate request.contract = [])
  check "secure-connection-contract"
    (validConnection request.openBao false && validConnection request.kubernetes true)
  check "lease-contract" (validLeaseTarget request.lease)
  check "executor-identity-contract" (validIdentity request.executorIdentity)
  match validateExecutorBearer now request.kubernetes.bearerTokenBase64
      request.executorIdentity with
  | none => .error "executor-token-contract"
  | some executorUID =>
    check "management-policy-contract"
      (dnsLabel request.managementPolicyName && request.managementPolicyName ≠ "root" &&
        request.managementPolicyName ≠ "default" &&
        request.managementPolicyName ≠ "response-wrapping" &&
        request.managementPolicyName ≠ request.contract.policyName)
    check "management-accessor-contract" (safeOpaque request.managementAccessor 8 512)
    check "wrapping-token-contract" ((Base64.decode request.wrappingTokenBase64).elim false
      fun token => 8 ≤ token.length && token.length ≤ 16384)
    check "seed-contract"
      (validRelativePath request.seed.relativePath && !request.seed.entries.isEmpty &&
        request.seed.entries.length ≤ 64 && validSecrets [] request.seed.entries)
    check "negative-identity-contract" (validNegativeIdentities request)
    check "executor-identity-separation"
      (request.executorIdentity ≠ request.contract.workloadIdentity &&
        request.executorIdentity ≠ request.negativeIdentities.wrongServiceAccount &&
        request.executorIdentity ≠ request.negativeIdentities.wrongNamespace)
    check "approval-binding" (validApproval request)
    return { request with executorServiceAccountUID := executorUID }

structure Request.Accepted (request : Request) : Prop where
  contract : validate request.contract = []
  managementPolicy : dnsLabel request.managementPolicyName = true
  managementPolicyFree : reservedPolicyName request.managementPolicyName = false
  separate : request.managementPolicyName ≠ request.contract.policyName
  seed : validRelativePath request.seed.relativePath = true

theorem validateRequest_accepted {now : Int} {request accepted : Request}
    (passed : validateRequest now request = .ok accepted) : accepted.Accepted := by
  simp only [validateRequest, check_bind] at passed
  obtain ⟨-, contract, -, -, -, passed⟩ := passed
  split at passed
  · exact absurd passed nofun
  · simp only [check_bind, pure, Except.pure, Except.ok.injEq] at passed
    obtain ⟨management, -, -, seed, -, -, -, rfl⟩ := passed
    simp only [Bool.and_eq_true, decide_eq_true_eq] at contract management seed
    obtain ⟨⟨⟨⟨label, notRoot⟩, notDefault⟩, notWrapping⟩, separate⟩ := management
    exact {
      contract := contract
      managementPolicy := label
      managementPolicyFree := by
        simp [reservedPolicyName, notRoot, notDefault, notWrapping]
      separate := separate
      seed := seed.1.1.1 }

end Checks

/-! ## A request that passes -/

@[reducible] def plainPlatform : Platform where
  parseTime _ := some 0
  sha256 _ := List.replicate 32 0
  parseURL address := some ⟨"https", address, false, "", "", ""⟩

def sampleClaims : Fields :=
  [("exp", .number ⟨"1000", by decide⟩),
    ("sub", .string "system:serviceaccount:ops:executor"), ("aud", .string "api"),
    ("kubernetes.io", .object [("namespace", .string "ops"),
      ("serviceaccount", .object
        [("name", .string "executor"), ("uid", .string "uid1")])])]

def sampleToken : List UInt8 :=
  [104, 46] ++ (Base64.encodeGroups (Json.goStyle.bytes (.object sampleClaims))).map
    (fun char => UInt8.ofNat char.toNat) ++ [46, 115]

def sampleContract : Contract where
  schemaVersion := schemaVersion
  authMount := "cloudring"
  authMountOwnership := dedicatedAuthMountOwnership
  kvV2Mount := "platform"
  dataPrefix := "app"
  policyName := "app-read"
  roleName := "app"
  workloadIdentity := ⟨"shop", "web"⟩
  audience := "openbao"
  aliasNameSource := "serviceaccount_uid"
  tokenTTL := "10m"
  tokenMaxTTL := "30m"
  tokenNoDefaultPolicy := true

def sampleReceived : Request where
  schemaVersion := applySchemaVersion
  contract := sampleContract
  openBao := ⟨"https://openbao", "openbao", "Y2E=", ""⟩
  kubernetes := ⟨"https://kubernetes", "kubernetes", "Y2E=",
    Base64.encode sampleToken⟩
  lease := ⟨"ops", "apply", "runner"⟩
  executorIdentity := ⟨"ops", "executor"⟩
  managementPolicyName := "apply-once"
  managementAccessor := "accessor-1"
  wrappingTokenBase64 := "d3JhcHBpbmctdG9rZW4="
  seed := ⟨"seed", [⟨"password", "c2VjcmV0"⟩]⟩
  negativeIdentities := ⟨⟨"shop", "other"⟩, ⟨"bank", "web"⟩⟩
  approval := ⟨true, "0000000000000000000000000000000000000000000000000000000000000000"⟩
  executorServiceAccountUID := ""

def sampleRequest : Request :=
  { sampleReceived with executorServiceAccountUID := "uid1" }

theorem inspectedJSON_sampleClaims :
    inspectedJSON (Json.goStyle.bytes (.object sampleClaims)) = some (.object sampleClaims) := by
  rw [inspectedJSON, StrictJson.validDocument, Json.parse_bytes Json.goStyle_lawful]
  rfl

theorem sampleToken_decoded :
    Base64.decode sampleReceived.kubernetes.bearerTokenBase64 = some sampleToken := by
  have text : sampleReceived.kubernetes.bearerTokenBase64.toList =
      Base64.encodeGroups sampleToken := String.toList_ofList
  rw [Base64.decode, text]
  decide +kernel

theorem validateExecutorBearer_sample :
    validateExecutorBearer 400000000000 sampleReceived.kubernetes.bearerTokenBase64
      sampleReceived.executorIdentity = some "uid1" := by
  have payload : (tokenPayload sampleToken).bind Base64.decodeRawURL =
      some (Json.goStyle.bytes (.object sampleClaims)) := by
    decide +kernel
  obtain ⟨part, middle, payload⟩ := Option.bind_eq_some_iff.mp payload
  have claims : executorClaims 400000000000 sampleClaims sampleReceived.executorIdentity =
      some "uid1" := by
    decide +kernel
  simp only [validateExecutorBearer, sampleToken_decoded, middle, payload,
    inspectedJSON_sampleClaims, Option.bind_eq_bind, Option.bind_some]
  exact claims

theorem validConnection_sample :
    @validConnection plainPlatform sampleReceived.kubernetes true = true := by
  unfold validConnection
  rw [sampleToken_decoded]
  decide +kernel

theorem validateRequest_sample :
    @validateRequest plainPlatform 400000000000 sampleReceived = .ok sampleRequest := by
  unfold validateRequest
  rw [validateExecutorBearer_sample, validConnection_sample]
  rfl

end CloudRing.OpenBaoApply
