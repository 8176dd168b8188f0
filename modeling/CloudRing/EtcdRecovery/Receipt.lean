import CloudRing.Library.Hex
import CloudRing.Library.Json.Decimal
import CloudRing.Library.Pattern
import CloudRing.Library.Time
import CloudRing.StrictJson.Validate

/-!
# Receipts of the recovery worker

`CanonicalReceipt` checks a receipt and encodes it; `ParseCanonicalReceipt` decodes and checks it.
-/

namespace CloudRing.EtcdRecovery

open Library (Json Time Utf8.encode Utf8.ofString Pattern.isHexDigit)
open Library.Instant (millisecond second)

inductive Text where
  | schemaVersion | status | reasonCode | stage | snapshotIDSHA256 | snapshotChecksumSHA256
  | sourceMode | endpointSHA256 | objectReferenceSHA256 | objectIdentitySHA256
  | clusterIdentitySHA256 | jobTemplateSHA256 | executionProfileSHA256 | inputSecretSHA256
  | requestSHA256 | workerExecutableSHA256 | workerImageDigest | sourceStatusSHA256
  | sourceKVHashSHA256 | restoredChecksumSHA256 | restoredStatusSHA256 | restoredKVHashSHA256
  | sandboxStateSHA256 | startedAt | completedAt | evidenceSHA256
  deriving DecidableEq

inductive Number where
  | snapshotBytes | restoredBytes | observedDurationMilliseconds
  deriving DecidableEq

inductive Flag where
  | memberHealthVerified | offlineMemberDatabaseVerified | loopbackOnly | workspaceCleanupVerified
  deriving DecidableEq

structure ToolIdentity where
  (name version executableSHA256 : String)
  deriving DecidableEq

@[ext] structure Receipt where
  text : Text → String
  number : Number → Int
  flag : Flag → Bool
  tool : Option ToolIdentity

inductive Field where
  | text (field : Text)
  | number (field : Number)
  | flag (field : Flag)
  | tool
  deriving DecidableEq

def Field.name : Field → String
  | .text .schemaVersion => "schemaVersion"
  | .text .status => "status"
  | .text .reasonCode => "reasonCode"
  | .text .stage => "stage"
  | .text .snapshotIDSHA256 => "snapshotIdSha256"
  | .text .snapshotChecksumSHA256 => "snapshotChecksumSha256"
  | .text .sourceMode => "sourceMode"
  | .text .endpointSHA256 => "endpointSha256"
  | .text .objectReferenceSHA256 => "objectReferenceSha256"
  | .text .objectIdentitySHA256 => "objectIdentitySha256"
  | .text .clusterIdentitySHA256 => "clusterIdentitySha256"
  | .text .jobTemplateSHA256 => "jobTemplateSha256"
  | .text .executionProfileSHA256 => "executionProfileSha256"
  | .text .inputSecretSHA256 => "inputSecretSha256"
  | .text .requestSHA256 => "requestSha256"
  | .text .workerExecutableSHA256 => "workerExecutableSha256"
  | .text .workerImageDigest => "workerImageDigest"
  | .text .sourceStatusSHA256 => "sourceStatusSha256"
  | .text .sourceKVHashSHA256 => "sourceKvHashSha256"
  | .text .restoredChecksumSHA256 => "restoredChecksumSha256"
  | .text .restoredStatusSHA256 => "restoredStatusSha256"
  | .text .restoredKVHashSHA256 => "restoredKvHashSha256"
  | .text .sandboxStateSHA256 => "sandboxStateSha256"
  | .text .startedAt => "startedAt"
  | .text .completedAt => "completedAt"
  | .text .evidenceSHA256 => "evidenceSha256"
  | .number .snapshotBytes => "snapshotBytes"
  | .number .restoredBytes => "restoredBytes"
  | .number .observedDurationMilliseconds => "observedDurationMilliseconds"
  | .flag .memberHealthVerified => "memberHealthVerified"
  | .flag .offlineMemberDatabaseVerified => "offlineMemberDatabaseVerified"
  | .flag .loopbackOnly => "loopbackOnly"
  | .flag .workspaceCleanupVerified => "workspaceCleanupVerified"
  | .tool => "tool"

def declared : List Field :=
  [.text .schemaVersion, .text .status, .text .reasonCode, .text .stage, .text .snapshotIDSHA256,
    .text .snapshotChecksumSHA256, .number .snapshotBytes, .text .sourceMode,
    .text .endpointSHA256, .text .objectReferenceSHA256, .text .objectIdentitySHA256,
    .text .clusterIdentitySHA256, .text .jobTemplateSHA256, .text .executionProfileSHA256,
    .text .inputSecretSHA256, .text .requestSHA256, .text .workerExecutableSHA256,
    .text .workerImageDigest, .tool, .text .sourceStatusSHA256, .text .sourceKVHashSHA256,
    .text .restoredChecksumSHA256, .number .restoredBytes, .text .restoredStatusSHA256,
    .text .restoredKVHashSHA256, .text .sandboxStateSHA256, .flag .memberHealthVerified,
    .flag .offlineMemberDatabaseVerified, .flag .loopbackOnly, .flag .workspaceCleanupVerified,
    .text .startedAt, .text .completedAt, .number .observedDurationMilliseconds,
    .text .evidenceSHA256]

def always : List Field :=
  [.text .schemaVersion, .text .status, .text .reasonCode, .text .stage, .text .startedAt,
    .text .completedAt, .number .observedDurationMilliseconds, .text .evidenceSHA256]

def Receipt.value (receipt : Receipt) : Field → Option Json
  | .text field =>
    if receipt.text field = "" ∧ .text field ∉ always then none
    else some (.string (receipt.text field))
  | .number field =>
    if receipt.number field = 0 ∧ .number field ∉ always then none
    else some (.number (.ofInt (receipt.number field)))
  | .flag field => some (.bool (receipt.flag field))
  | .tool => receipt.tool.map fun tool => .object [("name", .string tool.name),
      ("version", .string tool.version), ("executableSha256", .string tool.executableSHA256)]

def Receipt.members (receipt : Receipt) (fields : List Field) : List (String × Json) :=
  fields.filterMap fun field => (receipt.value field).map (field.name, ·)

/-- `json.Marshal` of a receipt. -/
def Receipt.marshal (receipt : Receipt) : List UInt8 :=
  Json.goStyle.bytes (.object (receipt.members declared))

def readInt (numeral : Json.Numeral) : Int :=
  match numeral.literal.toList with
  | '-' :: digits => -(Json.digitsValue digits : Int)
  | digits => Json.digitsValue digits

def readTool : Json → Option ToolIdentity
  | .object [("name", .string name), ("version", .string version),
      ("executableSha256", .string executableSHA256)] => some ⟨name, version, executableSHA256⟩
  | _ => none

def Field.accepts : Field → Json → Bool
  | .text _, .string _ => true
  | .number _, .number _ => true
  | .flag _, .bool _ => true
  | .tool, value => (readTool value).isSome
  | _, _ => false

def readReceipt (members : List (String × Json)) : Option Receipt :=
  if members.all fun member => declared.any fun field =>
      field.name = member.1 && field.accepts member.2 then
    some {
      text := fun field =>
        match members.lookup (Field.text field).name with
        | some (.string text) => text
        | _ => ""
      number := fun field =>
        match members.lookup (Field.number field).name with
        | some (.number numeral) => readInt numeral
        | _ => 0
      flag := fun field =>
        match members.lookup (Field.flag field).name with
        | some (.bool value) => value
        | _ => false
      tool := (members.lookup Field.tool.name).bind readTool }
  else none

def validSHA256 (value : String) : Bool :=
  value.toList.length = 64 && value.toList.all Pattern.isHexDigit

def validOptionalSHA256 (value : String) : Bool := value = "" || validSHA256 value

def validImageDigest (value : String) : Bool :=
  value.toList.take 7 = "sha256:".toList && validSHA256 (String.ofList (value.toList.drop 7))

def toolName : String := "etcdutl"

def toolVersion : String := "3.6.14"

def toolSHA256 : String := "04c53c46f259a1c470a74c83d5a3a4a5d0b1e54db4d42dfaeb66ab78b3cb71cf"

def validOptionalTool (tool : Option ToolIdentity) : Bool :=
  tool.all (· = ⟨toolName, toolVersion, toolSHA256⟩)

def receiptSchemaVersion : String := "cloudring.etcd-recovery.receipt/v1"

/-- `MaxArchiveBytes` and `MaxRestoredBytes`. -/
def maxArchiveBytes : Int := 2147483648

def maximumReceiptDuration : Int := 1830 * second

def maximumReceiptBytes : Nat := 4096

def validReceiptStage (stage : String) : Bool :=
  stage ∈ ["initialization", "request", "worker-identity", "workspace", "archive",
    "tool-identity", "source-status", "restore", "restored-status", "cleanup", "complete"]

def requestDigests : List Text :=
  [.snapshotIDSHA256, .snapshotChecksumSHA256, .endpointSHA256, .objectReferenceSHA256,
    .objectIdentitySHA256, .clusterIdentitySHA256, .jobTemplateSHA256, .executionProfileSHA256,
    .inputSecretSHA256]

def restoredDigests : List Text :=
  [.sourceStatusSHA256, .sourceKVHashSHA256, .restoredChecksumSHA256, .restoredStatusSHA256,
    .restoredKVHashSHA256, .sandboxStateSHA256]

def noOfflineSuccessFields (receipt : Receipt) : Bool :=
  restoredDigests.all (receipt.text · = "") && receipt.number .restoredBytes = 0

def bindingConsistent (receipt : Receipt) : Bool :=
  let some_ := receipt.text .sourceMode ≠ "" || requestDigests.any (receipt.text · ≠ "") ||
    receipt.number .snapshotBytes ≠ 0 || receipt.text .workerImageDigest ≠ ""
  let all_ := receipt.text .sourceMode ≠ "" && requestDigests.all (validSHA256 <| receipt.text ·) &&
    receipt.number .snapshotBytes > 0 && validSHA256 (receipt.text .requestSHA256) &&
    validImageDigest (receipt.text .workerImageDigest)
  some_ = all_

def validStatusFields (receipt : Receipt) : Bool :=
  let reason := receipt.text .reasonCode
  let stage := receipt.text .stage
  let cleaned := receipt.flag .workspaceCleanupVerified
  let unverified := !receipt.flag .offlineMemberDatabaseVerified && noOfflineSuccessFields receipt
  match receipt.text .status with
  | "verified" =>
    reason = "offline_restore_verified" && stage = "complete" &&
      receipt.flag .offlineMemberDatabaseVerified && cleaned &&
      requestDigests.all (validSHA256 <| receipt.text ·) && receipt.number .snapshotBytes > 0 &&
      (receipt.text .sourceMode = "local-file" || receipt.text .sourceMode = "s3") &&
      validSHA256 (receipt.text .requestSHA256) &&
      validSHA256 (receipt.text .workerExecutableSHA256) &&
      validImageDigest (receipt.text .workerImageDigest) &&
      receipt.tool.any (fun tool => tool.name = toolName && tool.version = toolVersion &&
        validSHA256 tool.executableSHA256) &&
      restoredDigests.all (validSHA256 <| receipt.text ·) && receipt.number .restoredBytes > 0 &&
      receipt.text .sourceKVHashSHA256 = receipt.text .restoredKVHashSHA256
  | "failed" => unverified && (reason = "operation_failed" && stage ≠ "complete" && cleaned ||
      reason = "workspace_cleanup_failed" && stage = "cleanup" && !cleaned)
  | "cancelled" =>
    unverified && reason = "operation_cancelled" && stage ≠ "complete" && cleaned
  | "timeout" => unverified && reason = "operation_timed_out" && stage ≠ "complete" && cleaned
  | _ => false

def Representable (time : Time) : Prop := -31622400 ≤ time.sec ∧ time.sec < 315537897600

instance (time : Time) : Decidable (Representable time) :=
  inferInstanceAs (Decidable (_ ∧ _))

/-- `time.Format` in UTC and `time.Parse`, for `RFC3339Nano`. -/
structure TimeFormat where
  format : Time → String
  parse : String → Option Time
  parse_format : ∀ time, parse (format time) = if Representable time then some time else none
  short : ∀ time, Representable time → (format time).toList.length ≤ 30 ∧
    ∀ char ∈ (format time).toList, char ∈ "0123456789-:.TZ".toList

section Checks

variable (times : TimeFormat) (sha256 : List UInt8 → List UInt8)

def digestBytes (bytes : List UInt8) : String := Library.Hex.text (sha256 bytes)

def receiptDigest (receipt : Receipt) : String :=
  digestBytes sha256 ({ receipt with
    text := Function.update receipt.text .evidenceSHA256 "" }).marshal

def validInterval (receipt : Receipt) : Bool :=
  match times.parse (receipt.text .startedAt), times.parse (receipt.text .completedAt) with
  | some started, some completed =>
    let duration := receipt.number .observedDurationMilliseconds
    !completed.before started && receipt.text .startedAt = times.format started &&
      receipt.text .completedAt = times.format completed &&
      duration = (completed.sub started).tdiv millisecond && 0 ≤ duration &&
      duration ≤ maximumReceiptDuration.tdiv millisecond
  | _, _ => false

def validReceipt (receipt : Receipt) : Bool :=
  receipt.text .schemaVersion = receiptSchemaVersion && validInterval times receipt &&
    validSHA256 (receipt.text .evidenceSHA256) && !receipt.flag .memberHealthVerified &&
    receipt.flag .loopbackOnly && validReceiptStage (receipt.text .stage) &&
    (requestDigests ++ [Text.requestSHA256, .workerExecutableSHA256] ++ restoredDigests).all
      (validOptionalSHA256 <| receipt.text ·) &&
    [Number.snapshotBytes, .restoredBytes].all (fun field =>
      0 ≤ receipt.number field && receipt.number field ≤ maxArchiveBytes) &&
    receipt.text .sourceMode ∈ ["", "local-file", "s3"] &&
    (receipt.text .workerImageDigest = "" || validImageDigest (receipt.text .workerImageDigest)) &&
    validOptionalTool receipt.tool && bindingConsistent receipt && validStatusFields receipt

def accepted (receipt : Receipt) : Bool :=
  validReceipt times receipt && receipt.text .evidenceSHA256 = receiptDigest sha256 receipt

def canonicalReceipt (receipt : Receipt) : Option (List UInt8) :=
  if accepted times sha256 receipt then some receipt.marshal else none

def parseCanonicalReceipt (data : List UInt8) : Option Receipt :=
  if data.length = 0 || data.length > maximumReceiptBytes || !(StrictJson.validate data).isOk then
    none
  else
    match Json.parse data with
    | some (.object members) => (readReceipt members).filter fun receipt =>
        receipt.marshal = data && accepted times sha256 receipt
    | _ => none

end Checks

end CloudRing.EtcdRecovery
