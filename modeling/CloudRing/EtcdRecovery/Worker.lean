import CloudRing.EtcdRecovery.Encoding
import CloudRing.Library.Check

/-!
# A run of the recovery worker

Every step of `run` is taken at most once, so a run is determined by what its dependencies answer
(`Answers`).
-/

namespace CloudRing.EtcdRecovery

open Library (Json Time Utf8.ofString Pattern.isLowerOrDigit Pattern.bracketed ensure require
  wrapped Ends ends_bind ends_ensure ends_require ends_mapError)
open Library.Instant (millisecond second minute)

structure Request where
  (schemaVersion operationID snapshotID snapshotChecksumSHA256 : String)
  snapshotBytes : Int
  (sourceMode endpoint region bucket objectKey objectVersion objectIdentitySHA256
    clusterIdentitySHA256 jobTemplateSHA256 executionProfileSHA256 inputSecretSHA256
    workerExecutableSHA256 workerImageDigest etcdutlVersion etcdutlSHA256 issuedAt
    expiresAt : String)
  timeoutSeconds : Int

structure SnapshotStatus where
  hash : UInt32
  (revision totalKey totalSize : Int)
  version : String

structure SnapshotKVHash where
  hash : UInt32
  hashRevision : Int
  compactRevision : Int
  deriving DecidableEq

structure Primitives where
  times : TimeFormat
  sha256 : List UInt8 → List UInt8
  sha256_length : ∀ bytes, (sha256 bytes).length = 32
  decode : List UInt8 → Option Request
  validS3 : Request → Bool

inductive Step where
  | newWorkspace | openArchive | openTool | verifyVersion | copyArchive | discardCopy | restore
  | validateLayout | openRestored | closeRestored | reopenRestored | validateStable
  | closeReopened | cleanup
  | afterTool | afterRestore | afterVerification | afterCleanup

structure Answers where
  startedAt : Time
  requestBytes : Option (List UInt8)
  decodedAt : Time
  elapsed : Int
  executableHash : Option String
  succeeds : Step → Bool
  archive : Option (List UInt8)
  identity : Nat → String
  sourceStatus : Option SnapshotStatus
  (sourceKVHash restoredKVHash : Option SnapshotKVHash)
  restored : Option { content : List UInt8 // (content.length : Int) ≤ maxArchiveBytes }
  restoredStatus : Option SnapshotStatus
  completedAt : Time
  failedAt : Time
  deadlineExceeded : Bool
  parentCancelled : Bool

structure ExecutionState where
  startedAt : Time
  request : Option Request := none
  requestSHA256 : String := ""
  workerSHA256 : String := ""
  toolSHA256 : String := ""
  stage : String := "request"
  cleanupPending : Bool := false
  cleanupVerified : Bool := true

def requestSchemaVersion : String := "cloudring.etcd-recovery.request/v1"

def sandboxStateSchemaVersion : String := "cloudring.etcd-recovery.sandbox-state/v1"

def maximumRunTimeout : Int := 30 * minute

def maximumRequestAge : Int := 30 * minute

def maximumFutureSkew : Int := 5 * minute

/-- `safeIDPattern`, `^[a-z0-9](?:[a-z0-9.-]{0,251}[a-z0-9])?$`. -/
def safeID (value : String) : Bool :=
  value.toList.length ≤ 253 && Pattern.bracketed Pattern.isLowerOrDigit
    (fun char => Pattern.isLowerOrDigit char || char = '.' || char = '-') Pattern.isLowerOrDigit
    value

def validStatus (status : SnapshotStatus) : Bool :=
  0 ≤ status.revision && 0 ≤ status.totalKey && 0 < status.totalSize

def validKVHash (value : SnapshotKVHash) (status : SnapshotStatus) : Bool :=
  value.hashRevision = status.revision && 0 ≤ value.hashRevision && -1 ≤ value.compactRevision &&
    value.compactRevision ≤ value.hashRevision

def SnapshotStatus.members (status : SnapshotStatus) : List (String × Json) :=
  [("hash", .number (.ofInt status.hash.toNat)), ("revision", .number (.ofInt status.revision)),
    ("totalKey", .number (.ofInt status.totalKey)),
    ("totalSize", .number (.ofInt status.totalSize)), ("version", .string status.version)]

def SnapshotKVHash.members (value : SnapshotKVHash) : List (String × Json) :=
  [("hash", .number (.ofInt value.hash.toNat)),
    ("hashRevision", .number (.ofInt value.hashRevision)),
    ("compactRevision", .number (.ofInt value.compactRevision))]

section Run

variable (primitives : Primitives)

/-- `digestValue` of a structure. -/
def digestValue (members : List (String × Json)) : String :=
  digestBytes primitives.sha256 (Json.goStyle.bytes (.object members))

def digestString (value : String) : String :=
  digestBytes primitives.sha256 (Utf8.ofString value)

def requestObjectIdentity (request : Request) : List (String × Json) :=
  [("schemaVersion", .string requestSchemaVersion), ("snapshotId", .string request.snapshotID),
    ("sourceMode", .string request.sourceMode), ("endpoint", .string request.endpoint),
    ("region", .string request.region), ("bucket", .string request.bucket),
    ("objectKey", .string request.objectKey), ("objectVersion", .string request.objectVersion)]

def objectReferenceSHA256 (request : Request) : String :=
  digestValue primitives [("bucket", .string request.bucket), ("key", .string request.objectKey),
    ("version", .string request.objectVersion)]

def endpointSHA256 (request : Request) : String :=
  digestString primitives
    (if request.sourceMode = "local-file" then "local-file" else request.endpoint)

def validSource (request : Request) : Bool :=
  match request.sourceMode with
  | "local-file" => request.endpoint = "" && request.region = "" && request.bucket = "" &&
      request.objectKey = "" && request.objectVersion = ""
  | "s3" => primitives.validS3 request
  | _ => false

/-- `time.Duration(request.TimeoutSeconds) * time.Second`. -/
def Request.timeout (request : Request) : Int := wrapped (request.timeoutSeconds * second)

/-- The timeline checks of `decodeRequest`. -/
def validTimeline (request : Request) (now : Time) : Bool :=
  match primitives.times.parse request.issuedAt, primitives.times.parse request.expiresAt with
  | some issuedAt, some expiresAt =>
    request.issuedAt = primitives.times.format issuedAt &&
      request.expiresAt = primitives.times.format expiresAt && !expiresAt.before now &&
      !issuedAt.after (now.add maximumFutureSkew) && now.sub issuedAt ≤ maximumRequestAge &&
      expiresAt.after issuedAt && expiresAt.sub issuedAt ≤ maximumRequestAge
  | _, _ => false

/-- The field checks of `decodeRequest`. -/
def validFields (request : Request) : Bool :=
  request.schemaVersion = requestSchemaVersion && safeID request.operationID &&
    safeID request.snapshotID && validSHA256 request.snapshotChecksumSHA256 &&
    0 < request.snapshotBytes && request.snapshotBytes ≤ maxArchiveBytes &&
    validSource primitives request && validSHA256 request.objectIdentitySHA256 &&
    validSHA256 request.clusterIdentitySHA256 && validSHA256 request.jobTemplateSHA256 &&
    validSHA256 request.executionProfileSHA256 && validSHA256 request.inputSecretSHA256 &&
    validSHA256 request.workerExecutableSHA256 && validImageDigest request.workerImageDigest &&
    request.etcdutlVersion = toolVersion && request.etcdutlSHA256 = toolSHA256 &&
    1 ≤ request.timeoutSeconds && request.timeout ≤ maximumRunTimeout

def decodeRequest (data : List UInt8) (now : Time) : Except String Request := do
  let request ← require "recovery request is invalid" (primitives.decode data)
  ensure "recovery request timeline is invalid" (validTimeline primitives request now)
  ensure "recovery request fields are invalid" (validFields primitives request)
  ensure "recovery object identity binding is invalid"
    (request.objectIdentitySHA256 = digestValue primitives (requestObjectIdentity request))
  return request

def Request.binding (request : Request) : Text → String
  | .snapshotIDSHA256 => digestString primitives request.snapshotID
  | .snapshotChecksumSHA256 => request.snapshotChecksumSHA256
  | .sourceMode => request.sourceMode
  | .endpointSHA256 => endpointSHA256 primitives request
  | .objectReferenceSHA256 => objectReferenceSHA256 primitives request
  | .objectIdentitySHA256 => request.objectIdentitySHA256
  | .clusterIdentitySHA256 => request.clusterIdentitySHA256
  | .jobTemplateSHA256 => request.jobTemplateSHA256
  | .executionProfileSHA256 => request.executionProfileSHA256
  | .inputSecretSHA256 => request.inputSecretSHA256
  | .workerImageDigest => request.workerImageDigest
  | _ => ""

def sealed (receipt : Receipt) : Receipt :=
  { receipt with
    text := Function.update receipt.text .evidenceSHA256 (receiptDigest primitives.sha256 receipt) }

variable (answers : Answers)

def failureStatus (state : ExecutionState) : String × String × String :=
  if !state.cleanupVerified then ("failed", "workspace_cleanup_failed", "cleanup")
  else if answers.deadlineExceeded then ("timeout", "operation_timed_out", state.stage)
  else if answers.parentCancelled then ("cancelled", "operation_cancelled", state.stage)
  else ("failed", "operation_failed", state.stage)

def failureReceipt (state : ExecutionState) (now : Time) : Receipt :=
  let completedAt := if now.before state.startedAt then state.startedAt else now
  sealed primitives {
    text := fun
      | .schemaVersion => receiptSchemaVersion
      | .status => (failureStatus answers state).1
      | .reasonCode => (failureStatus answers state).2.1
      | .stage => (failureStatus answers state).2.2
      | .requestSHA256 => state.requestSHA256
      | .workerExecutableSHA256 => state.workerSHA256
      | .startedAt => primitives.times.format state.startedAt
      | .completedAt => primitives.times.format completedAt
      | field => state.request.elim "" (·.binding primitives field)
    number := fun
      | .snapshotBytes => state.request.elim 0 (·.snapshotBytes)
      | .restoredBytes => 0
      | .observedDurationMilliseconds => (completedAt.sub state.startedAt).tdiv millisecond
    flag := fun
      | .loopbackOnly => true
      | .workspaceCleanupVerified => state.cleanupVerified
      | _ => false
    tool := if validSHA256 state.toolSHA256 then
        some ⟨toolName, toolVersion, state.toolSHA256⟩
      else none }

def identify : Except (ExecutionState × String) (ExecutionState × Request) := do
  let state : ExecutionState := { startedAt := answers.startedAt }
  let data ← require (state, "recovery request is unavailable") answers.requestBytes
  let state := { state with requestSHA256 := digestBytes primitives.sha256 data }
  let request ← (decodeRequest primitives data answers.decodedAt).mapError (Prod.mk state)
  let state := { state with request := some request }
  ensure (state, "recovery operation timed out") (0 < request.timeout - answers.elapsed)
  let state := { state with stage := "worker-identity" }
  let workerSHA256 ← require (state, "recovery worker executable identity is invalid")
    (answers.executableHash.filter (· = request.workerExecutableSHA256))
  return ({ state with workerSHA256 := workerSHA256 }, request)

def openInputs (state : ExecutionState) (request : Request) :
    Except (ExecutionState × String) (ExecutionState × List UInt8) := do
  let state := { state with stage := "workspace" }
  ensure (state, "recovery workspace is unavailable") (answers.succeeds .newWorkspace)
  let state := { state with cleanupPending := true, cleanupVerified := false, stage := "archive" }
  ensure (state, "recovery archive is unavailable") (answers.succeeds .openArchive)
  let archive ← require (state, "recovery archive identity is invalid")
    (answers.archive.filter fun content =>
      digestBytes primitives.sha256 content = request.snapshotChecksumSHA256 &&
        (content.length : Int) = request.snapshotBytes)
  let state := { state with stage := "tool-identity" }
  ensure (state, "recovery tool identity is invalid") (answers.succeeds .openTool)
  ensure (state, "recovery tool identity is invalid") (answers.identity 0 = request.etcdutlSHA256)
  ensure (state, "recovery tool version is invalid") (answers.succeeds .verifyVersion)
  let state := { state with toolSHA256 := answers.identity 1 }
  ensure (state, "recovery operation was cancelled") (answers.succeeds .afterTool)
  return (state, archive)

def hashKVFromDisposableCopy : Option SnapshotKVHash :=
  if answers.succeeds .copyArchive && answers.succeeds .discardCopy then answers.sourceKVHash
  else none

structure Comparison where
  sourceStatus : SnapshotStatus
  sourceKVHash : SnapshotKVHash
  restored : { content : List UInt8 // (content.length : Int) ≤ maxArchiveBytes }
  restoredStatus : SnapshotStatus
  restoredKVHash : SnapshotKVHash

def compare (state : ExecutionState) :
    Except (ExecutionState × String) (ExecutionState × Comparison) := do
  let state := { state with stage := "source-status" }
  let sourceStatus ← require (state, "recovery snapshot status failed")
    (answers.sourceStatus.filter validStatus)
  let sourceKVHash ← require (state, "recovery snapshot KV hash failed")
    ((hashKVFromDisposableCopy answers).filter (validKVHash · sourceStatus))
  let state := { state with stage := "restore" }
  ensure (state, "recovery snapshot restore failed") (answers.succeeds .restore)
  ensure (state, "recovery operation was cancelled") (answers.succeeds .afterRestore)
  ensure (state, "recovery workspace result is invalid") (answers.succeeds .validateLayout)
  let state := { state with stage := "restored-status" }
  ensure (state, "recovery restored database is unavailable") (answers.succeeds .openRestored)
  let restoredKVHash ← require (state, "recovery restored database KV hash failed")
    answers.restoredKVHash
  ensure (state, "close recovery restored database after KV hash")
    (answers.succeeds .closeRestored)
  ensure (state, "reopen recovery restored database") (answers.succeeds .reopenRestored)
  let restored ← require (state, "recovery restored database is invalid")
    (answers.restored.filter (0 < ·.val.length))
  let restoredStatus ← require (state, "recovery restored database status failed")
    (answers.restoredStatus.filter validStatus)
  ensure (state, "recovery restored database KV hash failed")
    (validKVHash restoredKVHash restoredStatus)
  ensure (state, "recovery restored database is not equivalent")
    (sourceStatus.revision = restoredStatus.revision &&
      sourceStatus.totalKey = restoredStatus.totalKey &&
      sourceStatus.version = restoredStatus.version && sourceKVHash = restoredKVHash)
  ensure (state, "recovery input changed during verification") (answers.succeeds .validateStable)
  ensure (state, "close recovery restored database") (answers.succeeds .closeReopened)
  ensure (state, "recovery operation was cancelled") (answers.succeeds .afterVerification)
  return (state, ⟨sourceStatus, sourceKVHash, restored, restoredStatus, restoredKVHash⟩)

def Comparison.text (comparison : Comparison) : Text → String
  | .sourceStatusSHA256 => digestValue primitives comparison.sourceStatus.members
  | .sourceKVHashSHA256 => digestValue primitives comparison.sourceKVHash.members
  | .restoredChecksumSHA256 => digestBytes primitives.sha256 comparison.restored.val
  | .restoredStatusSHA256 => digestValue primitives comparison.restoredStatus.members
  | .restoredKVHashSHA256 => digestValue primitives comparison.restoredKVHash.members
  | _ => ""

def Comparison.sandbox (comparison : Comparison) : String :=
  let digest (field : Text) : Json := .string (comparison.text primitives field)
  digestValue primitives [("schemaVersion", .string sandboxStateSchemaVersion),
    ("sourceStatusSha256", digest .sourceStatusSHA256),
    ("sourceKvHashSha256", digest .sourceKVHashSHA256),
    ("restoredStatusSha256", digest .restoredStatusSHA256),
    ("restoredKvHashSha256", digest .restoredKVHashSHA256),
    ("restoredChecksumSha256", digest .restoredChecksumSHA256),
    ("restoredBytes", .number (.ofInt comparison.restored.val.length)),
    ("loopbackPeerUrl", .string "http://127.0.0.1:2380")]

def successReceipt (state : ExecutionState) (request : Request) (archive : List UInt8)
    (comparison : Comparison) : Receipt :=
  sealed primitives {
    text := fun
      | .schemaVersion => receiptSchemaVersion
      | .status => "verified"
      | .reasonCode => "offline_restore_verified"
      | .stage => "complete"
      | .snapshotChecksumSHA256 => digestBytes primitives.sha256 archive
      | .requestSHA256 => state.requestSHA256
      | .workerExecutableSHA256 => state.workerSHA256
      | .sandboxStateSHA256 => comparison.sandbox primitives
      | .startedAt => primitives.times.format state.startedAt
      | .completedAt => primitives.times.format answers.completedAt
      | field =>
        if field ∈ restoredDigests then comparison.text primitives field
        else request.binding primitives field
    number := fun
      | .snapshotBytes => archive.length
      | .restoredBytes => comparison.restored.val.length
      | .observedDurationMilliseconds =>
        (answers.completedAt.sub state.startedAt).tdiv millisecond
    flag := fun
      | .memberHealthVerified => false
      | _ => true
    tool := some ⟨toolName, toolVersion, answers.identity 2⟩ }

/-- The body of `run`. -/
def attempt : Except (ExecutionState × String) Receipt := do
  let (state, request) ← identify primitives answers
  let (state, archive) ← openInputs primitives answers state request
  let (state, comparison) ← compare answers state
  let state := { state with
    stage := "cleanup", cleanupVerified := answers.succeeds .cleanup, cleanupPending := false }
  ensure (state, "recovery workspace cleanup failed") state.cleanupVerified
  ensure (state, "recovery operation was cancelled during cleanup")
    (answers.succeeds .afterCleanup)
  ensure (state, "recovery timeline is invalid") (!answers.completedAt.before state.startedAt)
  return successReceipt primitives answers state request archive comparison

/-- `run`: the receipt, and the error if there is one. -/
def run : Receipt × Option String :=
  match attempt primitives answers with
  | .ok receipt => (receipt, none)
  | .error (state, message) =>
    let state := if state.cleanupPending then
        { state with cleanupVerified := answers.succeeds .cleanup, cleanupPending := false }
      else state
    (failureReceipt primitives answers state answers.failedAt, some message)

end Run

section Receipts

variable {primitives : Primitives} {answers : Answers} {receipt : Receipt} {request : Request}
  {state : ExecutionState}

theorem validSHA256_digestBytes (bytes : List UInt8) :
    validSHA256 (digestBytes primitives.sha256 bytes) = true := by
  rw [validSHA256, digestBytes, Library.Hex.text_length, primitives.sha256_length,
    Bool.and_eq_true, List.all_eq_true]
  exact ⟨rfl, Library.Hex.text_digits _⟩

theorem validSHA256_digestValue (members : List (String × Json)) :
    validSHA256 (digestValue primitives members) = true := validSHA256_digestBytes _

theorem canonicalReceipt_sealed (valid : Valid primitives.times (sealed primitives receipt)) :
    canonicalReceipt primitives.times primitives.sha256 (sealed primitives receipt) =
      some (sealed primitives receipt).marshal := by
  have digest : receiptDigest primitives.sha256 (sealed primitives receipt) =
      receiptDigest primitives.sha256 receipt := by
    simp [receiptDigest, sealed, Function.update_idem]
  have evidence : (sealed primitives receipt).text .evidenceSHA256 =
      receiptDigest primitives.sha256 receipt := by
    simp only [sealed, Function.update_self]
  rw [canonicalReceipt, if_pos]
  rw [accepted, validReceipt_iff.mpr valid, evidence, digest, decide_eq_true rfl]
  rfl

theorem validInterval_of {times : TimeFormat} {started completed : Time}
    (first : receipt.text .startedAt = times.format started)
    (last : receipt.text .completedAt = times.format completed)
    (duration : receipt.number .observedDurationMilliseconds =
      (completed.sub started).tdiv millisecond)
    (representable : Representable started ∧ Representable completed)
    (forward : completed.before started = false)
    (short : completed.sub started ≤ maximumReceiptDuration) :
    validInterval times receipt = true := by
  have least : 0 ≤ completed.sub started := by
    have ordered := Library.Time.before_eq_false_iff.mp forward
    simp only [Time.sub, Library.Instant.sub, Library.Instant.minDuration,
      Library.Instant.maxDuration]
    omega
  have rounded := Int.tdiv_nonneg least (by decide : 0 ≤ millisecond)
  have most := Int.tdiv_le_tdiv (c := millisecond) (by decide) short
  rw [validInterval, first, last, times.parse_format, times.parse_format,
    if_pos representable.1, if_pos representable.2]
  simp only [forward, duration, rounded, most, Bool.not_false, decide_true, Bool.and_self]

/-- What `decodeRequest` checks for the receipt. -/
structure Request.Bound (primitives : Primitives) (request : Request) : Prop where
  digests : ∀ field ∈ requestDigests, validSHA256 (request.binding primitives field) = true
  bytes : 0 < request.snapshotBytes ∧ request.snapshotBytes ≤ maxArchiveBytes
  mode : request.sourceMode = "local-file" ∨ request.sourceMode = "s3"
  image : validImageDigest request.workerImageDigest = true
  worker : validSHA256 request.workerExecutableSHA256 = true
  tool : request.etcdutlSHA256 = toolSHA256

theorem decodeRequest_ends (data : List UInt8) (now : Time) :
    Ends (fun _ => True) (Request.Bound primitives) (decodeRequest primitives data now) := by
  refine ends_require trivial fun request _ => ends_ensure trivial fun _ =>
    ends_ensure trivial fun fields => ends_ensure trivial fun _ => ?_
  simp only [validFields, Bool.and_eq_true, decide_eq_true_eq, and_assoc] at fields
  obtain ⟨-, -, -, checksum, least, most, source, identity, cluster, template, profile, secret,
    worker, image, -, tool, -⟩ := fields
  refine ⟨?_, ⟨least, most⟩, ?_, image, worker, tool⟩
  · intro field listed
    cases field
    case snapshotIDSHA256 | endpointSHA256 | objectReferenceSHA256 =>
      exact validSHA256_digestBytes _
    all_goals first | exact absurd listed (by decide) | assumption
  · unfold validSource at source
    split at source
    · exact Or.inl ‹_›
    · exact Or.inr ‹_›
    · contradiction

def runningStages : List String :=
  ["request", "worker-identity", "workspace", "archive", "tool-identity", "source-status",
    "restore", "restored-status", "cleanup"]

theorem runningStages_known : ∀ stage ∈ runningStages, stage ∈ ["initialization", "request",
    "worker-identity", "workspace", "archive", "tool-identity", "source-status", "restore",
    "restored-status", "cleanup", "complete"] := by
  decide

structure Sound (primitives : Primitives) (answers : Answers) (state : ExecutionState) :
    Prop where
  started : state.startedAt = answers.startedAt
  bound : ∀ request, state.request = some request →
    request.Bound primitives ∧ validSHA256 state.requestSHA256 = true
  digest : validOptionalSHA256 state.requestSHA256 = true
  worker : validOptionalSHA256 state.workerSHA256 = true
  tool : validSHA256 state.toolSHA256 = true → state.toolSHA256 = toolSHA256
  stage : state.stage ∈ runningStages

theorem Sound.at (sound : Sound primitives answers state) {stage : String} {pending verified : Bool}
    (known : stage ∈ runningStages) : Sound primitives answers { state with
      stage := stage, cleanupPending := pending, cleanupVerified := verified } :=
  { sound with stage := known }

theorem optional_of_validSHA256 {value : String} (valid : validSHA256 value = true) :
    validOptionalSHA256 value = true := by
  rw [validOptionalSHA256, valid, Bool.or_true]

theorem failureReceipt_binding {now : Time} {field : Text}
    (listed : field ∈ requestDigests ++ restoredDigests ++ [.sourceMode, .workerImageDigest]) :
    (failureReceipt primitives answers state now).text field =
      state.request.elim "" (·.binding primitives field) := by
  cases field <;> first | rfl | exact absurd listed (by decide)

theorem failureReceipt_restored {now : Time} {field : Text} (listed : field ∈ restoredDigests) :
    (failureReceipt primitives answers state now).text field = "" := by
  rw [failureReceipt_binding (by simp [listed])]
  cases state.request <;> cases field <;> first | rfl | exact absurd listed (by decide)

theorem bindingConsistent_of_whole
    (digests : ∀ field ∈ requestDigests, validSHA256 (receipt.text field) = true)
    (mode : receipt.text .sourceMode ≠ "") (bytes : 0 < receipt.number .snapshotBytes)
    (digest : validSHA256 (receipt.text .requestSHA256) = true)
    (image : validImageDigest (receipt.text .workerImageDigest) = true) :
    bindingConsistent receipt = true := by
  simp [bindingConsistent, mode, List.all_eq_true.mpr digests, bytes, digest, image]

theorem failureReceipt_consistent {now : Time} (sound : Sound primitives answers state) :
    bindingConsistent (failureReceipt primitives answers state now) = true := by
  cases here : state.request with
  | none =>
    have nothing : ∀ field ∈ requestDigests ++ restoredDigests ++
        [.sourceMode, .workerImageDigest],
        (failureReceipt primitives answers state now).text field = "" := by
      intro field listed
      rw [failureReceipt_binding listed, here]
      rfl
    have digests : ∀ field ∈ requestDigests,
        (failureReceipt primitives answers state now).text field = "" :=
      fun field listed => nothing field (by simp [listed])
    have bytes : (failureReceipt primitives answers state now).number .snapshotBytes = 0 := by
      change state.request.elim 0 _ = 0
      rw [here]
      rfl
    simp [bindingConsistent, nothing .sourceMode (by decide),
      nothing .workerImageDigest (by decide), bytes]
    exact digests
  | some request =>
    have bound := sound.bound request here
    have text : ∀ field ∈ requestDigests ++ restoredDigests ++
        [.sourceMode, .workerImageDigest],
        (failureReceipt primitives answers state now).text field =
          request.binding primitives field := by
      intro field listed
      rw [failureReceipt_binding listed, here]
      rfl
    refine bindingConsistent_of_whole ?_ ?_ ?_ bound.2 ?_
    · intro field listed
      rw [text field (by simp [listed])]
      exact bound.1.digests field listed
    · rw [text .sourceMode (by decide)]
      obtain mode | mode := bound.1.mode <;> simp [Request.binding, mode]
    · change 0 < state.request.elim 0 _
      rw [here]
      exact bound.1.bytes.1
    · rw [text .workerImageDigest (by decide)]
      exact bound.1.image

theorem failureReceipt_status {now : Time} (sound : Sound primitives answers state) :
    validStatusFields (failureReceipt primitives answers state now) = true ∧
      (failureReceipt primitives answers state now).text .status ≠ "verified" := by
  have none : noOfflineSuccessFields (failureReceipt primitives answers state now) = true := by
    rw [noOfflineSuccessFields, Bool.and_eq_true, List.all_eq_true]
    exact ⟨fun field listed => decide_eq_true (failureReceipt_restored listed), rfl⟩
  have running : state.stage ≠ "complete" := by
    intro same
    exact absurd (same ▸ sound.stage) (by decide)
  have status : (failureReceipt primitives answers state now).text .status =
    (failureStatus answers state).1 := rfl
  have reason : (failureReceipt primitives answers state now).text .reasonCode =
    (failureStatus answers state).2.1 := rfl
  have stage : (failureReceipt primitives answers state now).text .stage =
    (failureStatus answers state).2.2 := rfl
  have flags : (failureReceipt primitives answers state now).flag .workspaceCleanupVerified =
      state.cleanupVerified ∧ (failureReceipt primitives answers state now).flag
        .offlineMemberDatabaseVerified = false := ⟨rfl, rfl⟩
  rw [validStatusFields, status, reason, stage, none, flags.1, flags.2]
  cases cleaned : state.cleanupVerified <;> cases late : answers.deadlineExceeded <;>
    cases cancelled : answers.parentCancelled <;>
    simp [failureStatus, cleaned, late, cancelled, running]

theorem failureReceipt_valid (sound : Sound primitives answers state)
    (representable : Representable answers.startedAt ∧ Representable answers.failedAt)
    (forward : answers.failedAt.before answers.startedAt = false)
    (short : answers.failedAt.sub answers.startedAt ≤ maximumReceiptDuration) :
    Valid primitives.times (failureReceipt primitives answers state answers.failedAt) := by
  have completed : (if answers.failedAt.before state.startedAt then state.startedAt
      else answers.failedAt) = answers.failedAt := by
    rw [sound.started, forward, if_neg Bool.false_ne_true]
  have binding : ∀ field ∈ requestDigests, validOptionalSHA256
      ((failureReceipt primitives answers state answers.failedAt).text field) = true := by
    intro field listed
    rw [failureReceipt_binding (by simp [listed])]
    cases here : state.request with
    | none => rfl
    | some request =>
      exact optional_of_validSHA256 ((sound.bound request here).1.digests field listed)
  refine ⟨rfl, ?_, validSHA256_digestBytes _, rfl, rfl, ?_, ?_, ?_, ?_, ?_, ?_,
    failureReceipt_consistent sound, (failureReceipt_status sound).1⟩
  · have started := sound.started
    refine validInterval_of ?_ ?_ ?_ representable forward short
    · exact congrArg primitives.times.format started
    · exact congrArg primitives.times.format completed
    · change ((if answers.failedAt.before state.startedAt then state.startedAt
        else answers.failedAt).sub state.startedAt).tdiv millisecond = _
      rw [completed, started]
  · have stage : (failureStatus answers state).2.2 ∈ runningStages := by
      unfold failureStatus
      split
      · decide
      · split
        · exact sound.stage
        · split <;> exact sound.stage
    exact decide_eq_true (runningStages_known _ stage)
  · intro field listed
    simp only [List.mem_append] at listed
    obtain (listed | listed) | listed := listed
    · exact binding field listed
    · simp only [List.mem_cons, List.not_mem_nil, or_false] at listed
      obtain rfl | rfl := listed
      · exact sound.digest
      · exact sound.worker
    · rw [failureReceipt_restored listed]
      rfl
  · intro field listed
    simp only [List.mem_cons, List.not_mem_nil, or_false] at listed
    obtain rfl | rfl := listed
    · change 0 ≤ state.request.elim 0 _ ∧ state.request.elim 0 _ ≤ maxArchiveBytes
      cases here : state.request with
      | none => decide
      | some request =>
        have bytes := (sound.bound request here).1.bytes
        exact ⟨bytes.1.le, bytes.2⟩
    · exact (by decide : (0 : Int) ≤ 0 ∧ 0 ≤ maxArchiveBytes)
  · rw [failureReceipt_binding (by decide)]
    cases here : state.request with
    | none => exact List.mem_cons_self
    | some request =>
      obtain mode | mode := (sound.bound request here).1.mode <;> simp [Request.binding, mode]
  · rw [failureReceipt_binding (by decide)]
    cases here : state.request with
    | none => exact Or.inl rfl
    | some request => exact Or.inr (sound.bound request here).1.image
  · change validOptionalTool (if validSHA256 state.toolSHA256 then
      some ⟨toolName, toolVersion, state.toolSHA256⟩ else none) = true
    split
    · rename_i known
      rw [sound.tool known]
      decide
    · rfl

structure Ready (primitives : Primitives) (answers : Answers) (request : Request)
    (state : ExecutionState) : Prop extends Sound primitives answers state where
  present : state.request = some request
  identified : validSHA256 state.workerSHA256 = true

structure Comparison.Equivalent (comparison : Comparison) : Prop where
  hashes : comparison.sourceKVHash = comparison.restoredKVHash
  nonempty : 0 < comparison.restored.val.length

section Success

variable {archive : List UInt8} {comparison : Comparison}

theorem successReceipt_digests (ready : Ready primitives answers request state) :
    ∀ field ∈ requestDigests ++ [.requestSHA256, .workerExecutableSHA256] ++ restoredDigests,
      validSHA256 ((successReceipt primitives answers state request archive comparison).text
        field) = true := by
  have bound := ready.bound request ready.present
  intro field listed
  by_cases copied : field ∈ requestDigests ∧ field ≠ .snapshotChecksumSHA256
  · have text : (successReceipt primitives answers state request archive comparison).text field =
        request.binding primitives field := by
      cases field <;> first | exact absurd copied (by decide) | rfl
    rw [text]
    exact bound.1.digests field copied.1
  · cases field
    case requestSHA256 => exact bound.2
    case workerExecutableSHA256 => exact ready.identified
    case snapshotChecksumSHA256 => exact validSHA256_digestBytes archive
    case restoredChecksumSHA256 => exact validSHA256_digestBytes comparison.restored.val
    case sourceStatusSHA256 => exact validSHA256_digestValue comparison.sourceStatus.members
    case sourceKVHashSHA256 => exact validSHA256_digestValue comparison.sourceKVHash.members
    case restoredStatusSHA256 => exact validSHA256_digestValue comparison.restoredStatus.members
    case restoredKVHashSHA256 => exact validSHA256_digestValue comparison.restoredKVHash.members
    case sandboxStateSHA256 => exact validSHA256_digestValue _
    all_goals first | exact absurd listed (by decide) | exact absurd (by decide) copied

theorem successReceipt_valid (ready : Ready primitives answers request state)
    (bytes : (archive.length : Int) = request.snapshotBytes)
    (equivalent : comparison.Equivalent) (identity : answers.identity 2 = toolSHA256)
    (representable : Representable answers.startedAt ∧ Representable answers.completedAt)
    (forward : answers.completedAt.before answers.startedAt = false)
    (short : answers.completedAt.sub answers.startedAt ≤ maximumReceiptDuration) :
    Valid primitives.times
      (successReceipt primitives answers state request archive comparison) := by
  have started := ready.started
  have bound := (ready.bound request ready.present).1
  have digests := @successReceipt_digests primitives answers request state archive comparison ready
  have requested : ∀ field ∈ requestDigests, validSHA256 ((successReceipt primitives answers state
      request archive comparison).text field) = true :=
    fun field listed => digests field (by simp [listed])
  have restored : ∀ field ∈ restoredDigests, validSHA256 ((successReceipt primitives answers state
      request archive comparison).text field) = true :=
    fun field listed => digests field (by simp [listed])
  have size : 0 < (successReceipt primitives answers state request archive comparison).number
      .snapshotBytes := by
    change 0 < (archive.length : Int)
    rw [bytes]
    exact bound.bytes.1
  have mode : (successReceipt primitives answers state request archive comparison).text
      .sourceMode = request.sourceMode := rfl
  have image := bound.image
  refine ⟨rfl, ?_, validSHA256_digestBytes _, rfl, rfl, rfl,
    fun field listed => optional_of_validSHA256 (digests field listed), ?_, ?_, Or.inr image, ?_,
    bindingConsistent_of_whole requested ?_ size (digests .requestSHA256 (by decide)) image, ?_⟩
  · refine validInterval_of ?_ rfl ?_ representable forward short
    · exact congrArg primitives.times.format started
    · exact congrArg (fun time => (answers.completedAt.sub time).tdiv millisecond) started
  · intro field listed
    simp only [List.mem_cons, List.not_mem_nil, or_false] at listed
    obtain rfl | rfl := listed
    · exact ⟨size.le, bytes.trans_le bound.bytes.2⟩
    · exact ⟨Int.natCast_nonneg _, comparison.restored.property⟩
  · rw [mode]
    obtain mode | mode := bound.mode <;> simp [mode]
  · change validOptionalTool (some ⟨toolName, toolVersion, answers.identity 2⟩) = true
    rw [identity]
    decide
  · rw [mode]
    obtain mode | mode := bound.mode <;> simp [mode]
  · have status : (successReceipt primitives answers state request archive comparison).text
        .status = "verified" := rfl
    rw [validStatusFields, status, mode]
    simp only [Bool.and_eq_true, Bool.or_eq_true, decide_eq_true_eq, List.all_eq_true, and_assoc]
    refine ⟨rfl, rfl, rfl, rfl, requested, size, bound.mode, digests .requestSHA256 (by decide),
      ready.identified, image, ?_, restored, Int.natCast_pos.mpr equivalent.nonempty, ?_⟩
    · change (some ⟨toolName, toolVersion, answers.identity 2⟩ : Option ToolIdentity).any _ = true
      rw [identity]
      decide
    · change digestValue primitives comparison.sourceKVHash.members =
        digestValue primitives comparison.restoredKVHash.members
      rw [equivalent.hashes]

end Success

end Receipts

section Chains

variable {primitives : Primitives} {answers : Answers} {request : Request}
  {state : ExecutionState}

abbrev Stops (primitives : Primitives) (answers : Answers)
    (stop : ExecutionState × String) : Prop :=
  Sound primitives answers stop.1

theorem identify_ends : Ends (Stops primitives answers)
    (fun result => Ready primitives answers result.2 result.1) (identify primitives answers) := by
  have fresh : Sound primitives answers { startedAt := answers.startedAt } :=
    ⟨rfl, nofun, rfl, rfl, nofun, List.mem_cons_self⟩
  refine ends_require fresh fun data _ => ?_
  have digest := @validSHA256_digestBytes primitives data
  have read : Sound primitives answers
      { startedAt := answers.startedAt, requestSHA256 := digestBytes primitives.sha256 data } :=
    { fresh with bound := nofun, digest := optional_of_validSHA256 digest }
  refine ends_bind (ends_mapError (fun _ => read) (decodeRequest_ends data answers.decodedAt))
    fun request bound => ?_
  have decoded : Sound primitives answers
      { startedAt := answers.startedAt, request := some request,
        requestSHA256 := digestBytes primitives.sha256 data } :=
    { read with bound := fun other same => ⟨Option.some.inj same ▸ bound, digest⟩ }
  refine ends_ensure decoded fun _ => ?_
  have named := @Sound.at _ _ _ decoded "worker-identity" false true (by decide)
  refine ends_require named fun hash found => ?_
  have worker : validSHA256 hash = true := by
    have same := (Option.filter_eq_some_iff.mp found).2
    rw [of_decide_eq_true same]
    exact bound.worker
  exact ⟨{ named with worker := optional_of_validSHA256 worker }, rfl, worker⟩

theorem Ready.at (ready : Ready primitives answers request state) {stage : String}
    {pending verified : Bool} (known : stage ∈ runningStages) :
    Ready primitives answers request { state with
      stage := stage, cleanupPending := pending, cleanupVerified := verified } :=
  { ready with toSound := ready.toSound.at known }

theorem openInputs_ends (ready : Ready primitives answers request state)
    (identity : ∀ call, answers.identity call = answers.identity 0) :
    Ends (Stops primitives answers)
      (fun result => Ready primitives answers request result.1 ∧
        (result.2.length : Int) = request.snapshotBytes ∧ answers.identity 2 = toolSHA256)
      (openInputs primitives answers state request) := by
  have bound := (ready.bound request ready.present).1
  refine ends_ensure (ready.at (by decide)).toSound fun _ =>
    ends_ensure (ready.at (by decide)).toSound fun _ =>
      ends_require (ready.at (by decide)).toSound fun archive found => ?_
  have bytes := (Option.filter_eq_some_iff.mp found).2
  simp only [Bool.and_eq_true, decide_eq_true_eq] at bytes
  have named := @Ready.at _ _ _ _ ready "tool-identity" true false (by decide)
  refine ends_ensure named.toSound fun _ => ends_ensure named.toSound fun same =>
    ends_ensure named.toSound fun _ => ?_
  have known : ∀ call, answers.identity call = toolSHA256 := fun call => by
    rw [identity, of_decide_eq_true same, bound.tool]
  have checked : Ready primitives answers request { state with
      stage := "tool-identity", cleanupPending := true, cleanupVerified := false,
      toolSHA256 := answers.identity 1 } :=
    ⟨{ named.toSound with tool := fun _ => known 1 }, named.present, named.identified⟩
  exact ends_ensure checked.toSound fun _ => ⟨checked, bytes.2, known 2⟩

theorem compare_ends (ready : Ready primitives answers request state) :
    Ends (Stops primitives answers)
      (fun result => Ready primitives answers request result.1 ∧ result.2.Equivalent)
      (compare answers state) := by
  have source := @Ready.at _ _ _ _ ready "source-status" state.cleanupPending
    state.cleanupVerified (by decide)
  have restore := @Ready.at _ _ _ _ ready "restore" state.cleanupPending
    state.cleanupVerified (by decide)
  have restored := @Ready.at _ _ _ _ ready "restored-status" state.cleanupPending
    state.cleanupVerified (by decide)
  refine ends_require source.toSound fun _ _ => ends_require source.toSound fun _ _ => ?_
  refine ends_ensure restore.toSound fun _ => ends_ensure restore.toSound fun _ =>
    ends_ensure restore.toSound fun _ => ?_
  refine ends_ensure restored.toSound fun _ => ends_require restored.toSound fun _ _ =>
    ends_ensure restored.toSound fun _ => ends_ensure restored.toSound fun _ =>
      ends_require restored.toSound fun content found => ?_
  refine ends_require restored.toSound fun _ _ => ends_ensure restored.toSound fun _ =>
    ends_ensure restored.toSound fun equal => ends_ensure restored.toSound fun _ =>
      ends_ensure restored.toSound fun _ => ends_ensure restored.toSound fun _ => ?_
  have nonempty := of_decide_eq_true (Option.filter_eq_some_iff.mp found).2
  simp only [Bool.and_eq_true, decide_eq_true_eq] at equal
  exact ⟨restored, ⟨equal.2, nonempty⟩⟩

end Chains

/-- What the clock and the tool answer: the readings of the clock lie in the years 0 to 9999, do
not go back and are not too far apart, and the tool keeps its identity. -/
structure Answers.Regular (answers : Answers) : Prop where
  representable : ∀ time ∈ [answers.startedAt, answers.completedAt, answers.failedAt],
    Representable time
  forward : ∀ time ∈ [answers.completedAt, answers.failedAt],
    time.before answers.startedAt = false
  short : ∀ time ∈ [answers.completedAt, answers.failedAt],
    time.sub answers.startedAt ≤ maximumReceiptDuration
  identity : ∀ call, answers.identity call = answers.identity 0

structure Reported (primitives : Primitives) (answers : Answers) (receipt : Receipt)
    (error : Option String) : Prop where
  accepted : canonicalReceipt primitives.times primitives.sha256 receipt = some receipt.marshal
  readBack : parseCanonicalReceipt primitives.times primitives.sha256 receipt.marshal =
    some receipt
  status : receipt.text .status = "verified" ↔ error = none
  cleaned : error = none → answers.succeeds .cleanup = true ∧
    receipt.flag .workspaceCleanupVerified = true
  equal : error = none → receipt.text .sourceKVHashSHA256 = receipt.text .restoredKVHashSHA256

section Results

variable {primitives : Primitives} {answers : Answers}

theorem attempt_ends (regular : answers.Regular) : Ends (Stops primitives answers)
    (fun receipt => Reported primitives answers receipt none) (attempt primitives answers) := by
  refine ends_bind identify_ends fun ⟨state, request⟩ ready => ?_
  refine ends_bind (openInputs_ends ready regular.identity)
    fun ⟨state, archive⟩ ⟨ready, bytes, identity⟩ => ?_
  refine ends_bind (compare_ends ready) fun ⟨state, comparison⟩ ⟨ready, equivalent⟩ => ?_
  have cleanup := @Ready.at _ _ _ _ ready "cleanup" false (answers.succeeds .cleanup) (by decide)
  refine ends_ensure cleanup.toSound fun cleaned => ends_ensure cleanup.toSound fun _ =>
    ends_ensure cleanup.toSound fun _ => ?_
  have valid := successReceipt_valid cleanup bytes equivalent identity
    ⟨regular.representable _ (by simp), regular.representable _ (by simp)⟩
    (regular.forward _ (by simp)) (regular.short _ (by simp))
  have encoded := canonicalReceipt_sealed valid
  refine ⟨encoded, parse_canonicalReceipt encoded, ⟨fun _ => rfl, fun _ => rfl⟩,
    fun _ => ⟨cleaned, rfl⟩, fun _ => ?_⟩
  change digestValue primitives comparison.sourceKVHash.members =
    digestValue primitives comparison.restoredKVHash.members
  rw [equivalent.hashes]

end Results

section Sample

def sampleFormat (time : Time) : String :=
  if Representable time then
    String.ofList (Nat.toDigits 10 ((time.sec + 31622400) * second + time.nsec).toNat)
  else ""

def sampleParse (text : String) : Option Time :=
  let value : Int := Json.digitsValue text.toList
  if text = "" then none
  else if fits : Library.Fits64 (value / second - 31622400) then
    some ⟨value / second - 31622400, value % second, fits,
      Int.emod_nonneg _ (by decide), Int.emod_lt_of_pos _ (by decide)⟩
  else none

theorem sampleParse_format (time : Time) : sampleParse (sampleFormat time) =
    if Representable time then some time else none := by
  unfold sampleFormat
  split
  · rename_i range
    obtain ⟨least, -⟩ := range
    have bound := time.nsec_lt
    have fits := time.sec_fits
    have value : (((time.sec + 31622400) * second + time.nsec).toNat : Int) =
        (time.sec + 31622400) * second + time.nsec := by
      simp only [second, millisecond] at bound ⊢
      omega
    have sec : ((time.sec + 31622400) * second + time.nsec) / second - 31622400 = time.sec := by
      simp only [second, millisecond] at bound ⊢
      omega
    have nsec : ((time.sec + 31622400) * second + time.nsec) % second = time.nsec := by
      simp only [second, millisecond] at bound ⊢
      omega
    have some_ : String.ofList (Nat.toDigits 10
        ((time.sec + 31622400) * second + time.nsec).toNat) ≠ "" := by
      intro empty
      have chars := congrArg String.toList empty
      rw [String.toList_ofList] at chars
      exact Nat.toDigits_ne_nil chars
    simp only [sampleParse, String.toList_ofList, digitsValue_toDigits, value, sec, nsec,
      if_neg some_, dif_pos fits]
  · rfl

theorem sampleFormat_short (time : Time) (range : Representable time) :
    (sampleFormat time).toList.length ≤ 30 ∧
      ∀ char ∈ (sampleFormat time).toList, char ∈ "0123456789-:.TZ".toList := by
  have bound := time.nsec_lt
  obtain ⟨least, most⟩ := id range
  have small : ((time.sec + 31622400) * second + time.nsec).toNat < 10 ^ 30 := by
    simp only [second, millisecond] at bound ⊢
    omega
  rw [sampleFormat, if_pos range, String.toList_ofList]
  refine ⟨Nat.toDigits_length 10 _ 30 (by decide) small, fun char listed => ?_⟩
  have digit := Nat.isDigit_of_mem_toDigits (by decide) (by decide) listed
  have digits : ∀ code < 58, 48 ≤ code → Char.ofNat code ∈ "0123456789-:.TZ".toList := by decide
  simp only [Char.isDigit, Bool.and_eq_true, decide_eq_true_eq] at digit
  rw [← Char.ofNat_toNat char]
  exact digits _ (Nat.lt_succ_of_le digit.2) digit.1

def samplePrimitives : Primitives where
  times := ⟨sampleFormat, sampleParse, sampleParse_format, sampleFormat_short⟩
  sha256 := fun _ => List.replicate 32 0
  sha256_length := fun _ => List.length_replicate
  decode := fun _ => none
  validS3 := fun _ => false

def sampleAnswers (time : Time) : Answers where
  startedAt := time
  requestBytes := none
  decodedAt := time
  elapsed := 0
  executableHash := none
  succeeds := fun _ => false
  archive := none
  identity := fun _ => ""
  sourceStatus := none
  sourceKVHash := none
  restoredKVHash := none
  restored := none
  restoredStatus := none
  completedAt := time
  failedAt := time
  deadlineExceeded := false
  parentCancelled := false

def lateTime : Time := .unix 253402300800

end Sample

end CloudRing.EtcdRecovery
