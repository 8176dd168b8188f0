import CloudRing.BackupDrill.Journal
import CloudRing.Library.Exit

/-!
# The drill engine

`Apply`, `Recover` and `Rollback` of `engine.go` as programs that ask for the journal file, the
adapter and the clock.
-/

namespace CloudRing.BackupDrill

open Library Library.Program

/-! ## Receipts -/

structure ExecutionReceipt where
  (schemaVersion operationID proofID installationID planSHA256 approvalSHA256 approvalScopeSHA256
    adapterExecutableSHA256 status completedAt journalHeadSHA256
    executionEvidenceResponseSHA256 : String)
  targets : List TargetResult
  (isolationEvidence cleanupEvidence : Evidence)
  (objectLockDeleteDenialReceiptSHA256 aggregateProofArtifactSHA256 aggregateProofPathToken
    receiptSHA256 : String)
  deriving DecidableEq, Repr

def receiptSchemaVersion : String := "cloudring.backup-drill.execution-receipt/v1"

def ExecutionReceipt.json (receipt : ExecutionReceipt) : Json :=
  .object (textMembers [("schemaVersion", receipt.schemaVersion),
      ("operationId", receipt.operationID), ("proofId", receipt.proofID),
      ("installationId", receipt.installationID), ("planSha256", receipt.planSHA256),
      ("approvalSha256", receipt.approvalSHA256),
      ("approvalScopeSha256", receipt.approvalScopeSHA256),
      ("adapterExecutableSha256", receipt.adapterExecutableSHA256),
      ("status", receipt.status), ("completedAt", receipt.completedAt),
      ("journalHeadSha256", receipt.journalHeadSHA256),
      ("executionEvidenceResponseSha256", receipt.executionEvidenceResponseSHA256)] ++
    [("targets", .array (receipt.targets.map TargetResult.json)),
      ("isolationEvidence", receipt.isolationEvidence.json),
      ("cleanupEvidence", receipt.cleanupEvidence.json)] ++
    textMembers [("objectLockDeleteDenialReceiptSha256",
        receipt.objectLockDeleteDenialReceiptSHA256),
      ("aggregateProofArtifactSha256", receipt.aggregateProofArtifactSHA256),
      ("aggregateProofPathToken", receipt.aggregateProofPathToken),
      ("receiptSha256", receipt.receiptSHA256)])

/-! ## Calls -/

inductive Call where
  | absent
  | create (entry : JournalEntry)
  | openJournal
  | read
  | write (entry : JournalEntry)
  | now
  | run (request : AdapterRequest)

@[reducible] def Reply : Call → Type
  | .absent => Bool
  | .create _ => Bool
  | .openJournal => Bool
  | .read => Option (List JournalEntry × Nat)
  | .write _ => Bool
  | .now => Int
  | .run _ => Option AdapterResponse

abbrev Action (α : Type) := Program Reply α

abbrev Step (α : Type) := Exiting Reply String α

abbrev ask (call : Call) : Action (Reply call) := Program.request call

def fail {α : Type} (message : String) : Step α := leave (pure message)

def checked (check : Except String Unit) : Step Unit :=
  match check with
  | .ok () => pure ()
  | .error message => fail message

def maxJournalBytes : Nat := 2097152

section Engine

variable [Runtime]

def executionReceiptSHA256 (receipt : ExecutionReceipt) : String :=
  digest { receipt with receiptSHA256 := "" }.json

def newReceipt (plan : Plan) (approval : ApprovalReport) (completed : JournalEntry)
    (proof : AdapterResponse) (isolation cleanup : Evidence) : ExecutionReceipt :=
  let receipt : ExecutionReceipt :=
    { schemaVersion := receiptSchemaVersion
      operationID := plan.operationID
      proofID := plan.proofID
      installationID := plan.installationID
      planSHA256 := planSHA256 plan
      approvalSHA256 := approvalSHA256 approval
      approvalScopeSHA256 := approvalScopeSHA256 plan
      adapterExecutableSHA256 := plan.adapter.executableSHA256
      status := "completed"
      completedAt := completed.recordedAt
      journalHeadSHA256 := completed.entrySHA256
      executionEvidenceResponseSHA256 := proof.responseSHA256
      targets := proof.targets
      isolationEvidence := isolation
      cleanupEvidence := cleanup
      objectLockDeleteDenialReceiptSHA256 := proof.objectLockDeleteDenialReceiptSHA256
      aggregateProofArtifactSHA256 := proof.aggregateProofArtifactSHA256
      aggregateProofPathToken := proof.aggregateProofPathToken
      receiptSHA256 := "" }
  { receipt with receiptSHA256 := executionReceiptSHA256 receipt }

def boundReceipt (plan : Plan) (approval : ApprovalReport) (receipt : ExecutionReceipt)
    (completed : JournalEntry) (proof : AdapterResponse) : Bool :=
  receipt.schemaVersion = receiptSchemaVersion && receipt.operationID = plan.operationID &&
    receipt.proofID = plan.proofID && receipt.installationID = plan.installationID &&
    receipt.planSHA256 = planSHA256 plan && receipt.approvalSHA256 = approvalSHA256 approval &&
    receipt.approvalScopeSHA256 = approvalScopeSHA256 plan &&
    receipt.adapterExecutableSHA256 = plan.adapter.executableSHA256 &&
    receipt.status = "completed" && receipt.completedAt = completed.recordedAt &&
    receipt.journalHeadSHA256 = completed.entrySHA256 &&
    receipt.executionEvidenceResponseSHA256 = proof.responseSHA256 &&
    receipt.targets = proof.targets && some receipt.isolationEvidence = proof.isolationEvidence &&
    some receipt.cleanupEvidence = proof.cleanupEvidence &&
    receipt.objectLockDeleteDenialReceiptSHA256 = proof.objectLockDeleteDenialReceiptSHA256 &&
    receipt.aggregateProofArtifactSHA256 = proof.aggregateProofArtifactSHA256 &&
    receipt.aggregateProofPathToken = proof.aggregateProofPathToken &&
    receipt.receiptSHA256 = executionReceiptSHA256 receipt

def validateReceipt (plan : Plan) (approval : ApprovalReport) (receipt : ExecutionReceipt)
    (entries : List JournalEntry) : Except String Unit := do
  validatePlan plan
  validateApprovalBinding plan approval
  ensure "backup drill receipt journal binding is invalid"
    (entries.length = applySteps.length && (validateJournalEntries entries).isOk &&
      (verifyJournalBinding plan approval entries).isOk)
  match entries.getLast?, entries.dropLast.getLast? with
  | some completed, some proofEntry =>
    match proofEntry.response with
    | none => .error "backup drill receipt proof journal entries are invalid"
    | some proof =>
      ensure "backup drill receipt proof journal entries are invalid"
        (completed.step = "completed" && proofEntry.step = "proof-assembled" &&
          (validateProofResponse plan proof).isOk)
      ensure "backup drill execution receipt binding is invalid"
        (boundReceipt plan approval receipt completed proof)
  | _, _ => .error "backup drill receipt proof journal entries are invalid"
  ensure "backup drill execution receipt time or targets are invalid"
    ((canonicalTime receipt.completedAt).isSome && receipt.targets.length = targetKinds.length)
  ensure "backup drill target proof is invalid or not canonical"
    (boundTargets plan receipt.targets)
  ensure "backup drill receipt journal phases are incomplete"
    (entries.map JournalEntry.step = applySteps)

/-! ## The journal file -/

/-- `load`: the entries of the journal, if they are a valid chain, and the size of the file. -/
def load : Action (Option (List JournalEntry × Nat)) := do
  let some (entries, size) ← ask .read | return none
  if size < 2 || maxJournalBytes < size then return none
  if !(validateJournalEntries entries).isOk then return none
  return some (entries, size)

def payloadLength (entry : JournalEntry) : Nat := (Json.goStyle.bytes entry.json).length + 1

/-- `append`: whether the entry was appended. -/
def append (entry : JournalEntry) : Action Bool := do
  let some (entries, loadedSize) ← load | return false
  if entries.isEmpty then return false
  if !((validateJournalEntry entry entries.getLast?).isOk &&
      validTransition entries entry.step) then return false
  if 131072 < payloadLength entry || maxJournalBytes < loadedSize + payloadLength entry then
    return false
  ask (.write entry)

/-- `CreateJournal`: whether the journal was created. -/
def createJournal (entry : JournalEntry) : Action Bool := do
  if !(entry.sequence = 1 && some entry.step = applySteps[0]? &&
      entry.previousEntrySHA256 = "") then
    return false
  if !(validateJournalEntry entry none).isOk then return false
  ask (.create entry)

/-! ## The adapter -/

/-- What an invocation of the adapter gives: a response, if one was decoded, and whether the
invocation succeeded. -/
structure Invocation where
  response : Option AdapterResponse
  outcome : Except String Unit

def invoke (identity : Option String) (request : AdapterRequest) : Action Invocation := do
  if identity ≠ some request.adapterExecutableSHA256 ||
      request.requestSHA256 ≠ adapterRequestSHA256 request then
    return ⟨none, .error "backup drill adapter request identity is invalid"⟩
  match ← ask (.run request) with
  | none => return ⟨none, .error "backup drill adapter execution failed"⟩
  | some response => return ⟨some response, validateAdapterResponse request response⟩

/-! ## Preflight -/

def preflight (plan : Plan) (identity : Option String) (now : Int) : Step ApprovalReport := do
  require (identity = some plan.adapter.executableSHA256)
    (pure "backup drill preflight input binding is invalid")
  checked (validatePlan plan)
  let fresh := match canonicalTime plan.issuedAt, canonicalTime plan.expiresAt with
    | some issued, some expires => issued ≤ now && now < expires
    | _, _ => false
  require fresh (pure "backup drill preflight plan is not fresh")
  let invoked ← invoke identity (newAdapterRequest plan .empty "preflight" "preflight" "")
  checked invoked.outcome
  match invoked.response with
  | none => fail "backup drill adapter execution failed"
  | some response =>
    let report := preflightReport plan response
    checked (validateApproval plan report now)
    return report

/-! ## Apply -/

/-- One iteration of the loop of `runApply`: the entry of the next step. -/
def applyStep (plan : Plan) (approval : ApprovalReport) (identity : Option String)
    (earlier : List JournalEntry) (previous : JournalEntry) : Step JournalEntry := do
  let sequence := earlier.length + 2
  let step := applySteps.getD (earlier.length + 1) ""
  if step = "mutation-started" then
    let digests := mutationStartedDigests plan previous.entrySHA256
    let now ← ask .now
    let entry := newJournalEntry now sequence plan approval step digests.1 digests.2
      previous.entrySHA256 none
    let recorded ← append entry
    require recorded (pure "record backup drill mutation start")
    return entry
  else
    let request := newAdapterRequest plan approval "apply" step previous.entrySHA256
    let invoked ← invoke identity request
    checked invoked.outcome
    match invoked.response with
    | none => fail "backup drill adapter execution failed"
    | some response =>
      checked (if step = "proof-assembled" then validateProofResponse plan response else .ok ())
      let now ← ask .now
      let entry := newJournalEntry now sequence plan approval step request.requestSHA256
        response.responseSHA256 previous.entrySHA256 (some response)
      let recorded ← append entry
      require recorded (pure "append backup drill execution journal")
      return entry

/-- The loop of `runApply`, with the number of steps that are left. -/
def applyLoop (plan : Plan) (approval : ApprovalReport) (identity : Option String) :
    Nat → List JournalEntry → JournalEntry → Step (List JournalEntry × JournalEntry)
  | 0, earlier, previous => pure (earlier, previous)
  | remaining + 1, earlier, previous => do
    let entry ← applyStep plan approval identity earlier previous
    applyLoop plan approval identity remaining (earlier ++ [previous]) entry

/-- The completion in `runApply`: the proof response is looked for, and the entry that completes
the journal is appended if it is missing. -/
def completeApply (plan : Plan) (approval : ApprovalReport) (earlier : List JournalEntry)
    (last : JournalEntry) : Step Unit := do
  let missing := "backup drill proof response is absent from journal"
  let proof := if last.step = "completed" then earlier.getLast?.bind JournalEntry.response
    else last.response
  match proof with
  | none => fail missing
  | some proof =>
    require (validateProofResponse plan proof).isOk (pure missing)
    if earlier.length + 1 = applySteps.length - 1 then
      let digests := completedDigests proof.responseSHA256
      let now ← ask .now
      let recorded ← append (newJournalEntry now (earlier.length + 2) plan approval "completed"
        digests.1 digests.2 last.entrySHA256 none)
      require recorded (pure "record backup drill completion")
    else pure ()

/-- The end of `runApply`: the completed journal is loaded again and its receipt is made. -/
def concludeApply (plan : Plan) (approval : ApprovalReport) : Step ExecutionReceipt := do
  let reload := "reload completed backup drill journal"
  match ← load with
  | none => fail reload
  | some (entries, _) =>
    require ((verifyJournalBinding plan approval entries).isOk &&
      entries.length = applySteps.length) (pure reload)
    let invalid := "reloaded backup drill proof response is invalid"
    match entries.getLast?, entries.dropLast.getLast?.bind JournalEntry.response with
    | some completed, some proof =>
      require (validateProofResponse plan proof).isOk (pure invalid)
      match proof.isolationEvidence, proof.cleanupEvidence with
      | some isolation, some cleanup =>
        let receipt := newReceipt plan approval completed proof isolation cleanup
        checked (validateReceipt plan approval receipt entries)
        return receipt
      | _, _ => fail invalid
    | _, _ => fail invalid

def runApply (plan : Plan) (approval : ApprovalReport) (identity : Option String) :
    Step ExecutionReceipt := do
  let unrecoverable := "backup drill journal is not recoverable"
  match ← load with
  | none => fail unrecoverable
  | some (entries, _) =>
    require (verifyJournalBinding plan approval entries).isOk (pure unrecoverable)
    require (!rollbackStarted entries)
      (pure "backup drill apply cannot resume after rollback begins")
    match entries.getLast? with
    | none => fail unrecoverable
    | some last =>
      let applied ← applyLoop plan approval identity
        (applySteps.length - 1 - entries.length) entries.dropLast last
      completeApply plan approval applied.1 applied.2
      concludeApply plan approval

def validateExecutionInput (plan : Plan) (approval : ApprovalReport) (confirmation : String)
    (identity : Option String) (now : Int) (requireFresh : Bool) : Except String Unit := do
  ensure "backup drill execution adapter binding is invalid"
    (identity = some plan.adapter.executableSHA256)
  let approved := if requireFresh then validateApproval plan approval now
    else validateApprovalBinding plan approval
  ensure "backup drill execution approval, confirmation, or adapter binding is invalid"
    (approved.isOk && confirmation = approval.approvalTuple)

/-- The beginning of `Apply`: a new journal that consumes the approval. -/
def startApply (plan : Plan) (approval : ApprovalReport) (confirmation : String)
    (identity : Option String) : Step Unit := do
  let now ← ask .now
  checked (validateExecutionInput plan approval confirmation identity now true)
  let absent ← ask .absent
  require absent (pure "backup drill journal destination is unavailable")
  let digests := approvalConsumedDigests plan approval
  let now ← ask .now
  let created ← createJournal (newJournalEntry now 1 plan approval (applySteps.getD 0 "")
    digests.1 digests.2 "" none)
  require created (pure "create backup drill journal before mutation")

/-- The rest of `Apply`, under the lock. -/
def finishApply (plan : Plan) (approval : ApprovalReport) (identity : Option String) :
    Step ExecutionReceipt := do
  let opened ← ask .openJournal
  require opened (pure "open backup drill journal transaction")
  runApply plan approval identity

def apply (plan : Plan) (approval : ApprovalReport) (confirmation : String)
    (identity : Option String) : Step ExecutionReceipt := do
  startApply plan approval confirmation identity
  finishApply plan approval identity

/-- The beginning that `Recover` and `Rollback` have in common: the entries of a journal that is
bound to the plan and the approval. -/
def openBound (plan : Plan) (approval : ApprovalReport) (confirmation : String)
    (identity : Option String) (unavailable : String) : Step (List JournalEntry) := do
  let now ← ask .now
  checked (validateExecutionInput plan approval confirmation identity now false)
  let opened ← ask .openJournal
  require opened (pure "open backup drill journal transaction")
  match ← load with
  | none => fail unavailable
  | some (entries, _) =>
    require (!entries.isEmpty) (pure unavailable)
    checked (verifyJournalBinding plan approval entries)
    return entries

def recover (plan : Plan) (approval : ApprovalReport) (confirmation : String)
    (identity : Option String) : Step ExecutionReceipt := do
  let entries ← openBound plan approval confirmation identity
    "backup drill recovery journal is unavailable"
  require (!rollbackStarted entries)
    (pure "backup drill recovery rejects a rollback-started run")
  runApply plan approval identity

/-! ## Rollback -/

/-- `rollbackResponseSucceeded` for the last entry. -/
def rollbackResponseSucceeded (plan : Plan) (approval : ApprovalReport)
    (earlier : List JournalEntry) (entry : JournalEntry) : Bool :=
  match earlier.getLast?, entry.response with
  | some before, some response =>
    let request := newRollbackRequest plan approval entry.step before.entrySHA256
    (entry.step = "rollback-safe-stop" || entry.step = "rollback-cleanup-requested") &&
      entry.requestSHA256 = request.requestSHA256 &&
      (validateAdapterResponse request response).isOk
  | _, _ => false

def appendRollbackTerminal (plan : Plan) (approval : ApprovalReport)
    (earlier : List JournalEntry) (previous : JournalEntry) (step : String) : Step Unit := do
  let digests := rollbackTerminalDigests step previous.entrySHA256 previous.responseSHA256
  let now ← ask .now
  let recorded ← append (newJournalEntry now (earlier.length + 2) plan approval step digests.1
    digests.2 previous.entrySHA256 none)
  require recorded (pure "record backup drill rollback outcome")
  require (step ≠ "rollback-failed") (pure "backup drill rollback cleanup failed")

def recordedResponse (request : AdapterRequest) (answer : Option AdapterResponse) :
    Option AdapterResponse :=
  answer.filter fun response =>
    validSHA response.responseSHA256 && (validateAdapterResponseBinding request response).isOk

/-- One request of a rollback and its entry: the block that the safe stop and the cleanup share,
with their own failure and message. -/
def requestRollback (plan : Plan) (approval : ApprovalReport) (identity : Option String)
    (step failure message : String) (earlier : List JournalEntry) (previous : JournalEntry) :
    Step (JournalEntry × Bool) := do
  let request := newRollbackRequest plan approval step previous.entrySHA256
  let invoked ← invoke identity request
  let recorded := recordedResponse request invoked.response
  let responseSHA := recorded.elim (adapterFailureSHA256 failure) AdapterResponse.responseSHA256
  let now ← ask .now
  let entry := newJournalEntry now (earlier.length + 2) plan approval step request.requestSHA256
    responseSHA previous.entrySHA256 recorded
  let appended ← append entry
  require appended (pure message)
  return (entry, invoked.outcome.isOk)

def continueRollbackCleanup (plan : Plan) (approval : ApprovalReport) (identity : Option String)
    (earlier : List JournalEntry) (previous : JournalEntry) : Step Unit := do
  let cleanup ← requestRollback plan approval identity "rollback-cleanup-requested"
    "adapter-execution-failed" "record backup drill rollback cleanup request" earlier previous
  appendRollbackTerminal plan approval (earlier ++ [previous]) cleanup.1
    (if cleanup.2 then "rolled-back" else "rollback-failed")

/-- The safe stop of `Rollback` and what follows it. -/
def beginRollback (plan : Plan) (approval : ApprovalReport) (identity : Option String)
    (earlier : List JournalEntry) (previous : JournalEntry) : Step Unit := do
  let stop ← requestRollback plan approval identity "rollback-safe-stop"
    "safe-stop-failed" "record backup drill rollback safe-stop" earlier previous
  if stop.2 then continueRollbackCleanup plan approval identity (earlier ++ [previous]) stop.1
  else appendRollbackTerminal plan approval (earlier ++ [previous]) stop.1 "rollback-failed"

/-- `Rollback` from the last entry of the journal on. -/
def resumeRollback (plan : Plan) (approval : ApprovalReport) (identity : Option String)
    (earlier : List JournalEntry) (last : JournalEntry) : Step Unit :=
  let succeeded := rollbackResponseSucceeded plan approval earlier last
  if last.step = "completed" then fail "backup drill rollback journal is already complete"
  else if last.step = "rolled-back" then pure ()
  else if last.step = "rollback-failed" then fail "backup drill rollback previously failed"
  else if last.step = "rollback-safe-stop" then
    if succeeded then continueRollbackCleanup plan approval identity earlier last
    else appendRollbackTerminal plan approval earlier last "rollback-failed"
  else if last.step = "rollback-cleanup-requested" then
    appendRollbackTerminal plan approval earlier last
      (if succeeded then "rolled-back" else "rollback-failed")
  else beginRollback plan approval identity earlier last

def rollback (plan : Plan) (approval : ApprovalReport) (confirmation : String)
    (identity : Option String) : Step Unit := do
  let unavailable := "backup drill rollback journal is unavailable"
  let entries ← openBound plan approval confirmation identity unavailable
  match entries.getLast? with
  | none => fail unavailable
  | some last => resumeRollback plan approval identity entries.dropLast last

end Engine

end CloudRing.BackupDrill
