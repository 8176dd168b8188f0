import CloudRing.BackupDrill.Plan
import CloudRing.Library.Json.Decimal

/-!
# Requests and responses of a drill

The digests of `digest.go`, the requests of `engine.go`, and the validation of approvals and
responses in `validate.go`.
-/

namespace CloudRing.BackupDrill

open Library

/-! ## Records -/

structure ApprovalReport where
  (schemaVersion operationID planSHA256 approvalScopeSHA256 adapterExecutableSHA256 issuedAt
    expiresAt approvalTuple preflightRequestSHA256 preflightResponseSHA256 preflightEvidenceRef
    preflightEvidenceSHA256 preflightBindingSHA256 reportSHA256 : String)
  deriving DecidableEq, Repr

/-- `ApprovalReport{}`. -/
def ApprovalReport.empty : ApprovalReport :=
  ⟨"", "", "", "", "", "", "", "", "", "", "", "", "", ""⟩

structure AdapterRequest where
  (schemaVersion protocolVersion operationID planSHA256 approvalSHA256 approvalScopeSHA256
    adapterExecutableSHA256 mode step previousJournalSHA256 requestID : String)
  plan : Plan
  retainKinds : List String
  cleanupTargets : List CleanupTarget
  requestSHA256 : String
  deriving DecidableEq, Repr

structure TargetResult where
  (kind sourceChecksumSHA256 restoredChecksumSHA256 evidenceRef evidenceSHA256 : String)
  deriving DecidableEq, Repr

structure Evidence where
  (ref sha256 : String)
  deriving DecidableEq, Repr

structure RestoreObservation where
  (restoreName restoreScopeSHA256 sourceNamespace destinationNamespace destinationScopeSHA256
    evidenceRef evidenceSHA256 : String)
  deriving DecidableEq, Repr

structure AdapterResponse where
  (schemaVersion protocolVersion operationID step requestSHA256 adapterExecutableSHA256
    status : String)
  mutated : Bool
  evidence : Evidence
  restoreObservations : List RestoreObservation
  targets : List TargetResult
  (isolationEvidence cleanupEvidence : Option Evidence)
  (objectLockDeleteDenialReceiptSHA256 aggregateProofArtifactSHA256 aggregateProofPathToken
    responseSHA256 : String)
  deriving DecidableEq, Repr

def approvalSchemaVersion : String := "cloudring.backup-drill.approval/v1"

def adapterRequestVersion : String := "cloudring.backup-drill.adapter-request/v1"

def adapterResponseVersion : String := "cloudring.backup-drill.adapter-response/v1"

def adapterProtocolVersion : String := "cloudring.backup-drill.adapter/v1"

/-! ## JSON forms -/

def textMembers (members : List (String × String)) : List (String × Json) :=
  members.map fun (key, value) => (key, .string value)

def optionalText (key value : String) : List (String × Json) :=
  if value = "" then [] else [(key, .string value)]

def optionalList (key : String) (items : List Json) : List (String × Json) :=
  if items = [] then [] else [(key, .array items)]

def integerJSON (value : Int) : Json := .number (Json.Numeral.ofInt value)

def ObjectIdentity.json (value : ObjectIdentity) : Json :=
  .object (textMembers [("kind", value.kind)] ++ optionalText "namespace" value.namespaceName ++
    textMembers [("name", value.name), ("scopeSha256", value.scopeSHA256)])

def IsolatedNamespace.json (value : IsolatedNamespace) : Json :=
  .object ([("restoreIndex", integerJSON value.restoreIndex)] ++
    textMembers [("restoreName", value.restoreName),
      ("restoreScopeSha256", value.restoreScopeSHA256),
      ("sourceNamespace", value.sourceNamespace)] ++
    [("destination", value.destination.json)])

def Baseline.json (value : Baseline) : Json :=
  .object (textMembers [("kind", value.kind), ("identitySha256", value.identitySHA256),
    ("stateSha256", value.stateSHA256), ("dataSha256", value.dataSHA256)])

def ExecutableIdentity.json (value : ExecutableIdentity) : Json :=
  .object (textMembers [("name", value.name), ("executableSha256", value.executableSHA256)])

def CleanupTarget.json (value : CleanupTarget) : Json :=
  .object (textMembers [("kind", value.kind)] ++ optionalText "namespace" value.namespaceName ++
    textMembers [("name", value.name),
      ("preconditionIdentitySha256", value.preconditionIdentitySHA256)])

def StorageLocation.json (value : StorageLocation) : Json :=
  .object (textMembers [("name", value.name), ("uidSha256", value.uidSHA256)] ++
    [("generation", integerJSON value.generation)] ++
    textMembers [("configSha256", value.configSHA256)])

def ObjectStore.json (value : ObjectStore) : Json :=
  .object (textMembers [("prefix", value.keyPrefix)] ++
    [("minimumRetentionDays", integerJSON value.minimumRetentionDays)] ++
    textMembers [("objectLockMode", value.objectLockMode)])

def Plan.json (plan : Plan) : Json :=
  .object (textMembers [("schemaVersion", plan.schemaVersion), ("operationId", plan.operationID),
      ("proofId", plan.proofID), ("installationId", plan.installationID),
      ("acceptedPublicSha", plan.acceptedPublicSHA),
      ("acceptedDownstreamSha", plan.acceptedDownstreamSHA),
      ("clusterIdentitySha256", plan.clusterIdentitySHA256)] ++
    [("backupStorageLocation", plan.backupStorageLocation.json),
      ("objectStore", plan.objectStore.json),
      ("sourceBaselines", .array (plan.sourceBaselines.map Baseline.json)),
      ("tool", plan.tool.json), ("adapter", plan.adapter.json), ("backup", plan.backup.json),
      ("restores", .array (plan.restores.map ObjectIdentity.json)),
      ("isolatedNamespaces", .array (plan.isolatedNamespaces.map IsolatedNamespace.json)),
      ("etcdSandbox", plan.etcdSandbox.json),
      ("cleanupTargets", .array (plan.cleanupTargets.map CleanupTarget.json))] ++
    textMembers [("aggregateProofPathToken", plan.aggregateProofPathToken),
      ("issuedAt", plan.issuedAt), ("expiresAt", plan.expiresAt),
      ("runNonceSha256", plan.runNonceSHA256)])

def ApprovalReport.json (report : ApprovalReport) : Json :=
  .object (textMembers [("schemaVersion", report.schemaVersion),
    ("operationId", report.operationID), ("planSha256", report.planSHA256),
    ("approvalScopeSha256", report.approvalScopeSHA256),
    ("adapterExecutableSha256", report.adapterExecutableSHA256), ("issuedAt", report.issuedAt),
    ("expiresAt", report.expiresAt), ("approvalTuple", report.approvalTuple),
    ("preflightRequestSha256", report.preflightRequestSHA256),
    ("preflightResponseSha256", report.preflightResponseSHA256),
    ("preflightEvidenceRef", report.preflightEvidenceRef),
    ("preflightEvidenceSha256", report.preflightEvidenceSHA256),
    ("preflightBindingSha256", report.preflightBindingSHA256),
    ("reportSha256", report.reportSHA256)])

def AdapterRequest.json (request : AdapterRequest) : Json :=
  .object (textMembers [("schemaVersion", request.schemaVersion),
      ("protocolVersion", request.protocolVersion), ("operationId", request.operationID),
      ("planSha256", request.planSHA256)] ++
    optionalText "approvalSha256" request.approvalSHA256 ++
    textMembers [("approvalScopeSha256", request.approvalScopeSHA256),
      ("adapterExecutableSha256", request.adapterExecutableSHA256), ("mode", request.mode),
      ("step", request.step)] ++
    optionalText "previousJournalSha256" request.previousJournalSHA256 ++
    [("requestId", .string request.requestID), ("plan", request.plan.json)] ++
    optionalList "retainKinds" (request.retainKinds.map .string) ++
    optionalList "cleanupTargets" (request.cleanupTargets.map CleanupTarget.json) ++
    textMembers [("requestSha256", request.requestSHA256)])

def Evidence.json (value : Evidence) : Json :=
  .object (textMembers [("ref", value.ref), ("sha256", value.sha256)])

def TargetResult.json (value : TargetResult) : Json :=
  .object (textMembers [("kind", value.kind),
    ("sourceChecksumSha256", value.sourceChecksumSHA256),
    ("restoredChecksumSha256", value.restoredChecksumSHA256),
    ("evidenceRef", value.evidenceRef), ("evidenceSha256", value.evidenceSHA256)])

def RestoreObservation.json (value : RestoreObservation) : Json :=
  .object (textMembers [("restoreName", value.restoreName),
    ("restoreScopeSha256", value.restoreScopeSHA256),
    ("sourceNamespace", value.sourceNamespace),
    ("destinationNamespace", value.destinationNamespace),
    ("destinationScopeSha256", value.destinationScopeSHA256),
    ("evidenceRef", value.evidenceRef), ("evidenceSha256", value.evidenceSHA256)])

def AdapterResponse.json (response : AdapterResponse) : Json :=
  .object (textMembers [("schemaVersion", response.schemaVersion),
      ("protocolVersion", response.protocolVersion), ("operationId", response.operationID),
      ("step", response.step), ("requestSha256", response.requestSHA256),
      ("adapterExecutableSha256", response.adapterExecutableSHA256),
      ("status", response.status)] ++
    [("mutated", .bool response.mutated), ("evidence", response.evidence.json)] ++
    optionalList "restoreObservations" (response.restoreObservations.map RestoreObservation.json) ++
    optionalList "targets" (response.targets.map TargetResult.json) ++
    (response.isolationEvidence.elim [] fun evidence => [("isolationEvidence", evidence.json)]) ++
    (response.cleanupEvidence.elim [] fun evidence => [("cleanupEvidence", evidence.json)]) ++
    optionalText "objectLockDeleteDenialReceiptSha256"
      response.objectLockDeleteDenialReceiptSHA256 ++
    optionalText "aggregateProofArtifactSha256" response.aggregateProofArtifactSHA256 ++
    optionalText "aggregateProofPathToken" response.aggregateProofPathToken ++
    textMembers [("responseSha256", response.responseSHA256)])

section Digests

variable [Runtime]

def digest (value : Json) : String := Hex.text (Runtime.sha256 (Json.goStyle.bytes value))

theorem validSHA_digest (value : Json) : validSHA (digest value) = true := by
  have length := Hex.text_length (Runtime.sha256 (Json.goStyle.bytes value))
  rw [Runtime.sha256_length] at length
  simp only [validSHA, hexOfLength, Bool.and_eq_true, decide_eq_true_eq, List.all_eq_true]
  exact ⟨length, Hex.text_digits _⟩

def planSHA256 (plan : Plan) : String := digest plan.json

def approvalScopeSHA256 (plan : Plan) : String :=
  digest (.object (textMembers [("schemaVersion", "cloudring.backup-drill.approval-scope/v1"),
      ("planSha256", planSHA256 plan), ("operationId", plan.operationID),
      ("proofId", plan.proofID), ("installationId", plan.installationID),
      ("acceptedPublicSha", plan.acceptedPublicSHA),
      ("acceptedDownstreamSha", plan.acceptedDownstreamSHA),
      ("clusterSha256", plan.clusterIdentitySHA256)] ++ [("adapter", plan.adapter.json)]))

def preflightBindingSHA256 (plan : Plan) (responseSHA256 evidenceRef evidenceSHA256 : String) :
    String :=
  digest (.object (textMembers [("schemaVersion", "cloudring.backup-drill.preflight-binding/v1"),
    ("approvalScopeSha256", approvalScopeSHA256 plan),
    ("adapterExecutableSha256", plan.adapter.executableSHA256),
    ("responseSha256", responseSHA256), ("evidenceRef", evidenceRef),
    ("evidenceSha256", evidenceSHA256)]))

def approvalSHA256 (report : ApprovalReport) : String := digest report.json

def approvalReportSHA256 (report : ApprovalReport) : String :=
  digest { report with reportSHA256 := "" }.json

def adapterRequestSHA256 (request : AdapterRequest) : String :=
  digest { request with requestSHA256 := "" }.json

def adapterResponseSHA256 (response : AdapterResponse) : String :=
  digest { response with responseSHA256 := "" }.json

/-! ## Requests -/

def requestIdentity (request : AdapterRequest) : String :=
  let identity := digest (.object (textMembers [("OperationID", request.operationID),
    ("PlanSHA256", request.planSHA256), ("ApprovalSHA256", request.approvalSHA256),
    ("Step", request.step), ("Previous", request.previousJournalSHA256)]))
  request.mode ++ ":" ++ String.ofList (identity.toList.take 32)

def AdapterRequest.identified (request : AdapterRequest) : AdapterRequest :=
  let named := { request with requestID := requestIdentity request }
  { named with requestSHA256 := adapterRequestSHA256 named }

def newAdapterRequest (plan : Plan) (approval : ApprovalReport) (mode step previous : String) :
    AdapterRequest :=
  AdapterRequest.identified
    { schemaVersion := adapterRequestVersion
      protocolVersion := adapterProtocolVersion
      operationID := plan.operationID
      planSHA256 := planSHA256 plan
      approvalSHA256 := if approval.schemaVersion ≠ "" then approvalSHA256 approval else ""
      approvalScopeSHA256 := approvalScopeSHA256 plan
      adapterExecutableSHA256 := plan.adapter.executableSHA256
      mode := mode
      step := step
      previousJournalSHA256 := previous
      requestID := ""
      plan := plan
      retainKinds := []
      cleanupTargets := []
      requestSHA256 := "" }

def newRollbackRequest (plan : Plan) (approval : ApprovalReport) (step previous : String) :
    AdapterRequest :=
  let request := newAdapterRequest plan approval "rollback" step previous
  if step = "rollback-cleanup-requested" then
    AdapterRequest.identified
      { request with
        retainKinds := ["Backup", "DataUpload", "ObjectStoreRecoveryPoint", "RestoreAuditCR"]
        cleanupTargets := plan.cleanupTargets }
  else request

theorem identified_requestSHA256 (request : AdapterRequest) :
    request.identified.requestSHA256 = adapterRequestSHA256 request.identified := rfl

theorem newAdapterRequest_spec (plan : Plan) (approval : ApprovalReport)
    (mode step previous : String) :
    let request := newAdapterRequest plan approval mode step previous
    request.mode = mode ∧ request.step = step ∧ request.operationID = plan.operationID ∧
      request.adapterExecutableSHA256 = plan.adapter.executableSHA256 ∧
      request.requestSHA256 = adapterRequestSHA256 request :=
  ⟨rfl, rfl, rfl, rfl, identified_requestSHA256 _⟩

theorem newRollbackRequest_spec (plan : Plan) (approval : ApprovalReport)
    (step previous : String) :
    let request := newRollbackRequest plan approval step previous
    request.mode = "rollback" ∧ request.step = step ∧ request.operationID = plan.operationID ∧
      request.adapterExecutableSHA256 = plan.adapter.executableSHA256 ∧
      request.requestSHA256 = adapterRequestSHA256 request := by
  unfold newRollbackRequest
  split
  · exact ⟨rfl, rfl, rfl, rfl, identified_requestSHA256 _⟩
  · exact newAdapterRequest_spec plan approval "rollback" step previous

/-! ## Approvals -/

def approvalTuple (plan : Plan) (preflightBinding : String) : String :=
  match canonicalTime plan.issuedAt with
  | some issued =>
    if validSHA preflightBinding then
      "goal01-backup-restore@" ++ toString (issued / 1000000000) ++ "@" ++
        plan.acceptedDownstreamSHA ++ "@" ++ plan.runNonceSHA256 ++ "@" ++
        approvalScopeSHA256 plan ++ "@" ++ preflightBinding
    else ""
  | none => ""

def validateApprovalBinding (plan : Plan) (approval : ApprovalReport) : Except String Unit := do
  validatePlan plan
  let preflightRequest := newAdapterRequest plan .empty "preflight" "preflight" ""
  ensure "backup drill approval binding is invalid"
    (approval.schemaVersion = approvalSchemaVersion && approval.operationID = plan.operationID &&
      approval.planSHA256 = planSHA256 plan &&
      approval.approvalScopeSHA256 = approvalScopeSHA256 plan &&
      approval.adapterExecutableSHA256 = plan.adapter.executableSHA256 &&
      approval.issuedAt = plan.issuedAt && approval.expiresAt = plan.expiresAt &&
      approval.preflightRequestSHA256 = preflightRequest.requestSHA256 &&
      validSHA approval.preflightResponseSHA256 &&
      validEvidence approval.preflightEvidenceRef approval.preflightEvidenceSHA256 &&
      approval.preflightBindingSHA256 = preflightBindingSHA256 plan
        approval.preflightResponseSHA256 approval.preflightEvidenceRef
        approval.preflightEvidenceSHA256 &&
      approval.approvalTuple = approvalTuple plan approval.preflightBindingSHA256 &&
      approval.reportSHA256 = approvalReportSHA256 approval)

def validateApproval (plan : Plan) (approval : ApprovalReport) (now : Int) :
    Except String Unit := do
  validateApprovalBinding plan approval
  ensure "backup drill approval is stale"
    (match canonicalTime approval.issuedAt, canonicalTime approval.expiresAt with
    | some issued, some expires => issued ≤ now && now < expires
    | _, _ => false)

def preflightReport (plan : Plan) (response : AdapterResponse) : ApprovalReport :=
  let request := newAdapterRequest plan .empty "preflight" "preflight" ""
  let binding := preflightBindingSHA256 plan response.responseSHA256 response.evidence.ref
    response.evidence.sha256
  let report : ApprovalReport :=
    { schemaVersion := approvalSchemaVersion
      operationID := plan.operationID
      planSHA256 := planSHA256 plan
      approvalScopeSHA256 := approvalScopeSHA256 plan
      adapterExecutableSHA256 := plan.adapter.executableSHA256
      issuedAt := plan.issuedAt
      expiresAt := plan.expiresAt
      approvalTuple := approvalTuple plan binding
      preflightRequestSHA256 := request.requestSHA256
      preflightResponseSHA256 := response.responseSHA256
      preflightEvidenceRef := response.evidence.ref
      preflightEvidenceSHA256 := response.evidence.sha256
      preflightBindingSHA256 := binding
      reportSHA256 := "" }
  { report with reportSHA256 := approvalReportSHA256 report }

theorem validateApprovalBinding_preflight {plan : Plan} {response : AdapterResponse}
    (valid : validatePlan plan = .ok ()) (digested : validSHA response.responseSHA256 = true)
    (evidence : validEvidence response.evidence.ref response.evidence.sha256 = true) :
    validateApprovalBinding plan (preflightReport plan response) = .ok () := by
  rw [validateApprovalBinding, check_bind]
  refine ⟨valid, ?_⟩
  simp [preflightReport, approvalReportSHA256, digested, evidence]

/-! ## Responses -/

def validateAdapterResponseBinding (request : AdapterRequest) (response : AdapterResponse) :
    Except String Unit :=
  ensure "backup drill adapter response binding is invalid"
    (request.requestSHA256 = adapterRequestSHA256 request &&
      response.schemaVersion = adapterResponseVersion &&
      response.protocolVersion = adapterProtocolVersion &&
      response.operationID = request.operationID && response.step = request.step &&
      response.requestSHA256 = request.requestSHA256 &&
      response.adapterExecutableSHA256 = request.adapterExecutableSHA256 &&
      validEvidence response.evidence.ref response.evidence.sha256 &&
      response.responseSHA256 = adapterResponseSHA256 response)

def mutationSteps : List String :=
  ["etcd-offcell-complete", "velero-backup-complete", "restore-watch-create-observe-complete",
    "etcd-sandbox-restored", "restore-validation-complete", "isolated-targets-deleted"]

def boundObservation (mapping : IsolatedNamespace) (observation : RestoreObservation) : Bool :=
  observation.restoreName = mapping.restoreName &&
    observation.restoreScopeSHA256 = mapping.restoreScopeSHA256 &&
    observation.sourceNamespace = mapping.sourceNamespace &&
    observation.destinationNamespace = mapping.destination.name &&
    observation.destinationScopeSHA256 = mapping.destination.scopeSHA256 &&
    validEvidence observation.evidenceRef observation.evidenceSHA256

def validateAdapterResponse (request : AdapterRequest) (response : AdapterResponse) :
    Except String Unit := do
  validateAdapterResponseBinding request response
  match request.mode with
  | "preflight" =>
    ensure "backup drill preflight attempted or reported mutation"
      (request.step = "preflight" && response.status = "ready" && !response.mutated)
  | "apply" =>
    ensure "backup drill apply step is not complete"
      (response.status = "completed" && response.mutated = decide (request.step ∈ mutationSteps))
    if request.step = "restore-watch-create-observe-complete" then
      ensure "backup drill combined restore observation evidence is incomplete"
        (response.restoreObservations.length = request.plan.isolatedNamespaces.length)
      ensure "backup drill combined restore observation evidence is not plan-bound"
        ((request.plan.isolatedNamespaces.zip response.restoreObservations).all
          fun (mapping, observation) => boundObservation mapping observation)
    else
      ensure "backup drill restore observation evidence appeared in the wrong phase"
        response.restoreObservations.isEmpty
  | "rollback" =>
    if request.step = "rollback-safe-stop" then
      ensure "backup drill rollback did not safe-stop"
        (response.status = "safe-stopped" && !response.mutated)
    else
      ensure "backup drill rollback cleanup failed"
        (response.status = "completed" && response.mutated)
  | _ => .error "backup drill adapter mode is invalid"

theorem validateAdapterResponse_bound {request : AdapterRequest} {response : AdapterResponse}
    (accepted : validateAdapterResponse request response = .ok ()) :
    validateAdapterResponseBinding request response = .ok () := by
  rw [validateAdapterResponse, check_bind] at accepted
  exact accepted.1

theorem bound_digest {request : AdapterRequest} {response : AdapterResponse}
    (bound : validateAdapterResponseBinding request response = .ok ()) :
    response.responseSHA256 = adapterResponseSHA256 response := by
  rw [validateAdapterResponseBinding, ensure_ok] at bound
  simp only [Bool.and_eq_true, decide_eq_true_eq] at bound
  exact bound.2

def boundTarget (kind : String) (baseline : Baseline) (target : TargetResult) : Bool :=
  target.kind = kind && target.sourceChecksumSHA256 = baseline.dataSHA256 &&
    target.sourceChecksumSHA256 = target.restoredChecksumSHA256 &&
    validEvidence target.evidenceRef target.evidenceSHA256

def boundTargets (plan : Plan) (targets : List TargetResult) : Bool :=
  (List.range targets.length).all fun index =>
    targets[index]?.elim false fun target =>
      boundTarget (targetKinds.getD index "") (plan.sourceBaselines.getD index default) target

def presentEvidence (evidence : Option Evidence) : Bool :=
  evidence.elim false fun evidence => validEvidence evidence.ref evidence.sha256

def validateProofResponse (plan : Plan) (response : AdapterResponse) : Except String Unit := do
  ensure "backup drill proof response is incomplete"
    (response.step = "proof-assembled" && response.targets.length = targetKinds.length &&
      presentEvidence response.isolationEvidence && presentEvidence response.cleanupEvidence &&
      validSHA response.objectLockDeleteDenialReceiptSHA256 &&
      validSHA response.aggregateProofArtifactSHA256 &&
      response.aggregateProofPathToken = plan.aggregateProofPathToken)
  ensure "backup drill proof response target is invalid" (boundTargets plan response.targets)

end Digests

end CloudRing.BackupDrill
