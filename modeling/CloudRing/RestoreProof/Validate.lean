import CloudRing.Library.Check
import CloudRing.RestoreProof.Receipt
import Mathlib.Data.List.Dedup
import Mathlib.Data.String.Basic

/-!
# The checks of a receipt

`ValidateCSIDataMoverVolumeReceipt` and the functions it is made of, each a chain of checks with the
message of the source.
-/

namespace CloudRing.RestoreProof

open Library

def receiptSchemaVersion : String := "cloudring.restore-proof.csi-data-mover/v1"

def baselineSchemaVersion : String := "cloudring.restore-proof.source-baseline/v1"

/-- `VeleroVersion`. -/
def supportedVeleroVersion : String := "v1.18.2"

def methodCSIDataMover : String := "csi-data-mover"

def scopeSingleVolumeDataPath : String := "single-volume-data-path-only"

def providerAbsenceMinimumInterval : Int := 10 * Instant.second

def sourceBaselineMaximumAge : Int := 15 * Instant.minute

def serverStatusFreshness : Int := Instant.minute

def serverStatusAllowedFutureSkew : Int := 30 * Instant.second

/-- The largest `int64`. -/
def maxInt64 : Int := 2 ^ 63 - 1

/-! ## Values -/

def validDigest (value : String) : Bool :=
  value.toList.length = 64 && value.toList.all Pattern.isHexDigit

/-- The class `[a-z0-9.-]`. -/
def isNameChar (char : Char) : Bool := char = '.' || char = '-' || Pattern.isLowerOrDigit char

def validName (value : String) : Bool :=
  value.utf8ByteSize ≤ 253 &&
    Pattern.bracketed Pattern.isLowerOrDigit isNameChar Pattern.isLowerOrDigit value

/-- The class `[A-Za-z0-9]`. -/
def isAlphanumeric (char : Char) : Bool :=
  Pattern.isLowerOrDigit char || ('A' ≤ char && char ≤ 'Z')

def validRuntimeID (value : String) : Bool :=
  match value.toList with
  | [] => false
  | first :: rest => isAlphanumeric first && rest.length ≤ 254 &&
    rest.all fun char => isAlphanumeric char || char ∈ ['.', '_', ':', '+', '/', '-']

def validVersion (value : String) : Bool :=
  value.toList.head? = some 'v' && 1 < value.utf8ByteSize && validRuntimeID value

def validEvidence (ref hash : String) : Bool := validRuntimeID ref && validDigest hash

def builtInDataMover (value : String) : Bool := value = "" || value = "velero"

def durationMillisecondsCeiling (duration : Int) : Int :=
  if duration ≤ 0 then 0
  else duration / Instant.millisecond + if duration % Instant.millisecond ≠ 0 then 1 else 0

def containsSource (resources : List SourceResource) (candidate : Option SourceResource) : Bool :=
  match candidate with
  | none => false
  | some resource => resource ∈ resources

def containsTarget (resources : List TargetResource) (candidate : Option TargetResource) : Bool :=
  match candidate with
  | none => false
  | some resource => resource ∈ resources

/-- `sourceInventory`: the objects of one kind, by identity, newest first. -/
def sourceInventory (resources : List SourceResource) (kind : String) :
    List (String × SourceResource) :=
  ((resources.filter fun resource => resource.resource = kind).map fun resource =>
    (resource.identity, resource)).reverse

/-- `targetInventory`: the objects of one kind, by identity, newest first. -/
def targetInventory (resources : List TargetResource) (kind : String) :
    List (String × TargetResource) :=
  ((resources.filter fun resource => resource.resource = kind).map fun resource =>
    (resource.identity, resource)).reverse

def mapSize {α : Type} (entries : List (String × α)) : Nat := (entries.map Prod.fst).dedup.length

section Checks

variable [Platform]

def validLabelValue (value : String) : String :=
  if value.utf8ByteSize ≤ 63 then value
  else String.ofList (value.toList.take 57 ++ (Platform.sha256 value).toList.take 6)

def canonicalTime (value : String) : Bool :=
  ((Platform.parseTime value).map Platform.formatTime) = some value

def instant (value : String) : Int := (Platform.parseTime value).getD Instant.zero

def timed (value : String) : Bool := (Platform.parseTime value).isSome

def positiveDuration (value : String) : Bool :=
  (Platform.parseDuration value).any fun duration => 0 < duration

/-! ## The context -/

def sourceMatchesBaseline (resource baseline : SourceResource) : Bool :=
  resource.resource = baseline.resource && resource.namespaceName = baseline.namespaceName &&
    resource.name = baseline.name && resource.uidSHA256 = baseline.uidSHA256 &&
    resource.resourceVersionBeforeSHA256 = baseline.resourceVersionBeforeSHA256 &&
    resource.stateBeforeSHA256 = baseline.stateBeforeSHA256 &&
    resource.stateAfterSHA256 = baseline.stateAfterSHA256

structure InventoryState where
  expected : List String
  seen : List String := []
  previous : String := ""
  baselineFound : Bool := false

def checkSource (baseline : SourceResource) (state : InventoryState) (resource : SourceResource) :
    Except String InventoryState := do
  let identity := resource.identity
  ensure "restore proof source inventory is invalid"
    (resource.resource ∈ state.expected && !(state.previous ≠ "" && identity ≤ state.previous) &&
      validName resource.name &&
      !(resource.resource = "persistentvolumeclaims" && !validName resource.namespaceName) &&
      !(resource.resource = "persistentvolumes" && resource.namespaceName ≠ "") &&
      identity ∉ state.seen && validDigest resource.uidSHA256 &&
      validDigest resource.resourceVersionBeforeSHA256 &&
      validDigest resource.resourceVersionAfterSHA256 &&
      validDigest resource.stateBeforeSHA256 &&
      resource.stateBeforeSHA256 = resource.stateAfterSHA256)
  return {
    expected := state.expected.erase resource.resource
    seen := identity :: state.seen
    previous := identity
    baselineFound := state.baselineFound ||
      (resource.resource = "persistentvolumeclaims" && sourceMatchesBaseline resource baseline) }

def checkTarget (state : InventoryState) (resource : TargetResource) :
    Except String InventoryState := do
  let identity := resource.identity
  ensure "restore proof target inventory is invalid"
    (resource.resource ∈ state.expected && !(state.previous ≠ "" && identity ≤ state.previous) &&
      validName resource.name &&
      !(resource.resource ≠ "persistentvolumes" && !validName resource.namespaceName) &&
      !(resource.resource = "persistentvolumes" && resource.namespaceName ≠ "") &&
      identity ∉ state.seen && validDigest resource.uidSHA256 &&
      validDigest resource.resourceVersionSHA256 && validDigest resource.validatedStateSHA256)
  return { state with
    expected := state.expected.erase resource.resource
    seen := identity :: state.seen
    previous := identity }

def checkParent (context : VolumeRestoreContext) : Except String Unit := do
  ensure "restore proof parent context is invalid"
    (validName context.veleroNamespace && validName context.restoreID &&
      validName context.backupID && validName context.backupStorageLocation &&
      validDigest context.restoreUIDSHA256 && validDigest context.restoreResourceVersionSHA256 &&
      validDigest context.backupUIDSHA256 && validDigest context.backupResourceVersionSHA256 &&
      context.namespaceMapping.length = 1 && canonicalTime context.backupCompletedAt &&
      canonicalTime context.restoreStartedAt && canonicalTime context.completedAt)
  ensure "restore proof parent timeline is invalid"
    (instant context.backupCompletedAt ≤ instant context.restoreStartedAt &&
      instant context.restoreStartedAt < instant context.completedAt &&
      positiveDuration context.csiSnapshotTimeout &&
      (context.backupUploaderConfigSHA256 = "" ||
        validDigest context.backupUploaderConfigSHA256) &&
      (context.restoreUploaderConfigSHA256 = "" ||
        validDigest context.restoreUploaderConfigSHA256) &&
      context.dataMoverConfigSHA256 = context.restoreUploaderConfigSHA256)

def checkBaseline (context : VolumeRestoreContext) : Except String Unit := do
  let baseline := context.sourceBaseline
  ensure "restore proof source baseline is invalid"
    (baseline.schemaVersion = baselineSchemaVersion && canonicalTime baseline.capturedAt &&
      baseline.source.resource = "persistentvolumeclaims" &&
      validName baseline.source.namespaceName && validName baseline.source.name &&
      validDigest baseline.source.uidSHA256 &&
      validDigest baseline.source.resourceVersionBeforeSHA256 &&
      baseline.source.resourceVersionBeforeSHA256 = baseline.source.resourceVersionAfterSHA256 &&
      validDigest baseline.source.stateBeforeSHA256 &&
      baseline.source.stateBeforeSHA256 = baseline.source.stateAfterSHA256 &&
      validEvidence baseline.evidenceRef baseline.evidenceSHA256 &&
      baseline.evidenceSHA256 = Platform.sourceBaselineEvidenceSHA256 baseline)
  ensure "restore proof source baseline timeline is invalid"
    (instant baseline.capturedAt < instant context.restoreStartedAt &&
      Instant.sub (instant context.restoreStartedAt) (instant baseline.capturedAt) ≤
        sourceBaselineMaximumAge)

def checkCleanup (context : VolumeRestoreContext) : Except String Unit := do
  let cleanup := context.cleanup
  ensure "restore proof cleanup context is invalid"
    (canonicalTime cleanup.validationCompletedAt && canonicalTime cleanup.cleanupStartedAt &&
      canonicalTime cleanup.cleanupCompletedAt && canonicalTime cleanup.verifiedAt &&
      cleanup.sourceResources.length = 2 && cleanup.targetResources.length = 4 &&
      cleanup.veleroAutoCleanedResources.length = 1)
  ensure "restore proof cleanup timeline is invalid"
    (instant cleanup.validationCompletedAt ≤ instant cleanup.cleanupStartedAt &&
      instant cleanup.cleanupStartedAt ≤ instant cleanup.cleanupCompletedAt &&
      instant cleanup.cleanupCompletedAt ≤ instant cleanup.verifiedAt)
  ensure "restore proof validation predates restore completion"
    (instant context.completedAt ≤ instant cleanup.validationCompletedAt)

def validateContext (context : VolumeRestoreContext) : Except String Unit := do
  checkParent context
  checkBaseline context
  forEach (fun (source, target) => ensure "restore proof namespace mapping is invalid"
    (validName source && validName target && source ≠ target)) context.namespaceMapping
  checkCleanup context
  let cleanup := context.cleanup
  let sources ← cleanup.sourceResources.foldlM (checkSource context.sourceBaseline.source)
    { expected := ["persistentvolumeclaims", "persistentvolumes"] }
  ensure "restore proof source inventory is not bound to its baseline"
    (sources.baselineFound && sources.expected.isEmpty)
  let targets ← cleanup.targetResources.foldlM checkTarget
    { expected := ["persistentvolumeclaims", "persistentvolumes", "datadownloads.velero.io",
        "configmaps"] }
  ensure "restore proof target inventory is incomplete" targets.expected.isEmpty
  ensure "restore proof Velero auto-cleaned inventory is invalid"
    (cleanup.veleroAutoCleanedResources.head?.any fun autoCleaned =>
      autoCleaned.resource = "configmaps" &&
        containsTarget cleanup.targetResources (some autoCleaned))

/-! ## Probes -/

/-- `validateProbe`: the checks of the measurement, of the objects, and of the instants. -/
def validateProbe (context : VolumeRestoreContext) (probe : DataProbe) : Except String Unit := do
  let cleanup := context.cleanup
  ensure "typed restore data probe metadata or checksum is invalid"
    (probe.status = "verified" && validRuntimeID probe.implementation &&
      validVersion probe.version && probe.hashAlgorithm = "sha256" &&
      validDigest probe.requestSHA256 && validDigest probe.adapterExecutableSHA256 &&
      validDigest probe.sourceDataSHA256 && probe.sourceDataSHA256 = probe.restoredDataSHA256 &&
      0 < probe.validatedBytes && validEvidence probe.evidenceRef probe.evidenceSHA256 &&
      probe.sourceGVR = coreV1PVCGVR && probe.targetGVR = coreV1PVCGVR &&
      probe.source.isSome && probe.target.isSome && probe.targetPV.isSome &&
      validName probe.sourcePVCVolumeName)
  ensure "typed restore data probe source and target lineage is invalid"
    (containsSource cleanup.sourceResources probe.source &&
      containsTarget cleanup.targetResources probe.target &&
      containsTarget cleanup.targetResources probe.targetPV &&
      (probe.source.any fun source => probe.target.any fun target =>
        probe.targetPV.any fun targetPV =>
        source.resource = "persistentvolumeclaims" &&
        target.resource = "persistentvolumeclaims" &&
        targetPV.resource = "persistentvolumes" && targetPV.namespaceName = "" &&
        probe.targetPVCVolumeName = targetPV.name &&
        context.mapped source.namespaceName = target.namespaceName &&
        source.name = target.name && source.uidSHA256 ≠ target.uidSHA256 &&
        source.stateBeforeSHA256 = source.stateAfterSHA256))
  ensure "typed restore data probe timeline is invalid"
    (timed probe.startedAt && timed probe.completedAt && timed context.completedAt &&
      timed cleanup.validationCompletedAt &&
      instant context.completedAt ≤ instant probe.startedAt &&
      instant probe.startedAt < instant probe.completedAt &&
      instant probe.completedAt ≤ instant cleanup.validationCompletedAt &&
      probe.observedDurationMilliseconds = durationMillisecondsCeiling
        (Instant.sub (instant probe.completedAt) (instant probe.startedAt)))

structure ProbeState where
  byTarget : List (String × DataProbe) := []
  seenSource : List String := []
  seenPV : List String := []
  previous : String := ""
  total : Int := 0

def checkProbe (context : VolumeRestoreContext) (state : ProbeState) (probe : DataProbe) :
    Except String ProbeState := do
  validateProbe context probe
  let identity := sourceIdentity probe.source ++ "\x00" ++ targetIdentity probe.target ++ "\x00" ++
    targetIdentity probe.targetPV
  ensure "typed restore data probes must be unique and canonically ordered"
    (!(state.previous ≠ "" && identity ≤ state.previous) &&
      sourceIdentity probe.source ∉ state.seenSource &&
      ((state.byTarget.lookup (targetIdentity probe.target)).map DataProbe.status).getD "" = "" &&
      targetIdentity probe.targetPV ∉ state.seenPV)
  ensure "typed restore data probe byte total overflowed"
    (probe.validatedBytes ≤ maxInt64 - state.total)
  return {
    byTarget := (targetIdentity probe.target, probe) :: state.byTarget
    seenSource := sourceIdentity probe.source :: state.seenSource
    seenPV := targetIdentity probe.targetPV :: state.seenPV
    previous := identity
    total := state.total + probe.validatedBytes }

def validateProbes (context : VolumeRestoreContext) (probes : List DataProbe) :
    Except String ProbeState := do
  let sources := sourceInventory context.cleanup.sourceResources "persistentvolumeclaims"
  let targetPVCs := targetInventory context.cleanup.targetResources "persistentvolumeclaims"
  let targetPVs := targetInventory context.cleanup.targetResources "persistentvolumes"
  ensure ("typed restore data probes must cover every exact source PVC, restored PVC, and " ++
    "restored PV")
    (mapSize sources ≠ 0 && probes.length = mapSize sources &&
      mapSize targetPVCs = mapSize sources && mapSize targetPVs = mapSize sources)
  let state ← probes.foldlM (checkProbe context) {}
  ensure "typed restore data probe coverage is incomplete"
    (state.seenSource.length = mapSize sources && state.byTarget.length = mapSize targetPVCs &&
      state.seenPV.length = mapSize targetPVs)
  return state

/-! ## Downloads -/

def validateDataDownload (context : VolumeRestoreContext) (probe : DataProbe)
    (helper : AsyncHelper) : Except String Unit := do
  let targets := context.cleanup.targetResources
  ensure "DataDownload typed spec, labels, or DataUploadResult linkage is invalid"
    (helper.dataDownload.any fun data => helper.targetPVC.any fun targetPVC =>
      helper.sourcePVC.any fun sourcePVC =>
      data.targetVolumePVC = targetPVC.name && data.targetVolumePV = "" &&
      data.targetVolumeNamespace = targetPVC.namespaceName && data.targetPV.isSome &&
      data.targetPV = probe.targetPV && containsTarget targets data.targetPV &&
      data.backupStorageLocation = context.backupStorageLocation &&
      builtInDataMover data.dataMover && validDigest data.snapshotIDSHA256 &&
      data.sourceNamespace = sourcePVC.namespaceName &&
      context.mapped data.sourceNamespace = targetPVC.namespaceName &&
      data.dataMoverConfigSHA256 = context.restoreUploaderConfigSHA256 &&
      data.operationTimeout = context.csiSnapshotTimeout && !data.cancel &&
      data.nodeOS = "linux" && data.snapshotSize = helper.totalBytes &&
      data.asyncOperationIDLabelSHA256 = helper.operationIDSHA256 &&
      (data.dataUploadResultObject.any fun object => object.resource = "configmaps") &&
      containsTarget targets data.dataUploadResultObject &&
      validDigest data.dataUploadUIDSHA256 && validDigest data.archivedDataUploadSHA256 &&
      validDigest data.dataUploadResultPayloadSHA256)
  ensure "DataDownload operation timeout is invalid"
    (helper.dataDownload.any fun data => positiveDuration data.operationTimeout)

structure HelperState where
  previous : String := ""
  seenOperations : List String := []
  covered : List String := []

def checkHelper (context : VolumeRestoreContext) (probes : List (String × DataProbe))
    (state : HelperState) (helper : AsyncHelper) : Except String HelperState := do
  let targets := context.cleanup.targetResources
  let expected := targetInventory targets "datadownloads.velero.io"
  let linked := probes.lookup (targetIdentity helper.targetPVC)
  let identity := targetIdentity helper.object
  ensure ("typed DataDownload helper identity, terminal progress, operation, or PVC linkage is " ++
    "invalid")
    (helper.gvr = dataDownloadGVR &&
      (helper.object.any fun object => object.resource = "datadownloads.velero.io" &&
        object.namespaceName = context.veleroNamespace) &&
      containsTarget targets helper.object &&
      helper.restoreUIDSHA256 = context.restoreUIDSHA256 &&
      helper.ownerRestoreUIDSHA256 = context.restoreUIDSHA256 &&
      helper.restoreNameLabel = validLabelValue context.restoreID &&
      helper.restoreUIDLabelSHA256 = context.restoreUIDSHA256 &&
      helper.terminalStatus = "Completed" && 0 < helper.bytesDone &&
      helper.bytesDone = helper.totalBytes && linked.isSome && helper.targetPVC.isSome &&
      helper.sourcePVC.isSome && helper.sourcePVC = linked.bind DataProbe.source &&
      containsTarget targets helper.targetPVC &&
      containsSource context.cleanup.sourceResources helper.sourcePVC &&
      validDigest helper.operationIDSHA256 && helper.operationIDSHA256 ∉ state.seenOperations &&
      validEvidence helper.evidenceRef helper.evidenceSHA256 &&
      helper.evidenceSHA256 = Platform.dataDownloadEvidenceSHA256 helper &&
      !(state.previous ≠ "" && identity ≤ state.previous) &&
      ((expected.lookup identity).map TargetResource.name).getD "" ≠ "")
  validateDataDownload context (linked.getD default) helper
  ensure "typed DataDownload helper timeline is invalid"
    (timed helper.startedAt && timed helper.completedAt &&
      instant context.restoreStartedAt ≤ instant helper.startedAt &&
      instant helper.startedAt < instant helper.completedAt &&
      instant helper.completedAt ≤ instant context.completedAt)
  return {
    previous := identity
    seenOperations := helper.operationIDSHA256 :: state.seenOperations
    covered := targetIdentity helper.targetPVC :: state.covered }

def validateHelpers (context : VolumeRestoreContext) (probes : List (String × DataProbe))
    (helpers : List AsyncHelper) : Except String Unit := do
  let expected := targetInventory context.cleanup.targetResources "datadownloads.velero.io"
  ensure "CSI data-mover restore requires the exact signed DataDownload set"
    (mapSize expected ≠ 0 && helpers.length = mapSize expected && helpers.length = mapSize probes)
  let state ← helpers.foldlM (checkHelper context probes) {}
  ensure "typed DataDownload helper set does not cover every restored PVC"
    (state.covered.dedup.length = mapSize probes)

/-! ## Artifacts of the provider -/

def validProviderObservation (expectedHandleSHA256 : String) (observation : ProviderObservation)
    (query status : String) : Bool :=
  observation.status = status && observation.artifactHandleSHA256 = expectedHandleSHA256 &&
    validDigest observation.requestSHA256 && validDigest observation.adapterExecutableSHA256 &&
    observation.querySHA256 = query &&
    observation.observationSHA256 = Platform.providerObservationSHA256 query
      observation.requestSHA256 observation.adapterExecutableSHA256 status
      observation.observedAt &&
    canonicalTime observation.observedAt &&
    validEvidence observation.evidenceRef observation.evidenceSHA256

structure AbsenceState where
  previous : Int
  previousHash : String := ""
  seenRequests : List String
  first : Bool := true

def checkAbsence (context : VolumeRestoreContext) (backend : BackendArtifactLineage)
    (presence : ProviderObservation) (state : AbsenceState) (observation : ProviderObservation) :
    Except String AbsenceState := do
  let observedAt := instant observation.observedAt
  ensure "typed provider backend absence observations are invalid or unordered"
    (timed observation.observedAt &&
      validProviderObservation backend.artifactHandleSHA256 observation
        (Platform.providerAbsenceQuerySHA256 backend) "absent" &&
      observation.adapterExecutableSHA256 = presence.adapterExecutableSHA256 &&
      observation.observationSHA256 ≠ state.previousHash &&
      observation.requestSHA256 ∉ state.seenRequests &&
      state.previous < observedAt && observedAt ≤ instant context.cleanup.verifiedAt &&
      instant context.cleanup.cleanupCompletedAt ≤ observedAt &&
      !(!state.first && Instant.sub observedAt state.previous < providerAbsenceMinimumInterval))
  return {
    previous := observedAt
    previousHash := observation.observationSHA256
    seenRequests := observation.requestSHA256 :: state.seenRequests
    first := false }

def checkLineage (context : VolumeRestoreContext) (backend : BackendArtifactLineage) :
    Except String Unit :=
  let targets := context.cleanup.targetResources
  ensure "typed provider backend artifact lineage is missing or invalid"
    (backend.status = "deleted-and-absent" && validRuntimeID backend.providerImplementation &&
      validVersion backend.providerVersion && validDigest backend.artifactHandleSHA256 &&
      backend.sourceKind = "persistent-volume" &&
      (backend.derivedFrom.any fun derived => derived.resource = "persistentvolumes" &&
        derived.namespaceName = "") &&
      containsTarget targets backend.derivedFrom && containsTarget targets backend.targetPVC &&
      containsTarget targets backend.targetPV &&
      backend.lineageSHA256 = Platform.backendLineageSHA256 methodCSIDataMover backend &&
      containsSource context.cleanup.sourceResources backend.sourcePV &&
      (backend.sourcePV.any fun sourcePV => sourcePV.resource = "persistentvolumes" &&
        sourcePV.namespaceName = "" && backend.targetPV.any fun targetPV =>
        sourcePV.name ≠ targetPV.name && sourcePV.uidSHA256 ≠ targetPV.uidSHA256) &&
      validDigest backend.sourceArtifactHandleSHA256 &&
      backend.sourceArtifactHandleSHA256 ≠ backend.artifactHandleSHA256 &&
      backend.presenceObservation.isSome && backend.absenceObservations.length = 2 &&
      backend.sourcePresenceObservation.isSome &&
      validEvidence backend.evidenceRef backend.evidenceSHA256 &&
      backend.evidenceSHA256 = Platform.backendEvidenceSHA256 backend)

def validateBackend (context : VolumeRestoreContext) (backend : BackendArtifactLineage) :
    Except String Unit := do
  checkLineage context backend
  let cleanup := context.cleanup
  ensure "typed provider backend deletion timeline is invalid"
    (timed backend.deletedAt && instant cleanup.cleanupStartedAt ≤ instant backend.deletedAt &&
      instant backend.deletedAt ≤ instant cleanup.cleanupCompletedAt)
  let presence ← require "typed provider backend artifact lineage is missing or invalid"
    backend.presenceObservation
  ensure "typed provider backend presence observation is invalid"
    (timed presence.observedAt &&
      validProviderObservation backend.artifactHandleSHA256 presence
        (Platform.providerAbsenceQuerySHA256 backend) "present" &&
      instant cleanup.validationCompletedAt ≤ instant presence.observedAt &&
      instant presence.observedAt ≤ instant cleanup.cleanupStartedAt)
  let absent ← backend.absenceObservations.foldlM (checkAbsence context backend presence)
    { previous := instant backend.deletedAt, seenRequests := [presence.requestSHA256] }
  let sourcePresence ← require "typed provider backend artifact lineage is missing or invalid"
    backend.sourcePresenceObservation
  ensure "typed provider source continuity observation is invalid"
    (timed sourcePresence.observedAt &&
      validProviderObservation backend.sourceArtifactHandleSHA256 sourcePresence
        (Platform.providerSourceContinuityQuerySHA256 backend) "present" &&
      sourcePresence.adapterExecutableSHA256 = presence.adapterExecutableSHA256 &&
      absent.previous < instant sourcePresence.observedAt &&
      instant cleanup.cleanupCompletedAt ≤ instant sourcePresence.observedAt &&
      instant sourcePresence.observedAt ≤ instant cleanup.verifiedAt &&
      sourcePresence.requestSHA256 ∉ absent.seenRequests)

structure BackendState where
  previous : String := ""
  seenHandles : List String := []

def checkBackend (context : VolumeRestoreContext) (probesByPV : List (String × DataProbe))
    (state : BackendState) (backend : BackendArtifactLineage) : Except String BackendState := do
  let linked := probesByPV.lookup (targetIdentity backend.derivedFrom)
  let identity := backend.sourceKind ++ "\x00" ++ targetIdentity backend.derivedFrom
  ensure "typed provider backend artifacts must have unique signed sources and handles"
    ((linked.any fun probe => backend.targetPVC.isSome && backend.targetPV.isSome &&
        backend.targetPVC = probe.target && backend.targetPV = probe.targetPV &&
        backend.sourcePV.any fun sourcePV => sourcePV.name = probe.sourcePVCVolumeName) &&
      !(state.previous ≠ "" && identity ≤ state.previous) &&
      backend.artifactHandleSHA256 ∉ state.seenHandles)
  validateBackend context backend
  return {
    previous := identity
    seenHandles := backend.artifactHandleSHA256 :: state.seenHandles }

def validateBackends (context : VolumeRestoreContext) (probes : List DataProbe)
    (backends : List BackendArtifactLineage) : Except String Unit := do
  ensure "typed provider backend lineage must cover every restored PV"
    (backends.length = probes.length)
  let probesByPV := (probes.map fun probe => (targetIdentity probe.targetPV, probe)).reverse
  let _ ← backends.foldlM (checkBackend context probesByPV) {}
  return ()

def validateCSIDataMoverVolumeLineage (context : VolumeRestoreContext) (lineage : DataLineage) :
    Except String Unit := do
  validateContext context
  ensure "typed restore data lineage is missing or invalid"
    (lineage.status = "verified" && lineage.method = methodCSIDataMover &&
      0 < lineage.validatedBytes && validDigest lineage.probeSetSHA256 &&
      validDigest lineage.aggregateDataSHA256 && validDigest lineage.providerAbsenceSetSHA256 &&
      validEvidence lineage.evidenceRef lineage.evidenceSHA256 &&
      lineage.evidenceSHA256 = Platform.dataLineageEvidenceSHA256 lineage)
  let probes ← validateProbes context lineage.probes
  ensure "typed restore data probe set digest or byte total is invalid"
    (probes.total = lineage.validatedBytes &&
      lineage.probeSetSHA256 = Platform.probeSetSHA256 lineage.probes &&
      lineage.aggregateDataSHA256 = Platform.aggregateDataSHA256 lineage.probes)
  validateHelpers context probes.byTarget lineage.helpers
  validateBackends context lineage.probes lineage.backendArtifacts
  ensure "typed provider final absence set digest is invalid"
    (lineage.providerAbsenceSetSHA256 = Platform.providerAbsenceSetSHA256 lineage.backendArtifacts)

/-! ## Uploads and the server -/

def validateVeleroRuntime (receipt : VolumeReceipt) : Except String Unit := do
  let runtime := receipt.veleroRuntime
  ensure "Velero runtime attestation is invalid"
    (runtime.gvr = veleroV1ServerStatusRequestGVR &&
      (runtime.object.any fun object => object.resource = "serverstatusrequests.velero.io" &&
        validName object.namespaceName &&
        object.namespaceName = receipt.context.veleroNamespace && validName object.name &&
        validDigest object.uidSHA256 && validDigest object.resourceVersionSHA256 &&
        validDigest object.validatedStateSHA256) &&
      runtime.serverVersion = supportedVeleroVersion &&
      runtime.serverVersion = receipt.veleroVersion && runtime.phase = "Processed" &&
      canonicalTime runtime.processedAt && canonicalTime runtime.observedAt &&
      validEvidence runtime.evidenceRef runtime.evidenceSHA256 &&
      runtime.evidenceSHA256 = Platform.veleroRuntimeEvidenceSHA256 runtime)
  let processed := instant runtime.processedAt
  let observed := instant runtime.observedAt
  ensure "Velero runtime attestation timeline is invalid"
    (instant receipt.context.completedAt < processed &&
      processed - serverStatusAllowedFutureSkew ≤ observed &&
      observed ≤ processed + serverStatusFreshness &&
      observed ≤ instant receipt.context.cleanup.cleanupStartedAt &&
      observed ≤ instant receipt.collectedAt)

def checkUpload (receipt : VolumeReceipt) : Except String Unit := do
  let upload := receipt.dataUpload
  let context := receipt.context
  ensure "Velero DataUpload proof is invalid"
    (upload.gvr = dataUploadGVR && upload.sourcePVCGVR = coreV1PVCGVR &&
      containsSource context.cleanup.sourceResources upload.sourcePVC &&
      upload.namespaceName = context.veleroNamespace && validName upload.name &&
      validDigest upload.uidSHA256 && validDigest upload.resourceVersionSHA256 &&
      upload.ownerBackupUIDSHA256 = context.backupUIDSHA256 &&
      upload.backupUIDLabelSHA256 = context.backupUIDSHA256 &&
      upload.backupNameLabel = validLabelValue context.backupID &&
      (upload.sourcePVC.any fun source => upload.sourcePVCUIDLabelSHA256 = source.uidSHA256) &&
      upload.snapshotType = "CSI" &&
      upload.backupStorageLocation = context.backupStorageLocation &&
      builtInDataMover upload.dataMover && upload.phase = "Completed" && upload.message = "" &&
      upload.nodeOS = "linux" && 0 < upload.bytesDone && upload.bytesDone = upload.totalBytes &&
      validDigest upload.volumeSnapshotSHA256 && validDigest upload.storageClassSHA256 &&
      (upload.snapshotClassSHA256 = "" || validDigest upload.snapshotClassSHA256) &&
      validRuntimeID upload.driver && validDigest upload.snapshotIDSHA256 &&
      validDigest upload.operationIDSHA256 && validDigest upload.archivedObjectSHA256 &&
      upload.dataMoverConfigSHA256 = context.backupUploaderConfigSHA256 &&
      upload.operationTimeout = context.csiSnapshotTimeout &&
      (upload.dataMoverResultSHA256 = "" || validDigest upload.dataMoverResultSHA256) &&
      validEvidence upload.evidenceRef upload.evidenceSHA256 &&
      upload.evidenceSHA256 = Platform.dataUploadEvidenceSHA256 upload &&
      receipt.lineage.validatedBytes = upload.totalBytes)
  ensure "Velero DataUpload proof timeline is invalid"
    (timed upload.startedAt && timed upload.completedAt &&
      timed upload.retainedAfterRestoreCleanupAt && positiveDuration upload.operationTimeout &&
      instant upload.startedAt < instant upload.completedAt &&
      instant upload.completedAt ≤ instant context.backupCompletedAt &&
      instant context.cleanup.verifiedAt ≤ instant upload.retainedAfterRestoreCleanupAt)

def checkUploadResult (receipt : VolumeReceipt) : Except String Unit := do
  let upload := receipt.dataUpload
  let result := receipt.dataUploadResult
  let context := receipt.context
  ensure "Velero DataUploadResult proof is invalid"
    (result.status = "generated-consumed-velero-cleaned" && result.gvr = coreV1CMGVR &&
      (result.object.any fun object => upload.sourcePVC.any fun source =>
        object.namespaceName = context.veleroNamespace &&
        context.cleanup.veleroAutoCleanedResources = [object] &&
        result.pvcNamespaceNameLabel =
          validLabelValue (source.namespaceName ++ "." ++ source.name) &&
        object.namespaceName = upload.namespaceName &&
        (upload.name ++ "-").toList.isPrefixOf object.name.toList &&
        result.sourceNamespace = source.namespaceName) &&
      containsTarget context.cleanup.targetResources result.object &&
      result.dataUploadUIDSHA256 = upload.uidSHA256 && result.dataUploadName = upload.name &&
      result.archivedDataUploadSHA256 = upload.archivedObjectSHA256 &&
      result.restoreUIDSHA256 = context.restoreUIDSHA256 &&
      result.restoreUIDLabelSHA256 = context.restoreUIDSHA256 &&
      result.restoreUIDDataKeySHA256 = context.restoreUIDSHA256 &&
      result.resourceUsage = "DataUpload" && result.sourcePVC.isSome &&
      result.sourcePVC = upload.sourcePVC &&
      result.backupStorageLocation = upload.backupStorageLocation &&
      result.dataMover = upload.dataMover && result.snapshotIDSHA256 = upload.snapshotIDSHA256 &&
      result.snapshotSize = upload.totalBytes && result.nodeOS = upload.nodeOS &&
      result.dataMoverResultSHA256 = upload.dataMoverResultSHA256 &&
      validDigest result.resultPayloadSHA256 &&
      validEvidence result.evidenceRef result.evidenceSHA256 &&
      result.evidenceSHA256 = Platform.dataUploadResultEvidenceSHA256 result)
  ensure "Velero DataUploadResult observation and auto-deletion timeline is invalid"
    (timed result.veleroAutoDeletedAt && canonicalTime result.observedAt &&
      canonicalTime result.veleroAutoDeletedAt &&
      instant result.veleroAutoDeletedAt ≤ instant context.cleanup.validationCompletedAt)

def validateDataUploadBindings (receipt : VolumeReceipt) : Except String Unit := do
  checkUpload receipt
  checkUploadResult receipt
  let upload := receipt.dataUpload
  let result := receipt.dataUploadResult
  let data ← require "Velero DataUploadResult is not linked to one DataDownload"
    (match receipt.lineage.helpers with
      | [helper] => helper.dataDownload
      | _ => none)
  ensure "DataDownload does not match its exact archived DataUploadResult"
    (data.dataUploadUIDSHA256 = upload.uidSHA256 &&
      data.archivedDataUploadSHA256 = upload.archivedObjectSHA256 &&
      data.dataUploadResultPayloadSHA256 = result.resultPayloadSHA256 &&
      data.dataUploadResultObject = result.object &&
      data.snapshotIDSHA256 = upload.snapshotIDSHA256 && data.snapshotSize = upload.totalBytes &&
      data.backupStorageLocation = upload.backupStorageLocation)

/-! ## The receipt -/

def validateCSIDataMoverVolumeReceipt (receipt : VolumeReceipt) : Except String Unit := do
  ensure "restore proof envelope is invalid"
    (receipt.schemaVersion = receiptSchemaVersion &&
      receipt.proofScope = scopeSingleVolumeDataPath &&
      receipt.veleroVersion = supportedVeleroVersion && canonicalTime receipt.collectedAt)
  validateContext receipt.context
  validateVeleroRuntime receipt
  validateCSIDataMoverVolumeLineage receipt.context receipt.lineage
  validateDataUploadBindings receipt
  ensure "restore proof was collected before cleanup verification"
    (instant receipt.context.cleanup.verifiedAt ≤ instant receipt.collectedAt)
  ensure "restore proof receipt digest is invalid"
    (validDigest receipt.receiptSHA256 &&
      receipt.receiptSHA256 = Platform.receiptSHA256 receipt)

end Checks

end CloudRing.RestoreProof
