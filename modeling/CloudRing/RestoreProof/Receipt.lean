import CloudRing.Library.Instant
import CloudRing.Library.Pattern

/-!
# Receipts of a volume restore

The records of a restore proof.
-/

namespace CloudRing.RestoreProof

/-! ## Objects -/

structure GVR where
  (group version resource : String)
  deriving DecidableEq, Repr, Inhabited

def coreV1PVCGVR : GVR := ⟨"", "v1", "persistentvolumeclaims"⟩

def coreV1CMGVR : GVR := ⟨"", "v1", "configmaps"⟩

def veleroV1ServerStatusRequestGVR : GVR := ⟨"velero.io", "v1", "serverstatusrequests"⟩

def dataUploadGVR : GVR := ⟨"velero.io", "v2alpha1", "datauploads"⟩

def dataDownloadGVR : GVR := ⟨"velero.io", "v2alpha1", "datadownloads"⟩

/-- `TargetResource`: a restored object. -/
structure TargetResource where
  (resource namespaceName name : String)
  (uidSHA256 resourceVersionSHA256 validatedStateSHA256 : String)
  deriving DecidableEq, Repr, Inhabited

/-- `SourceResource`: an object that was backed up. -/
structure SourceResource where
  (resource namespaceName name : String)
  uidSHA256 : String
  (resourceVersionBeforeSHA256 resourceVersionAfterSHA256 : String)
  (stateBeforeSHA256 stateAfterSHA256 : String)
  deriving DecidableEq, Repr, Inhabited

def objectIdentity (resource namespaceName name : String) : String :=
  resource ++ "\x00" ++ namespaceName ++ "\x00" ++ name

def SourceResource.identity (resource : SourceResource) : String :=
  objectIdentity resource.resource resource.namespaceName resource.name

def TargetResource.identity (resource : TargetResource) : String :=
  objectIdentity resource.resource resource.namespaceName resource.name

def sourceIdentity (resource : Option SourceResource) : String :=
  (resource.map SourceResource.identity).getD ""

def targetIdentity (resource : Option TargetResource) : String :=
  (resource.map TargetResource.identity).getD ""

/-! ## The context of the restore -/

structure SourceBaseline where
  (schemaVersion capturedAt : String)
  source : SourceResource
  (evidenceRef evidenceSHA256 : String)
  deriving DecidableEq, Repr, Inhabited

structure CleanupContext where
  (validationCompletedAt cleanupStartedAt cleanupCompletedAt verifiedAt : String)
  (targetResources veleroAutoCleanedResources : List TargetResource)
  sourceResources : List SourceResource
  deriving DecidableEq, Repr, Inhabited

structure VolumeRestoreContext where
  veleroNamespace : String
  (restoreID restoreUIDSHA256 restoreResourceVersionSHA256 : String)
  (backupID backupUIDSHA256 backupResourceVersionSHA256 backupStorageLocation : String)
  backupCompletedAt : String
  namespaceMapping : List (String × String)
  (restoreStartedAt completedAt csiSnapshotTimeout : String)
  (backupUploaderConfigSHA256 restoreUploaderConfigSHA256 dataMoverConfigSHA256 : String)
  sourceBaseline : SourceBaseline
  cleanup : CleanupContext
  deriving DecidableEq, Repr, Inhabited

def VolumeRestoreContext.mapped (context : VolumeRestoreContext) (source : String) : String :=
  (context.namespaceMapping.lookup source).getD ""

structure VeleroRuntimeAttestation where
  gvr : GVR
  object : Option TargetResource
  (serverVersion phase processedAt observedAt : String)
  (evidenceRef evidenceSHA256 : String)
  deriving DecidableEq, Repr, Inhabited

/-! ## The lineage of the data -/

structure DataProbe where
  (status implementation version requestSHA256 adapterExecutableSHA256 : String)
  sourceGVR : GVR
  source : Option SourceResource
  targetGVR : GVR
  (target targetPV : Option TargetResource)
  (sourcePVCVolumeName targetPVCVolumeName : String)
  (hashAlgorithm sourceDataSHA256 restoredDataSHA256 : String)
  validatedBytes : Int
  (startedAt completedAt : String)
  observedDurationMilliseconds : Int
  (evidenceRef evidenceSHA256 : String)
  deriving DecidableEq, Repr, Inhabited

structure DataDownloadLineage where
  (targetVolumePVC targetVolumePV targetVolumeNamespace : String)
  targetPV : Option TargetResource
  (backupStorageLocation dataMover snapshotIDSHA256 sourceNamespace dataMoverConfigSHA256 : String)
  cancel : Bool
  (operationTimeout nodeOS : String)
  snapshotSize : Int
  asyncOperationIDLabelSHA256 : String
  dataUploadResultObject : Option TargetResource
  (dataUploadUIDSHA256 archivedDataUploadSHA256 dataUploadResultPayloadSHA256 : String)
  deriving DecidableEq, Repr, Inhabited

structure AsyncHelper where
  gvr : GVR
  object : Option TargetResource
  (restoreUIDSHA256 ownerRestoreUIDSHA256 restoreNameLabel restoreUIDLabelSHA256 : String)
  (terminalStatus startedAt completedAt : String)
  (bytesDone totalBytes : Int)
  operationIDSHA256 : String
  targetPVC : Option TargetResource
  sourcePVC : Option SourceResource
  dataDownload : Option DataDownloadLineage
  (evidenceRef evidenceSHA256 : String)
  deriving DecidableEq, Repr, Inhabited

structure ProviderObservation where
  (status artifactHandleSHA256 observedAt : String)
  (requestSHA256 adapterExecutableSHA256 querySHA256 observationSHA256 : String)
  (evidenceRef evidenceSHA256 : String)
  deriving DecidableEq, Repr, Inhabited

structure BackendArtifactLineage where
  (status providerImplementation providerVersion artifactHandleSHA256 sourceKind : String)
  (derivedFrom targetPVC targetPV : Option TargetResource)
  sourcePV : Option SourceResource
  (sourceArtifactHandleSHA256 lineageSHA256 deletedAt : String)
  presenceObservation : Option ProviderObservation
  absenceObservations : List ProviderObservation
  sourcePresenceObservation : Option ProviderObservation
  (evidenceRef evidenceSHA256 : String)
  deriving DecidableEq, Repr, Inhabited

structure DataLineage where
  (status method : String)
  probes : List DataProbe
  (probeSetSHA256 aggregateDataSHA256 : String)
  validatedBytes : Int
  helpers : List AsyncHelper
  backendArtifacts : List BackendArtifactLineage
  providerAbsenceSetSHA256 : String
  (evidenceRef evidenceSHA256 : String)
  deriving DecidableEq, Repr, Inhabited

/-! ## The receipt -/

structure DataUploadProof where
  gvr : GVR
  (namespaceName name uidSHA256 resourceVersionSHA256 : String)
  (ownerBackupUIDSHA256 backupNameLabel backupUIDLabelSHA256 sourcePVCUIDLabelSHA256 : String)
  sourcePVCGVR : GVR
  sourcePVC : Option SourceResource
  (snapshotType volumeSnapshotSHA256 storageClassSHA256 snapshotClassSHA256 driver : String)
  (backupStorageLocation dataMover dataMoverConfigSHA256 : String)
  (operationIDSHA256 operationTimeout phase message startedAt completedAt : String)
  (snapshotIDSHA256 nodeOS dataMoverResultSHA256 : String)
  (bytesDone totalBytes : Int)
  (archivedObjectSHA256 retainedAfterRestoreCleanupAt : String)
  (evidenceRef evidenceSHA256 : String)
  deriving DecidableEq, Repr, Inhabited

structure DataUploadResultProof where
  status : String
  gvr : GVR
  object : Option TargetResource
  (dataUploadUIDSHA256 dataUploadName archivedDataUploadSHA256 : String)
  (restoreUIDSHA256 restoreUIDLabelSHA256 restoreUIDDataKeySHA256 : String)
  (pvcNamespaceNameLabel resourceUsage : String)
  sourcePVC : Option SourceResource
  (backupStorageLocation dataMover snapshotIDSHA256 sourceNamespace : String)
  snapshotSize : Int
  (nodeOS dataMoverResultSHA256 resultPayloadSHA256 : String)
  (observedAt veleroAutoDeletedAt : String)
  (evidenceRef evidenceSHA256 : String)
  deriving DecidableEq, Repr, Inhabited

structure VolumeReceipt where
  (schemaVersion proofScope veleroVersion : String)
  veleroRuntime : VeleroRuntimeAttestation
  collectedAt : String
  context : VolumeRestoreContext
  lineage : DataLineage
  dataUpload : DataUploadProof
  dataUploadResult : DataUploadResultProof
  receiptSHA256 : String
  deriving DecidableEq, Repr, Inhabited

/-! ## What is not modelled -/

/-- The functions of the standard library, and the digests of the canonical JSON texts of the
records. Times are nanoseconds since the epoch. -/
class Platform where
  parseTime : String → Option Int
  formatTime : Int → String
  parseDuration : String → Option Int
  sha256 : String → String
  veleroRuntimeEvidenceSHA256 : VeleroRuntimeAttestation → String
  sourceBaselineEvidenceSHA256 : SourceBaseline → String
  probeSetSHA256 : List DataProbe → String
  aggregateDataSHA256 : List DataProbe → String
  dataDownloadEvidenceSHA256 : AsyncHelper → String
  backendLineageSHA256 : String → BackendArtifactLineage → String
  providerAbsenceQuerySHA256 : BackendArtifactLineage → String
  providerSourceContinuityQuerySHA256 : BackendArtifactLineage → String
  providerObservationSHA256 : String → String → String → String → String → String
  backendEvidenceSHA256 : BackendArtifactLineage → String
  providerAbsenceSetSHA256 : List BackendArtifactLineage → String
  dataLineageEvidenceSHA256 : DataLineage → String
  dataUploadEvidenceSHA256 : DataUploadProof → String
  dataUploadResultEvidenceSHA256 : DataUploadResultProof → String
  receiptSHA256 : VolumeReceipt → String

end CloudRing.RestoreProof
