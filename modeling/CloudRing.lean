import CloudRing.StrictJson.DecodeExact
import CloudRing.TransactionalState.RoundTrip
import CloudRing.TransactionalState.Revisions
import CloudRing.OpenBaoApply.LeaseExclusion
import CloudRing.OpenBaoApply.Outcomes
import CloudRing.BackupDrill.Safety
import CloudRing.Iam.Interference
import CloudRing.ControlPlane.SessionSafety
import CloudRing.ScratchNamespace.Safety
import CloudRing.GitOpsOwnership.InventoryEntry
import CloudRing.GitOpsOwnership.FamilyOrder
import CloudRing.RestoreProof.Safety
import CloudRing.Identity.Rotation
import CloudRing.ProviderPorts.Histories
import CloudRing.OpenBaoApply.Health
import CloudRing.TransactionalState.Pages
import CloudRing.PrivateArtifact.Publication
import CloudRing.OpenBaoApply.Binding
import CloudRing.RoadmapProgram.Evidence
import CloudRing.RoadmapProgram.Transitions
import CloudRing.CnpgRecovery.WalFile
import CloudRing.SourceCheck.Coverage
import CloudRing.SourceCheck.TagChain
import CloudRing.SourceCheck.PolicyPath
import CloudRing.EtcdRecovery.Worker
import CloudRing.Iam.Integrity
import CloudRing.BackupDrill.Disclosure
import CloudRing.DevInstall.Inventory
import CloudRing.TransactionalState.RecoveryContract
import CloudRing.Registry.Dependencies
import CloudRing.Registry.PackageRef
import CloudRing.OcsSdk.Envelope
