import CloudRing.GitOpsOwnership.Contract
import CloudRing.Library.Json.Styles

/-!
# The ownership verifier

`Verify` never stops at a finding: it collects blockers, and its exit code is zero only if there are
none.
-/

namespace CloudRing.GitOpsOwnership

open Library

/-! ## Snapshots and reports -/

structure SourceArtifactSnapshot where
  (kind namespaceName name : String)
  generation : Int
  observedGeneration : Int
  ready : Bool
  (revision digest : String)
  deriving DecidableEq, Repr, Inhabited

/-- `Snapshot`, without the resources of the older producers, which are never read. -/
structure Snapshot where
  kustomizations : List KustomizationSnapshot
  kustomizationsComplete : Bool
  kustomizationsRVHash : String
  kustomizationsPageCount : Int
  kustomizationsItemCount : Int
  collections : List (String × FamilyCollection)
  sourceArtifact : SourceArtifactSnapshot
  (acceptedSourceRevision acceptedArtifactDigest acceptedPublicGitlinkSHA
    observedPublicGitlinkSHA : String)
  deriving Repr, Inhabited

structure Blocker where
  (id message family object : String)
  deriving DecidableEq, Repr, Inhabited

structure SourceArtifactReport where
  (kind namespaceName name : String)
  ready : Bool
  (revision digest acceptedRevision acceptedDigest expectedPublicGitlinkSHA acceptedPublicGitlinkSHA
    observedPublicGitlinkSHA : String)
  publicGitlinkExact : Bool
  exact : Bool
  deriving DecidableEq, Repr, Inhabited

structure ScopeReport where
  name : String
  (complete allCriticalFamiliesDeclared allSelectedRootsDeclared : Bool)
  (criticalFamilyCount declaredFamilyCount selectedRootCount observedRootCount : Nat)
  allSelectedRootsObserved : Bool
  closedWorldComplete : Bool
  nonClaim : String
  sourceMissingFamilies : List String
  deriving DecidableEq, Repr, Inhabited

structure RootReport where
  (namespaceName name : String)
  observed : Bool
  ready : Bool := false
  prune : Bool := false
  suspend : Bool := false
  lastAppliedRevision : String := ""
  specSHA256 : String := ""
  specExact : Bool := false
  inventoryCount : Nat := 0
  deriving DecidableEq, Repr, Inhabited

structure FamilyReport where
  id : String
  critical : Bool
  sourceState : String
  expectedCount : Nat
  expectedOwner : String
  observedCount : Nat := 0
  managedCount : Nat := 0
  allowlistedCount : Nat := 0
  externalCount : Nat := 0
  unexpectedCount : Nat := 0
  unmanagedCount : Nat := 0
  discoveryMode : String
  discoveryScopes : Nat
  collectionComplete : Bool := false
  resourceVersionSHA256 : String := ""
  pageCount : Int := 0
  itemCount : Int := 0
  closedWorldComplete : Bool := false
  ownershipComplete : Bool := false
  deriving DecidableEq, Repr, Inhabited

structure DriftReport where
  (mode target expectedOwner : String)
  targetInventoryOwned : Bool
  liveMutationPerformed : Bool
  requiredObservations : List String
  nextAction : String
  deriving DecidableEq, Repr, Inhabited

structure Report where
  (apiVersion kind contract status : String)
  (requiredFamilyCount observedResourceCount managedResourceCount allowlistedResourceCount
    externalResourceCount unexpectedResourceCount unmanagedResourceCount : Nat)
  (closedWorldComplete pruneEligible pruneChanged liveMutationPerformed : Bool)
  families : List FamilyReport
  driftProof : DriftReport
  blockers : List Blocker
  scope : ScopeReport
  roots : List RootReport
  nonClaims : List String
  sourceArtifact : SourceArtifactReport
  deriving DecidableEq, Repr, Inhabited

def reportAPIVersion : String := "cloudring.gitops.ownership/v2"

def statusReady : String := "ready"

def statusBlocked : String := "blocked"

/-- `block`, if a condition holds. -/
def blockIf (condition : Bool) (id message family object : String) : List Blocker :=
  if condition then [⟨id, message, family, object⟩] else []

@[simp] theorem blockIf_eq_nil {condition : Bool} {id message family object : String} :
    blockIf condition id message family object = [] ↔ condition = false := by
  cases condition <;> simp [blockIf]

/-! ## The source -/

def canonical (pattern : String → Bool) (value : String) : String :=
  if pattern value then value else ""

def canonicalSourceRevision (value : String) : String :=
  canonical acceptedSourceRevisionPattern value

def canonicalArtifactDigest (value : String) : String := canonical artifactDigestPattern value

def canonicalGitSHA1 (value : String) : String := canonical gitSHA1Pattern value

def validateAcceptedSource (revision digest : String) : Except String Unit := do
  ensure "accepted source revision must match main@sha1:<40 lowercase hex>"
    (acceptedSourceRevisionPattern revision)
  ensure "accepted artifact digest must match sha256:<64 lowercase hex>"
    (artifactDigestPattern digest)

def sourceIdentityExact (contract : Contract) (snapshot : Snapshot) : Bool :=
  snapshot.sourceArtifact.kind = contract.sourceArtifact.kind &&
    snapshot.sourceArtifact.namespaceName = contract.sourceArtifact.namespaceName &&
    snapshot.sourceArtifact.name = contract.sourceArtifact.name

def sourceBlockers (contract : Contract) (snapshot : Snapshot) : List Blocker :=
  let source := snapshot.sourceArtifact
  let acceptedValid := gitSHA1Pattern snapshot.acceptedPublicGitlinkSHA
  let observedValid := gitSHA1Pattern snapshot.observedPublicGitlinkSHA
  blockIf (!(validateAcceptedSource snapshot.acceptedSourceRevision
      snapshot.acceptedArtifactDigest).isOk) "accepted_source_receipt_invalid"
    "accepted source revision and artifact digest are mandatory exact canonical values" "" "" ++
  blockIf (!sourceIdentityExact contract snapshot) "source_artifact_identity_mismatch"
    "live source artifact identity differs from the contracted GitRepository" "" "" ++
  blockIf (source.generation < 1 || source.observedGeneration ≠ source.generation || !source.ready)
    "source_artifact_not_ready"
    "live GitRepository must be Ready at its current observed generation" "" "" ++
  blockIf (source.revision ≠ snapshot.acceptedSourceRevision) "source_artifact_revision_mismatch"
    "live GitRepository artifact revision differs from the accepted Enterprise revision" "" "" ++
  blockIf (source.digest ≠ snapshot.acceptedArtifactDigest) "source_artifact_digest_mismatch"
    "live GitRepository artifact digest differs from the accepted artifact digest" "" "" ++
  (if !acceptedValid then
    blockIf true "accepted_public_gitlink_invalid"
      "accepted public gitlink receipt must be one canonical lowercase SHA-1" "" ""
  else
    blockIf (snapshot.acceptedPublicGitlinkSHA ≠ contract.sourceArtifact.publicGitlinkSHA)
      "accepted_public_gitlink_mismatch"
      "accepted public gitlink receipt differs from the contracted CloudRING revision" "" "") ++
  (if !observedValid then
    blockIf true "observed_public_gitlink_invalid"
      "observed public gitlink must be one canonical lowercase SHA-1" "" ""
  else if acceptedValid &&
      snapshot.observedPublicGitlinkSHA ≠ snapshot.acceptedPublicGitlinkSHA then
    blockIf true "public_gitlink_receipt_mismatch"
      "observed downstream public gitlink differs from the accepted public gitlink receipt" "" ""
  else
    blockIf (acceptedValid &&
        snapshot.observedPublicGitlinkSHA ≠ contract.sourceArtifact.publicGitlinkSHA)
      "public_gitlink_mismatch"
      "observed downstream public gitlink differs from the contracted CloudRING revision" "" "")

def sourceArtifactReport (contract : Contract) (snapshot : Snapshot) : SourceArtifactReport :=
  let source := snapshot.sourceArtifact
  let publicGitlinkExact := gitSHA1Pattern snapshot.acceptedPublicGitlinkSHA &&
    gitSHA1Pattern snapshot.observedPublicGitlinkSHA &&
    snapshot.acceptedPublicGitlinkSHA = contract.sourceArtifact.publicGitlinkSHA &&
    snapshot.observedPublicGitlinkSHA = snapshot.acceptedPublicGitlinkSHA
  { kind := contract.sourceArtifact.kind
    namespaceName := contract.sourceArtifact.namespaceName
    name := contract.sourceArtifact.name
    ready := source.ready
    revision := canonicalSourceRevision source.revision
    digest := canonicalArtifactDigest source.digest
    acceptedRevision := canonicalSourceRevision snapshot.acceptedSourceRevision
    acceptedDigest := canonicalArtifactDigest snapshot.acceptedArtifactDigest
    expectedPublicGitlinkSHA := contract.sourceArtifact.publicGitlinkSHA
    acceptedPublicGitlinkSHA := canonicalGitSHA1 snapshot.acceptedPublicGitlinkSHA
    observedPublicGitlinkSHA := canonicalGitSHA1 snapshot.observedPublicGitlinkSHA
    publicGitlinkExact
    exact := (validateAcceptedSource snapshot.acceptedSourceRevision
        snapshot.acceptedArtifactDigest).isOk &&
      sourceIdentityExact contract snapshot && source.generation > 0 &&
      source.observedGeneration = source.generation && source.ready &&
      source.revision = snapshot.acceptedSourceRevision &&
      source.digest = snapshot.acceptedArtifactDigest && publicGitlinkExact }

/-! ## Inventories -/

def cutLast (separator : Char) (value : String) : Option (String × String) :=
  match Pattern.cut separator (String.ofList value.toList.reverse) with
  | (_, none) => none
  | (after, some before) =>
    some (String.ofList before.toList.reverse, String.ofList after.toList.reverse)

/-- `strings.ReplaceAll` of two underscores by a colon. -/
def colons : List Char → List Char
  | '_' :: '_' :: rest => ':' :: colons rest
  | char :: rest => char :: colons rest
  | [] => []

section Verification

variable [Runtime]

def parseInventoryEntry (entry : InventoryEntry) : Except String ResourceRef := do
  ensure "Flux inventory entry id/version is invalid" (validDNS1035Label entry.version)
  let (namespaceName, afterNamespace) ← require "Flux inventory entry id/version is invalid"
    (match Pattern.cut '_' entry.id with
      | (before, some after) => some (before, after)
      | (_, none) => none)
  let (beforeKind, kind) ← require "Flux inventory entry id/version is invalid"
    (cutLast '_' afterNamespace)
  let (name, group) ← require "Flux inventory entry id/version is invalid"
    (cutLast '_' beforeKind)
  let ref : ResourceRef := {
    apiVersion := if group = "" then entry.version else group ++ "/" ++ entry.version
    kind
    namespaceName
    name := String.ofList (colons name.toList) }
  validateRef ref
  return ref

def refInAnyFamilyScope (ref : ResourceRef) (families : List ResourceFamily) : Bool :=
  families.any fun family => family.sourceState = "sourced" && refInFamilyScope ref family

def parsedInventory (root : KustomizationSnapshot) : List ResourceRef :=
  root.inventory.filterMap fun entry => (parseInventoryEntry entry).toOption

def inventoryInvalid (root : KustomizationSnapshot) : Bool :=
  root.inventory.any fun entry => !(parseInventoryEntry entry).isOk

def sourceMatches (source : SourceArtifactContract) (root : KustomizationSnapshot) : Bool :=
  root.sourceRef.kind = source.kind && root.sourceRef.namespaceName = source.namespaceName &&
    root.sourceRef.name = source.name

def relevant (contract : Contract) (root : KustomizationSnapshot) : Bool :=
  kustomizationKey root ∈ contract.scope.selectedRoots.map namespacedNameKey ||
    sourceMatches contract.sourceArtifact root ||
    (parsedInventory root).any (refInAnyFamilyScope · contract.requiredFamilies) ||
    inventoryInvalid root

/-- The result of `inventoryOwners`: the owners of every key, in the order they were found, the
roots, newest first, and the blockers. -/
structure Inventories where
  owners : List (String × String) := []
  roots : List (String × KustomizationSnapshot) := []
  blockers : List Blocker := []

def rootBlockers (known : Bool) (root : KustomizationSnapshot) : List Blocker :=
  let valid := validDNSLabel root.namespaceName && validDNSLabel root.name
  let evidenceRoot := if valid then kustomizationKey root else ""
  blockIf (!valid) "flux_kustomization_identity_invalid"
    "relevant Flux Kustomization namespace/name is invalid" "" "" ++
  blockIf (inventoryInvalid root) "flux_inventory_entry_invalid"
    ("relevant Flux inventory contains an invalid entry, so closed-world intersection " ++
      "cannot be excluded") "" evidenceRoot ++
  blockIf known "flux_kustomization_duplicate"
    "selected Flux query returned the same Kustomization more than once" "" evidenceRoot ++
  blockIf (root.generation < 1 || root.observedGeneration ≠ root.generation)
    "flux_generation_not_observed"
    "Flux Kustomization has not observed its current generation" "" evidenceRoot ++
  blockIf (!root.ready) "flux_kustomization_not_ready"
    "Flux Kustomization Ready condition is not True" "" evidenceRoot ++
  blockIf (root.suspend ≠ some false) "flux_kustomization_suspended"
    "selected Flux Kustomization is suspended and cannot satisfy readiness" "" evidenceRoot ++
  blockIf root.inventory.isEmpty "flux_inventory_empty"
    "Flux Kustomization status.inventory is empty" "" evidenceRoot ++
  blockIf (root.prune ≠ some false) "prune_enabled_before_gate"
    ("all selected ownership roots must retain prune=false until a ready report and separate " ++
      "reviewed change") "" evidenceRoot

def addRoot (contract : Contract) (state : Inventories) (root : KustomizationSnapshot) :
    Inventories :=
  if relevant contract root then
    { owners := state.owners ++
        (parsedInventory root).map fun ref => (refKey ref, kustomizationKey root)
      roots := (kustomizationKey root, root) :: state.roots
      blockers := state.blockers ++
        rootBlockers (state.roots.lookup (kustomizationKey root)).isSome root }
  else state

def inventoryOwners (contract : Contract) (kustomizations : List KustomizationSnapshot) :
    Inventories :=
  kustomizations.foldl (addRoot contract) {}

def Inventories.ownersOf (state : Inventories) (key : String) : List String :=
  ((state.owners.filter fun pair => pair.1 = key).map Prod.snd).insertionSort (· ≤ ·)

def hasDuplicateKustomizations (kustomizations : List KustomizationSnapshot) : Bool :=
  !decide (kustomizations.map kustomizationKey).Nodup

def kustomizationsConsistent (snapshot : Snapshot) : Bool :=
  snapshot.kustomizationsComplete && artifactDigestPattern snapshot.kustomizationsRVHash &&
    1 ≤ snapshot.kustomizationsPageCount &&
    snapshot.kustomizationsPageCount ≤ maxCollectionPages &&
    snapshot.kustomizationsItemCount = snapshot.kustomizations.length &&
    snapshot.kustomizationsItemCount ≤ maxCollectionObjects &&
    !hasDuplicateKustomizations snapshot.kustomizations

def undeclaredBlockers (contract : Contract) (state : Inventories) : List Blocker :=
  (state.roots.map Prod.fst).dedup.flatMap fun key =>
    let evidenceRoot := match Pattern.cut '/' key with
      | (namespaceName, some name) =>
        if validDNSLabel namespaceName && validDNSLabel name then key else ""
      | (_, none) => ""
    blockIf (key ∉ contract.scope.selectedRoots.map namespacedNameKey)
      "undeclared_relevant_flux_root"
      ("an undeclared Flux root uses the accepted source or intersects a closed-world " ++
        "resource scope") "" evidenceRoot

/-! ## Selected roots -/

def equalBoolPointer (left right : Option Bool) : Bool := left.isSome && left = right

/-- A reference as `json.Marshal` writes it; an empty namespace is left out. -/
def fluxReferenceJson (ref : FluxObjectReference) : Json :=
  .object ([("kind", .string ref.kind)] ++
    (if ref.namespaceName = "" then [] else [("namespace", .string ref.namespaceName)]) ++
    [("name", .string ref.name)])

/-- A flag that may be missing, as `json.Marshal` writes it. -/
def flagJson : Option Bool → Json
  | none => .null
  | some flag => .bool flag

/-- A root specification as `json.Marshal` writes it. -/
def rootSpecJson (spec : RootSpecContract) : Json :=
  .object [("namespace", .string spec.namespaceName), ("name", .string spec.name),
    ("suspend", flagJson spec.suspend), ("prune", flagJson spec.prune),
    ("deletionPolicy", .string spec.deletionPolicy), ("wait", flagJson spec.wait),
    ("sourceRef", fluxReferenceJson spec.sourceRef), ("path", .string spec.path),
    ("dependsOn", match spec.dependsOn with
      | none => .null
      | some references => .array (references.map fluxReferenceJson))]

def specSHA256 (spec : RootSpecContract) : String :=
  "sha256:" ++ Runtime.sha256 (String.ofList (Json.goStyle.render (rootSpecJson spec)))

def rootSpec (root : KustomizationSnapshot) : RootSpecContract where
  namespaceName := root.namespaceName
  name := root.name
  suspend := root.suspend
  prune := root.prune
  deletionPolicy := root.deletionPolicy
  wait := root.wait
  sourceRef := root.sourceRef
  path := root.path
  dependsOn := root.dependsOn

def rootSpecSHA256 (root : KustomizationSnapshot) : String := specSHA256 (rootSpec root)

def declaredSpec (contract : Contract) (key : String) : RootSpecContract :=
  (contract.rootSpecs.reverse.find? fun spec => rootSpecKey spec = key).getD default

def specBlockers (snapshot : Snapshot) (key : String) (root : KustomizationSnapshot)
    (expected : RootSpecContract) : List Blocker :=
  blockIf (!equalBoolPointer root.suspend expected.suspend) "flux_kustomization_suspended"
    "selected Flux Kustomization suspend state differs from the active readiness contract" "" key ++
  blockIf (!equalBoolPointer root.prune expected.prune) "flux_prune_mismatch"
    "selected Flux Kustomization prune state differs from contract" "" key ++
  blockIf (root.deletionPolicy ≠ expected.deletionPolicy) "flux_deletion_policy_mismatch"
    "selected Flux Kustomization deletionPolicy differs from contract" "" key ++
  blockIf (!equalBoolPointer root.wait expected.wait) "flux_wait_mismatch"
    "selected Flux Kustomization wait behavior differs from contract" "" key ++
  blockIf (root.sourceRef ≠ expected.sourceRef) "flux_source_ref_mismatch"
    "selected Flux Kustomization sourceRef differs from contract" "" key ++
  blockIf (root.path ≠ expected.path) "flux_path_mismatch"
    "selected Flux Kustomization path differs from contract" "" key ++
  blockIf (root.dependsOn ≠ expected.dependsOn) "flux_dependencies_mismatch"
    "selected Flux Kustomization dependsOn order differs from contract" "" key ++
  blockIf (root.lastAppliedRevision ≠ snapshot.acceptedSourceRevision)
    "flux_last_applied_revision_mismatch"
    ("selected Flux Kustomization lastAppliedRevision differs from the accepted Enterprise " ++
      "revision") "" key

def specExact (root : KustomizationSnapshot) (expected : RootSpecContract) : Bool :=
  equalBoolPointer root.suspend expected.suspend && equalBoolPointer root.prune expected.prune &&
    root.deletionPolicy = expected.deletionPolicy && equalBoolPointer root.wait expected.wait &&
    root.sourceRef = expected.sourceRef && root.path = expected.path &&
    root.dependsOn = expected.dependsOn

def reportRoot (contract : Contract) (snapshot : Snapshot) (state : Inventories)
    (declared : NamespacedName) : RootReport × List Blocker :=
  let key := namespacedNameKey declared
  match state.roots.lookup key with
  | none =>
    ({ namespaceName := declared.namespaceName, name := declared.name, observed := false },
      blockIf true "selected_flux_root_missing"
        "scope-selected Flux root was not returned by the live query" "" key)
  | some root =>
    ({ namespaceName := declared.namespaceName
       name := declared.name
       observed := true
       ready := root.ready
       prune := root.prune.getD false
       suspend := root.suspend.getD false
       lastAppliedRevision := canonicalSourceRevision root.lastAppliedRevision
       specSHA256 := rootSpecSHA256 root
       specExact := specExact root (declaredSpec contract key)
       inventoryCount := root.inventory.length },
      specBlockers snapshot key root (declaredSpec contract key))

/-! ## Families -/

structure Tally where
  observed : List String := []
  observedCount : Nat := 0
  managedCount : Nat := 0
  externalCount : Nat := 0
  unexpectedCount : Nat := 0
  unmanagedCount : Nat := 0
  blockers : List Blocker := []

def Tally.block (tally : Tally) (id message family object : String) : Tally :=
  { tally with blockers := tally.blockers ++ [⟨id, message, family, object⟩] }

def observeObject (family : ResourceFamily) (ownersOf : String → List String) (tally : Tally)
    (ref : ResourceRef) : Tally :=
  let key := refKey ref
  let expected := family.expectedObjects.map refKey
  let external := family.discovery.externalObjects.map refKey
  let evidenceObject := if key ∈ expected ∨ key ∈ external then key else ""
  if key ∈ tally.observed then
    tally.block "duplicate_resource_observation"
      "live collection returned the same critical resource more than once" family.id evidenceObject
  else
    let tally := { tally with
      observed := key :: tally.observed, observedCount := tally.observedCount + 1 }
    if !refInFamilyScope ref family then
      tally.block "resource_family_identity_mismatch"
        "observed object does not match the contracted family identity and scope" family.id
        evidenceObject
    else if key ∈ external then
      let tally := { tally with externalCount := tally.externalCount + 1 }
      if ownersOf key ≠ [] then
        Tally.block { tally with unmanagedCount := tally.unmanagedCount + 1 }
          "external_object_flux_owned"
          "reviewed external object must not be inventory-owned by a selected or relevant Flux root"
          family.id key
      else tally
    else if key ∉ expected then
      Tally.block { tally with unexpectedCount := tally.unexpectedCount + 1 }
        "undeclared_resource_in_closed_world_scope"
        "unfiltered live collection returned an object absent from expectedObjects and externalObjects"
        family.id ""
    else
      match ownersOf key with
      | [owner] =>
        if owner ≠ namespacedNameKey family.expectedOwner then
          tally.block "resource_wrong_flux_owner"
            "required live object is inventory-owned by a different selected Flux root"
            family.id key
        else { tally with managedCount := tally.managedCount + 1 }
      | [] =>
        Tally.block { tally with unmanagedCount := tally.unmanagedCount + 1 }
          "resource_not_flux_managed"
          "required live object is absent from selected Flux status.inventory entries" family.id key
      | _ :: _ :: _ =>
        tally.block "multiple_flux_owners"
          "object occurs in more than one Flux inventory" family.id key

def missingBlockers (observed : List String) (family : ResourceFamily) : List Blocker :=
  (family.expectedObjects.flatMap fun ref =>
    blockIf (refKey ref ∉ observed) "declared_resource_missing"
      "declared critical resource was not returned by the live family query" family.id
      (refKey ref)) ++
  (family.discovery.externalObjects.flatMap fun ref =>
    blockIf (refKey ref ∉ observed) "declared_external_resource_missing"
      "reviewed external object was not returned by the closed-world live query" family.id
      (refKey ref))

def familyReportHead (family : ResourceFamily) : FamilyReport where
  id := family.id
  critical := family.critical
  sourceState := family.sourceState
  expectedCount := family.expectedObjects.length
  expectedOwner := namespacedNameKey family.expectedOwner
  discoveryMode := family.discovery.mode
  discoveryScopes :=
    if !family.namespaced && family.sourceState = "sourced" then 1
    else family.discovery.namespaces.length

def collectionMetaValid (family : ResourceFamily) (collection : FamilyCollection) : Bool :=
  collection.complete && artifactDigestPattern collection.resourceVersionSHA256 &&
    (familyReportHead family).discoveryScopes ≤ collection.pageCount &&
    collection.pageCount ≤ maxCollectionPages &&
    collection.itemCount = collection.objects.length &&
    collection.itemCount ≤ maxCollectionObjects

def reportCollection (family : ResourceFamily) (ownersOf : String → List String)
    (collection : FamilyCollection) : FamilyReport × List Blocker :=
  let valid := collectionMetaValid family collection
  let tally := collection.objects.foldl (observeObject family ownersOf) {}
  let external := family.discovery.externalObjects.length
  let closedWorldComplete := valid && tally.unexpectedCount = 0 && tally.unmanagedCount = 0 &&
    tally.observedCount = family.expectedObjects.length + tally.externalCount
  let ownershipComplete := closedWorldComplete &&
    tally.managedCount = family.expectedObjects.length && tally.externalCount = external
  ({ familyReportHead family with
      collectionComplete := collection.complete
      resourceVersionSHA256 := canonicalArtifactDigest collection.resourceVersionSHA256
      pageCount := collection.pageCount
      itemCount := collection.itemCount
      observedCount := tally.observedCount
      managedCount := tally.managedCount
      externalCount := tally.externalCount
      unexpectedCount := tally.unexpectedCount
      unmanagedCount := tally.unmanagedCount
      closedWorldComplete
      ownershipComplete },
    blockIf (!valid) "family_collection_incomplete"
      "closed-world family collection is incomplete or internally inconsistent" family.id "" ++
    tally.blockers ++ missingBlockers tally.observed family ++
    blockIf ((tally.observedCount : Int) < family.minimumCount + external)
      "required_family_below_minimum"
      ("observed " ++ toString tally.observedCount ++ " objects, requires exactly " ++
        toString family.minimumCount ++ " expected plus " ++ toString external ++
        " reviewed external objects") family.id "" ++
    blockIf (tally.managedCount = 0) "required_family_has_no_managed_objects"
      "at least one object in every required family must be Flux inventory-owned" family.id "" ++
    blockIf (!ownershipComplete) "critical_family_ownership_incomplete"
      ("closed-world scope must contain exactly the declared expected and external objects, " ++
        "with every expected object uniquely owned by its contracted Flux root") family.id "")

def reportFamily (snapshot : Snapshot) (ownersOf : String → List String)
    (family : ResourceFamily) : FamilyReport × List Blocker :=
  if family.sourceState = "not-sourced" then
    (familyReportHead family,
      blockIf true "critical_family_source_missing" family.missingSourceBlocker family.id "")
  else
    match snapshot.collections.lookup family.id with
    | none => (familyReportHead family,
        blockIf true "required_family_unobserved"
          "closed-world collection did not return this required resource family" family.id "")
    | some collection => reportCollection family ownersOf collection

/-! ## The verifier -/

def pruneBlockers (contract : Contract) (state : Inventories) : List Blocker :=
  contract.pruneGate.flatMap fun gated =>
    blockIf (state.roots.lookup (namespacedNameKey gated)).isNone
      "prune_gate_kustomization_missing"
      "prune gate Kustomization was not returned by the selected live query" ""
      (namespacedNameKey gated)

def driftTargetOwned (contract : Contract) (state : Inventories) : Bool :=
  state.ownersOf (refKey contract.driftProof.target) =
    [namespacedNameKey contract.driftProof.expectedOwner]

def verifyBlockers (contract : Contract) (snapshot : Snapshot) : List Blocker :=
  let state := inventoryOwners contract snapshot.kustomizations
  sourceBlockers contract snapshot ++
  blockIf (!kustomizationsConsistent snapshot) "flux_root_collection_incomplete"
    ("unfiltered all-namespace Flux Kustomization collection is incomplete or internally " ++
      "inconsistent") "" "" ++
  state.blockers ++ undeclaredBlockers contract state ++
  (contract.scope.selectedRoots.flatMap fun declared =>
    (reportRoot contract snapshot state declared).2) ++
  (contract.requiredFamilies.flatMap fun family =>
    (reportFamily snapshot state.ownersOf family).2) ++
  pruneBlockers contract state ++
  blockIf (!driftTargetOwned contract state) "drift_target_ownership_unproven"
    "drift target is not uniquely present in the expected Flux inventory" ""
    (refKey contract.driftProof.target)

def scopeReport (contract : Contract) (snapshot : Snapshot) : ScopeReport :=
  let state := inventoryOwners contract snapshot.kustomizations
  let families := contract.requiredFamilies.map fun family =>
    (reportFamily snapshot state.ownersOf family).1
  let observed := (contract.scope.selectedRoots.map fun declared =>
    (reportRoot contract snapshot state declared).1).countP RootReport.observed
  { name := contract.scope.name
    complete := contract.scope.complete
    allCriticalFamiliesDeclared := true
    allSelectedRootsDeclared := true
    criticalFamilyCount := contract.scope.criticalFamilyIDs.length
    declaredFamilyCount := contract.requiredFamilies.length
    selectedRootCount := contract.scope.selectedRoots.length
    observedRootCount := observed
    allSelectedRootsObserved := observed = contract.scope.selectedRoots.length
    closedWorldComplete := kustomizationsConsistent snapshot &&
      families.all FamilyReport.closedWorldComplete
    nonClaim := contract.scope.nonClaim
    sourceMissingFamilies := ((contract.requiredFamilies.filter fun family =>
      family.sourceState = "not-sourced").map ResourceFamily.id).insertionSort (· ≤ ·) }

def verifyReport (contract : Contract) (snapshot : Snapshot) : Report :=
  let state := inventoryOwners contract snapshot.kustomizations
  let families := contract.requiredFamilies.map fun family =>
    (reportFamily snapshot state.ownersOf family).1
  let blocked := !(verifyBlockers contract snapshot).isEmpty
  let unexpected := (families.map FamilyReport.unexpectedCount).sum
  let unmanaged := (families.map FamilyReport.unmanagedCount).sum
  { apiVersion := reportAPIVersion
    kind := "GitOpsOwnershipReport"
    contract := contract.metadataName
    status := if blocked then statusBlocked else statusReady
    requiredFamilyCount := contract.requiredFamilies.length
    observedResourceCount := (families.map FamilyReport.observedCount).sum
    managedResourceCount := (families.map FamilyReport.managedCount).sum
    allowlistedResourceCount := 0
    externalResourceCount := (families.map FamilyReport.externalCount).sum
    unexpectedResourceCount := unexpected
    unmanagedResourceCount := unmanaged
    closedWorldComplete := (scopeReport contract snapshot).closedWorldComplete &&
      snapshot.kustomizationsComplete && unexpected = 0 && unmanaged = 0
    pruneEligible := !blocked
    pruneChanged := false
    liveMutationPerformed := false
    families
    driftProof := {
      mode := contract.driftProof.mode
      target := refKey contract.driftProof.target
      expectedOwner := namespacedNameKey contract.driftProof.expectedOwner
      targetInventoryOwned := driftTargetOwned contract state
      liveMutationPerformed := false
      requiredObservations := contract.driftProof.requiredObservations
      nextAction :=
        if blocked then
          "resolve ownership blockers and rerun this read-only verifier; keep prune=false"
        else "retain prune=false; execute the drift proof only after separate mutation approval" }
    blockers := sortBy (fun blocker => blocker.id ++ blocker.family ++ blocker.object)
      (verifyBlockers contract snapshot)
    scope := scopeReport contract snapshot
    roots := contract.scope.selectedRoots.map fun declared =>
      (reportRoot contract snapshot state declared).1
    nonClaims := [contract.scope.nonClaim,
      "pruneEligible is a read-only pre-change review signal; this verifier never enables prune " ++
        "or mutates the live cluster"]
    sourceArtifact := sourceArtifactReport contract snapshot }

/-- `Verify`: the report and the exit code, or an error, for which the exit code is one. -/
def verify (contract : Contract) (snapshot : Snapshot) : Except String (Report × Nat) := do
  validateContract contract
  return (verifyReport contract snapshot,
    if (verifyReport contract snapshot).status = statusBlocked then 2 else 0)

end Verification

end CloudRing.GitOpsOwnership
