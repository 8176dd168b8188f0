import CloudRing.Library.Check
import CloudRing.Library.Hex

/-!
# Plans of a backup drill

The plan of `types.go` and its validation.
-/

namespace CloudRing.BackupDrill

open Library

class Runtime where
  sha256 : List UInt8 → List UInt8
  sha256_length : ∀ bytes, (sha256 bytes).length = 32
  parseTime : String → Option Int
  formatTime : Int → String

/-! ## Records -/

structure ObjectIdentity where
  (kind namespaceName name scopeSHA256 : String)
  deriving DecidableEq, Repr, Inhabited

structure IsolatedNamespace where
  restoreIndex : Int
  (restoreName restoreScopeSHA256 sourceNamespace : String)
  destination : ObjectIdentity
  deriving DecidableEq, Repr

structure StorageLocation where
  (name uidSHA256 : String)
  generation : Int
  configSHA256 : String
  deriving DecidableEq, Repr

structure ObjectStore where
  keyPrefix : String
  minimumRetentionDays : Int
  objectLockMode : String
  deriving DecidableEq, Repr

structure Baseline where
  (kind identitySHA256 stateSHA256 dataSHA256 : String)
  deriving DecidableEq, Repr, Inhabited

structure ExecutableIdentity where
  (name executableSHA256 : String)
  deriving DecidableEq, Repr

structure CleanupTarget where
  (kind namespaceName name preconditionIdentitySHA256 : String)
  deriving DecidableEq, Repr

structure Plan where
  (schemaVersion operationID proofID installationID acceptedPublicSHA acceptedDownstreamSHA
    clusterIdentitySHA256 : String)
  backupStorageLocation : StorageLocation
  objectStore : ObjectStore
  sourceBaselines : List Baseline
  (tool adapter : ExecutableIdentity)
  backup : ObjectIdentity
  restores : List ObjectIdentity
  isolatedNamespaces : List IsolatedNamespace
  etcdSandbox : ObjectIdentity
  cleanupTargets : List CleanupTarget
  (aggregateProofPathToken issuedAt expiresAt runNonceSHA256 : String)
  deriving DecidableEq, Repr

def planSchemaVersion : String := "cloudring.backup-drill.plan/v1"

def targetKinds : List String :=
  ["Etcd", "VirtualMachineClaim", "Volume", "Namespace", "KubernetesClusterClaim"]

def restoreKinds : List String :=
  ["VirtualMachineClaim", "Volume", "Namespace", "KubernetesClusterClaim"]

def mappingRestoreIndexes : List Nat := [0, 1, 2, 2, 3]

/-! ## Patterns -/

/-- The class `[a-z0-9]`. -/
def isAlphanumeric (char : Char) : Bool :=
  ('a' ≤ char && char ≤ 'z') || ('0' ≤ char && char ≤ '9')

/-- A pattern `^[first][rest]{0,limit}$`. -/
def matchesClasses (first rest : Char → Bool) (limit : Nat) (value : String) : Bool :=
  match value.toList with
  | [] => false
  | char :: chars => first char && chars.length ≤ limit && chars.all rest

/-- `validID`: the pattern `^[a-z0-9][a-z0-9._:-]{0,127}$`. -/
def validID (value : String) : Bool :=
  matchesClasses isAlphanumeric (fun char => isAlphanumeric char || char ∈ ['.', '_', ':', '-'])
    127 value

/-- `validName`: the pattern `^[a-z0-9](?:[a-z0-9.-]{0,61}[a-z0-9])?$`. -/
def validName (value : String) : Bool :=
  matchesClasses isAlphanumeric (fun char => isAlphanumeric char || char ∈ ['.', '-']) 62 value &&
    value.toList.getLast?.elim false isAlphanumeric

/-- `kindPattern`: `^[A-Za-z][A-Za-z0-9.]{0,63}$`. -/
def kindPattern (value : String) : Bool :=
  matchesClasses Char.isAlpha (fun char => char.isAlphanum || char = '.') 63 value

def hexOfLength (length : Nat) (value : String) : Bool :=
  value.toList.length = length && value.toList.all Hex.isDigit

/-- `validSHA`: the pattern `^[0-9a-f]{64}$`. -/
def validSHA (value : String) : Bool := hexOfLength 64 value

/-- `gitSHAPattern`: `^[0-9a-f]{40}$`. -/
def gitSHAPattern (value : String) : Bool := hexOfLength 40 value

/-- `validPathToken`: a letter or digit and up to 228 letters, digits, dots, underscores, slashes
and dashes, without two dots in a row and without a dot, a dash or a slash at the end. -/
def validPathToken (value : String) : Bool :=
  matchesClasses isAlphanumeric (fun char => isAlphanumeric char || char ∈ ['.', '_', '/', '-'])
      228 value &&
    !((value.toList.zip value.toList.tail).any (· = ('.', '.'))) &&
    value.toList.head? ≠ some '/' &&
    value.toList.getLast?.elim false (· ∉ ['.', '-', '/'])

def validEvidence (ref sha : String) : Bool := validPathToken ref && validSHA sha

def validObject (value : ObjectIdentity) : Bool :=
  validName value.name && (value.namespaceName = "" || validName value.namespaceName) &&
    validSHA value.scopeSHA256

def retainedKind (kind : String) : Bool :=
  kind ∈ ["Backup", "DataUpload", "ObjectStoreRecoveryPoint", "RestoreAuditCR"]

def validStorage (plan : Plan) : Bool :=
  validName plan.backupStorageLocation.name && validSHA plan.backupStorageLocation.uidSHA256 &&
    1 ≤ plan.backupStorageLocation.generation &&
    validSHA plan.backupStorageLocation.configSHA256 && validPathToken plan.objectStore.keyPrefix &&
    30 ≤ plan.objectStore.minimumRetentionDays &&
    plan.objectStore.minimumRetentionDays ≤ 36500 &&
    plan.objectStore.objectLockMode ∈ ["governance", "compliance"]

def validExecutables (plan : Plan) : Bool :=
  plan.tool.name = "cloudring-backup" && validSHA plan.tool.executableSHA256 &&
    validID plan.adapter.name && validSHA plan.adapter.executableSHA256

def validBaseline (kind : String) (baseline : Baseline) : Bool :=
  baseline.kind = kind && validSHA baseline.identitySHA256 && validSHA baseline.stateSHA256 &&
    validSHA baseline.dataSHA256

structure Seen where
  destinations : List String := []
  destinationScopes : List String := []
  mappings : List String := []

def validateMappings (restores : List ObjectIdentity) :
    Nat → List Nat → Seen → List IsolatedNamespace → Except String Unit
  | index, expected :: indexes, seen, mapping :: mappings => do
    ensure "backup drill isolated namespace mapping restore index is invalid"
      (mapping.restoreIndex = expected)
    let restore := restores.getD expected default
    let destination := mapping.destination
    let mappingIdentity := mapping.restoreName ++ "/" ++ mapping.sourceNamespace
    ensure "backup drill isolated namespace mapping is invalid, duplicated, or misassigned"
      (mapping.restoreName = restore.name && mapping.restoreScopeSHA256 = restore.scopeSHA256 &&
        validName mapping.sourceNamespace && destination.kind = "Namespace" &&
        destination.namespaceName = "" && validObject destination &&
        destination.name ∉ seen.destinations &&
        destination.scopeSHA256 ∉ seen.destinationScopes && mappingIdentity ∉ seen.mappings)
    ensure "backup drill Namespace restore must map platform-system and flux-system"
      ((index ≠ 2 || mapping.sourceNamespace = "platform-system") &&
        (index ≠ 3 || mapping.sourceNamespace = "flux-system"))
    validateMappings restores (index + 1) indexes
      ⟨destination.name :: seen.destinations, destination.scopeSHA256 :: seen.destinationScopes,
        mappingIdentity :: seen.mappings⟩ mappings
  | _, _, _, _ => .ok ()

def validateCleanup (sandbox : String) (mappings : List IsolatedNamespace) :
    Nat → List String → List CleanupTarget → Except String Unit
  | _, _, [] => .ok ()
  | index, seen, target :: targets => do
    let identity := target.kind ++ "/" ++ target.namespaceName ++ "/" ++ target.name
    ensure "backup drill cleanup target is unsafe or duplicated"
      (kindPattern target.kind && validName target.name &&
        (target.namespaceName = "" || validName target.namespaceName) &&
        validSHA target.preconditionIdentitySHA256 && identity ∉ seen &&
        !retainedKind target.kind)
    ensure "backup drill cleanup targets are not exact isolated namespaces"
      (mappings.length ≤ index || (target.kind = "Namespace" && target.namespaceName = "" &&
        some target.name = mappings[index]?.map (·.destination.name)))
    ensure "backup drill cleanup target is not the exact etcd sandbox"
      (index ≠ mappings.length || (target.kind = "EtcdSandbox" && target.namespaceName = "" &&
        target.name = sandbox))
    validateCleanup sandbox mappings (index + 1) (identity :: seen) targets

theorem validateCleanup_at {sandbox : String} {mappings : List IsolatedNamespace}
    {targets : List CleanupTarget} {index : Nat} {seen : List String}
    (passed : validateCleanup sandbox mappings index seen targets = .ok ()) {offset : Nat}
    {target : CleanupTarget} (found : targets[offset]? = some target) :
    (index + offset < mappings.length → target.kind = "Namespace" ∧
      some target.name = mappings[index + offset]?.map (·.destination.name)) ∧
    (index + offset = mappings.length → target.kind = "EtcdSandbox") := by
  induction targets generalizing index seen offset with
  | nil => simp at found
  | cons first rest ih =>
    rw [validateCleanup] at passed
    simp only [check_bind, ensure_ok] at passed
    obtain ⟨-, isolated, sandboxed, passed⟩ := passed
    cases offset with
    | zero =>
      obtain rfl : first = target := by simpa using found
      simp only [Bool.or_eq_true, Bool.and_eq_true, decide_eq_true_eq] at isolated sandboxed
      constructor
      · intro inside
        rcases isolated with outside | ⟨⟨kind, -⟩, name⟩
        · omega
        · exact ⟨kind, name⟩
      · intro last
        rcases sandboxed with other | ⟨⟨kind, -⟩, -⟩
        · exact absurd last other
        · exact kind
    | succ offset =>
      have later := ih passed (by simpa using found)
      rw [Nat.add_right_comm, Nat.add_assoc] at later
      exact later

section Validation

variable [Runtime]

def canonicalTime (value : String) : Option Int :=
  (Runtime.parseTime value).filter fun time => Runtime.formatTime time = value

def validWindow (plan : Plan) : Bool :=
  match canonicalTime plan.issuedAt, canonicalTime plan.expiresAt with
  | some issued, some expires => issued < expires && expires - issued ≤ 1800000000000
  | _, _ => false

def validIdentity (plan : Plan) : Bool :=
  plan.schemaVersion = planSchemaVersion && validID plan.operationID && validID plan.proofID &&
    validID plan.installationID && gitSHAPattern plan.acceptedPublicSHA &&
    gitSHAPattern plan.acceptedDownstreamSHA && validSHA plan.clusterIdentitySHA256 &&
    validWindow plan && validSHA plan.runNonceSHA256

def validatePlan (plan : Plan) : Except String Unit := do
  ensure "backup drill plan identity or validity window is invalid" (validIdentity plan)
  ensure "backup drill storage binding is invalid" (validStorage plan)
  ensure "backup drill executable binding is invalid" (validExecutables plan)
  ensure "backup drill backup or etcd sandbox identity is invalid"
    (plan.backup.kind = "Backup" && validObject plan.backup &&
      plan.etcdSandbox.kind = "EtcdSandbox" && validObject plan.etcdSandbox)
  ensure "backup drill requires exact source baselines"
    (plan.sourceBaselines.length = targetKinds.length)
  ensure "backup drill source baselines are invalid or not canonical"
    ((targetKinds.zip plan.sourceBaselines).all fun (kind, baseline) =>
      validBaseline kind baseline)
  ensure "backup drill requires exact four restores and five isolated namespace mappings"
    (plan.restores.length = restoreKinds.length && plan.isolatedNamespaces.length = 5)
  ensure "backup drill restore identities are invalid or not canonical"
    ((restoreKinds.zip plan.restores).all fun (kind, restore) =>
      restore.kind = kind && validObject restore)
  validateMappings plan.restores 0 mappingRestoreIndexes {} plan.isolatedNamespaces
  ensure "backup drill cleanup targets are incomplete"
    (plan.cleanupTargets.length = plan.isolatedNamespaces.length + 1)
  validateCleanup plan.etcdSandbox.name plan.isolatedNamespaces 0 [] plan.cleanupTargets
  ensure "backup drill aggregate proof path token is invalid"
    (validPathToken plan.aggregateProofPathToken)

theorem validatePlan_cleanup {plan : Plan} (valid : validatePlan plan = .ok ()) (name : String) :
    (∃ target ∈ plan.cleanupTargets, target.kind = "Namespace" ∧ target.name = name) ↔
      ∃ mapping ∈ plan.isolatedNamespaces, mapping.destination.name = name := by
  unfold validatePlan at valid
  simp only [check_bind, ensure_ok, decide_eq_true_eq] at valid
  obtain ⟨-, -, -, -, -, -, -, -, -, complete, passed, -⟩ := valid
  constructor
  · rintro ⟨target, member, kind, rfl⟩
    obtain ⟨index, found⟩ := List.mem_iff_getElem?.mp member
    have inRange := (List.getElem?_eq_some_iff.mp found).1
    have facts := validateCleanup_at passed found
    rw [Nat.zero_add] at facts
    have inside : index < plan.isolatedNamespaces.length := by
      by_contra outside
      have sandbox := facts.2 (by omega)
      rw [kind] at sandbox
      exact absurd sandbox (by decide)
    have name := (facts.1 inside).2
    rw [List.getElem?_eq_getElem inside, Option.map_some, Option.some.injEq] at name
    exact ⟨_, List.getElem_mem inside, name.symm⟩
  · rintro ⟨mapping, member, rfl⟩
    obtain ⟨index, found⟩ := List.mem_iff_getElem?.mp member
    have inside := (List.getElem?_eq_some_iff.mp found).1
    have target : index < plan.cleanupTargets.length := by omega
    have facts := validateCleanup_at passed (List.getElem?_eq_getElem target)
    rw [Nat.zero_add] at facts
    obtain ⟨kind, name⟩ := facts.1 inside
    rw [found, Option.map_some, Option.some.injEq] at name
    exact ⟨_, List.getElem_mem target, kind, name⟩

/-- A valid plan deletes no namespace with the name of a source namespace if and only if it maps
no source namespace onto a source namespace. -/
theorem validatePlan_keeps_sources_iff {plan : Plan} (valid : validatePlan plan = .ok ()) :
    (∀ target ∈ plan.cleanupTargets, target.kind = "Namespace" →
      ∀ mapping ∈ plan.isolatedNamespaces, target.name ≠ mapping.sourceNamespace) ↔
    ∀ mapping ∈ plan.isolatedNamespaces, ∀ other ∈ plan.isolatedNamespaces,
      mapping.destination.name ≠ other.sourceNamespace := by
  constructor
  · intro kept mapping member other listed same
    obtain ⟨target, deleted, kind, name⟩ :=
      (validatePlan_cleanup valid mapping.destination.name).mpr ⟨mapping, member, rfl⟩
    exact kept target deleted kind other listed (name.trans same)
  · intro apart target deleted kind other listed same
    obtain ⟨mapping, member, name⟩ :=
      (validatePlan_cleanup valid target.name).mp ⟨target, deleted, kind, rfl⟩
    exact apart mapping member other listed (name.trans same)

end Validation

/-! ## A plan that deletes a source namespace -/

@[reducible] def plainRuntime : Runtime where
  sha256 _ := List.replicate 32 0
  sha256_length _ := rfl
  parseTime text := if text = "0" then some 0 else if text = "1" then some 1 else none
  formatTime time := if time = 0 then "0" else "1"

def repeatedSHA (digit : Char) : String := String.ofList (List.replicate 64 digit)

def isolatedObject (name : String) (digit : Char) : ObjectIdentity :=
  ⟨"Namespace", "", name, repeatedSHA digit⟩

def samplePlan (destination : String) : Plan where
  schemaVersion := planSchemaVersion
  operationID := "operation"
  proofID := "proof"
  installationID := "installation"
  acceptedPublicSHA := String.ofList (List.replicate 40 'a')
  acceptedDownstreamSHA := String.ofList (List.replicate 40 'b')
  clusterIdentitySHA256 := repeatedSHA 'c'
  backupStorageLocation := ⟨"default", repeatedSHA '0', 1, repeatedSHA '0'⟩
  objectStore := ⟨"drill", 30, "compliance"⟩
  sourceBaselines := targetKinds.map fun kind =>
    ⟨kind, repeatedSHA '0', repeatedSHA '0', repeatedSHA '0'⟩
  tool := ⟨"cloudring-backup", repeatedSHA '0'⟩
  adapter := ⟨"adapter", repeatedSHA '0'⟩
  backup := ⟨"Backup", "", "backup", repeatedSHA '0'⟩
  restores := restoreKinds.map fun kind => ⟨kind, "", "restore", repeatedSHA '0'⟩
  isolatedNamespaces :=
    [⟨0, "restore", repeatedSHA '0', "machines", isolatedObject destination '1'⟩,
      ⟨1, "restore", repeatedSHA '0', "volumes", isolatedObject "two" '2'⟩,
      ⟨2, "restore", repeatedSHA '0', "platform-system", isolatedObject "three" '3'⟩,
      ⟨2, "restore", repeatedSHA '0', "flux-system", isolatedObject "four" '4'⟩,
      ⟨3, "restore", repeatedSHA '0', "clusters", isolatedObject "five" '5'⟩]
  etcdSandbox := ⟨"EtcdSandbox", "", "sandbox", repeatedSHA '0'⟩
  cleanupTargets := [destination, "two", "three", "four", "five"].map (fun name =>
      ⟨"Namespace", "", name, repeatedSHA '0'⟩) ++
    [⟨"EtcdSandbox", "", "sandbox", repeatedSHA '0'⟩]
  aggregateProofPathToken := "proofs/drill"
  issuedAt := "0"
  expiresAt := "1"
  runNonceSHA256 := repeatedSHA '0'

theorem hexOfLength_replicate {length : Nat} {digit : Char} (hex : Hex.isDigit digit = true) :
    hexOfLength length (String.ofList (List.replicate length digit)) = true := by
  simp [hexOfLength, hex]

theorem repeatedSHA_inj {first second : Char} : repeatedSHA first = repeatedSHA second ↔
    first = second := by
  constructor
  · intro same
    have lists := String.ofList_injective same
    exact (List.replicate_inj.mp lists).2.resolve_left (by decide)
  · exact congrArg repeatedSHA

theorem validatePlan_sample : ∀ destination ∈ ["platform-system", "one"],
    @validatePlan plainRuntime (samplePlan destination) = .ok () := by
  intro destination member
  have digits : ∀ digit ∈ ['0', '1', '2', '3', '4', '5', 'c'],
      validSHA (repeatedSHA digit) = true := fun digit listed =>
    hexOfLength_replicate (by revert digit; rw [← List.all_eq_true]; decide)
  simp only [List.forall_mem_cons] at digits
  obtain ⟨zero, one, two, three, four, five, cluster, -⟩ := digits
  have public' : gitSHAPattern (String.ofList (List.replicate 40 'a')) = true :=
    hexOfLength_replicate (by decide)
  have downstream : gitSHAPattern (String.ofList (List.replicate 40 'b')) = true :=
    hexOfLength_replicate (by decide)
  unfold validatePlan
  simp only [check_bind, ensure_ok]
  refine ⟨?_, ?_, ?_, ?_, ?_, ?_, ?_, ?_, ?_, ?_, ?_, ?_⟩
  · simp only [validIdentity, samplePlan, zero, cluster, public', downstream, Bool.and_true]
    rfl
  · simp only [validStorage, samplePlan, zero]
    rfl
  · simp only [validExecutables, samplePlan, zero]
    decide
  · simp only [samplePlan, validObject, zero]
    decide
  · rfl
  · simp only [samplePlan, targetKinds, List.map, List.zip_cons_cons, List.zip_nil_right, List.all,
      validBaseline, zero]
    decide
  · rfl
  · simp only [samplePlan, restoreKinds, List.map, List.zip_cons_cons, List.zip_nil_right, List.all,
      validObject, zero]
    decide
  · simp [samplePlan, mappingRestoreIndexes, validateMappings, restoreKinds, isolatedObject,
      validObject, one, two, three, four, five, ensure, check_bind, repeatedSHA_inj]
    revert destination
    decide
  · rfl
  · simp only [samplePlan, validateCleanup, zero, List.map, List.cons_append, List.nil_append,
      check_bind, ensure_ok]
    revert destination
    decide +kernel
  · have token : validPathToken "proofs/drill" = true := by decide
    exact token

/-- A valid plan deletes the namespace `platform-system`, which it also restores from. -/
theorem validatePlan_deletes_source :
    ∃ plan, @validatePlan plainRuntime plan = .ok () ∧
      ∃ target ∈ plan.cleanupTargets, target.kind = "Namespace" ∧
        ∃ mapping ∈ plan.isolatedNamespaces, target.name = mapping.sourceNamespace := by
  refine ⟨samplePlan "platform-system", validatePlan_sample _ (by decide), ?_⟩
  exact ⟨⟨"Namespace", "", "platform-system", repeatedSHA '0'⟩, by simp [samplePlan], rfl,
    ⟨2, "restore", repeatedSHA '0', "platform-system", isolatedObject "three" '3'⟩,
    by simp [samplePlan], rfl⟩

/-- A plan with destinations of its own deletes no source namespace. -/
theorem validatePlan_keeps_sources_sample :
    @validatePlan plainRuntime (samplePlan "one") = .ok () ∧
      ∀ target ∈ (samplePlan "one").cleanupTargets, target.kind = "Namespace" →
        ∀ mapping ∈ (samplePlan "one").isolatedNamespaces,
          target.name ≠ mapping.sourceNamespace := by
  have valid : @validatePlan plainRuntime (samplePlan "one") = .ok () :=
    validatePlan_sample _ (by decide)
  exact ⟨valid, (@validatePlan_keeps_sources_iff plainRuntime _ valid).mpr (by decide +kernel)⟩

end CloudRing.BackupDrill
