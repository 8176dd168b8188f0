import CloudRing.GitOpsOwnership.Discovery

/-!
# The ownership contract

`validateContract` is the chain of checks of the source.
-/

namespace CloudRing.GitOpsOwnership

open Library

structure SourceArtifactContract where
  (kind namespaceName name publicGitlinkSHA : String)
  deriving DecidableEq, Repr, Inhabited

structure RootSpecContract where
  (namespaceName name : String)
  (suspend prune : Option Bool)
  deletionPolicy : String
  wait : Option Bool
  sourceRef : FluxObjectReference
  path : String
  dependsOn : Option (List FluxObjectReference)
  deriving DecidableEq, Repr, Inhabited

structure ScopeContract where
  name : String
  complete : Bool
  nonClaim : String
  criticalFamilyIDs : List String
  selectedRoots : List NamespacedName
  deriving DecidableEq, Repr, Inhabited

structure DriftProof where
  mode : String
  target : ResourceRef
  expectedOwner : NamespacedName
  requiredObservations : List String
  mutationAuthorization : String
  deriving DecidableEq, Repr, Inhabited

/-- `Contract`, without the selector that nothing reads. -/
structure Contract where
  (apiVersion kind metadataName : String)
  scope : ScopeContract
  sourceArtifact : SourceArtifactContract
  rootSpecs : List RootSpecContract
  requiredFamilies : List ResourceFamily
  allowUnmanaged : List ResourceRef
  pruneGate : List NamespacedName
  driftProof : DriftProof
  deriving DecidableEq, Repr, Inhabited

def contractAPIVersion : String := "cloudring.io/v1alpha2"

def contractKind : String := "GitOpsOwnershipContract"

def driftMode : String := "read-only-plan"

def hexAfter (lead : String) (digits : Nat) (value : String) : Bool :=
  lead.toList.isPrefixOf value.toList &&
    (value.toList.drop lead.length).length = digits &&
    (value.toList.drop lead.length).all Pattern.isHexDigit

def gitSHA1Pattern (value : String) : Bool := hexAfter "" 40 value

def acceptedSourceRevisionPattern (value : String) : Bool := hexAfter "main@sha1:" 40 value

def artifactDigestPattern (value : String) : Bool := hexAfter "sha256:" 64 value

/-! ## Families -/

theorem lookup_eq_none {others : List (String × String)} {key : String} :
    others.lookup key = none ↔ key ∉ others.map Prod.fst := by
  simp only [List.lookup_eq_none_iff, List.mem_map, bne_iff_ne, not_exists, not_and]
  exact forall₂_congr fun _ _ => ne_comm

section Validation

variable [Runtime]

def wrapped (lead : String) : Except String Unit → Except String Unit
  | .ok () => .ok ()
  | .error message => .error (lead ++ message)

def named (lead : String) (family : ResourceFamily) (rest : String) : String :=
  lead ++ Runtime.quote family.id ++ rest

def declaredInFamily (family : ResourceFamily) (ref : ResourceRef) : Bool :=
  !(ref.apiVersion ≠ family.apiVersion || ref.kind ≠ family.kind ||
    (family.namespaced && ref.namespaceName ∉ family.discovery.namespaces) ||
    (!family.namespaced && ref.namespaceName ≠ ""))

structure ExpectedKeys where
  seenExpected : List String
  expectedObjectFamilies : List (String × String)

def checkExpectedObject (family : ResourceFamily) (state : ExpectedKeys) (ref : ResourceRef) :
    Except String ExpectedKeys := do
  wrapped (named "resource family " family " has invalid expected object: ") (validateRef ref)
  ensure (named "resource family " family
    " expected object does not match its identity and scope") (declaredInFamily family ref)
  ensure (named "resource family " family (" contains duplicate expected object " ++ refKey ref))
    (refKey ref ∉ state.seenExpected)
  match state.expectedObjectFamilies.lookup (refKey ref) with
  | some previousFamily => .error ("expected object " ++ refKey ref ++
      " occurs in both resource families " ++ Runtime.quote previousFamily ++ " and " ++
      Runtime.quote family.id)
  | none => return ⟨refKey ref :: state.seenExpected,
      (refKey ref, family.id) :: state.expectedObjectFamilies⟩

def checkExternalObject (family : ResourceFamily) (expected : ExpectedKeys)
    (seenExternal : List String) (ref : ResourceRef) : Except String (List String) := do
  wrapped (named "resource family " family " has invalid external object: ") (validateRef ref)
  ensure (named "resource family " family
    " external object does not match its identity and scope") (declaredInFamily family ref)
  ensure (named "resource family " family (" external object " ++ refKey ref ++
    " must be unique and disjoint from expectedObjects"))
    (refKey ref ∉ seenExternal && refKey ref ∉ expected.seenExpected)
  match expected.expectedObjectFamilies.lookup (refKey ref) with
  | some previousFamily => .error ("external object " ++ refKey ref ++
      " overlaps expected inventory in resource family " ++ Runtime.quote previousFamily)
  | none => return refKey ref :: seenExternal

def checkNamespace (family : ResourceFamily) (seen : List String) (namespaceName : String) :
    Except String (List String) := do
  ensure (named "resource family " family " discovery namespaces must be valid and unique")
    (validDNSLabel namespaceName && namespaceName ∉ seen)
  return namespaceName :: seen

def validateSourced (family : ResourceFamily) (expectedObjectFamilies : List (String × String)) :
    Except String (List (String × String)) := do
  ensure (named "sourced resource family " family
    " must set an exact expectedObjects/minimumCount inventory")
    (1 ≤ family.minimumCount && !family.expectedObjects.isEmpty &&
      family.minimumCount = family.expectedObjects.length)
  ensure (named "sourced resource family " family
    (" discovery.mode must be " ++ Runtime.quote discoveryModeClosedWorld))
    (family.discovery.mode = discoveryModeClosedWorld)
  ensure (named "namespaced sourced resource family " family
    " requires exact discovery.namespaces")
    (!(family.namespaced && family.discovery.namespaces.isEmpty))
  ensure (named "cluster-scoped sourced resource family " family
    " must not set discovery.namespaces")
    (!(!family.namespaced && !family.discovery.namespaces.isEmpty))
  ensure (named "sourced resource family " family " requires expectedOwner")
    (family.expectedOwner.namespaceName ≠ "" && family.expectedOwner.name ≠ "")
  let _ ← family.discovery.namespaces.foldlM (checkNamespace family) []
  let expected ← family.expectedObjects.foldlM (checkExpectedObject family)
    ⟨[], expectedObjectFamilies⟩
  let _ ← family.discovery.externalObjects.foldlM (checkExternalObject family expected) []
  return expected.expectedObjectFamilies

def validateNotSourced (family : ResourceFamily) : Except String Unit :=
  ensure (named "not-sourced resource family " family
    " must declare only missingSourceBlocker and zero inventory")
    (family.missingSourceBlocker ≠ "" && family.minimumCount = 0 &&
      family.expectedObjects.isEmpty && family.labelSelector = "" &&
      family.expectedOwner = ⟨"", ""⟩ && family.discovery.mode = "" &&
      family.discovery.namespaces.isEmpty && family.discovery.externalObjects.isEmpty)

structure FamilyChecks where
  familyIDs : List String := []
  expectedObjectFamilies : List (String × String) := []

def validateFamily (criticalIDs : List String) (state : FamilyChecks) (family : ResourceFamily) :
    Except String FamilyChecks := do
  ensure (named "resource family id " family " must be non-empty and unique")
    (family.id ≠ "" && family.id ∉ state.familyIDs)
  ensure (named "resource family " family " must set apiVersion, kind, and resource")
    (family.apiVersion ≠ "" && family.kind ≠ "" && family.resource ≠ "")
  ensure (named "resource family " family
    " must be critical and enumerated by scope.criticalFamilyIds")
    (family.critical && family.id ∈ criticalIDs)
  if family.sourceState = "sourced" then do
    let added ← validateSourced family state.expectedObjectFamilies
    return ⟨family.id :: state.familyIDs, added⟩
  else if family.sourceState = "not-sourced" then do
    validateNotSourced family
    return ⟨family.id :: state.familyIDs, state.expectedObjectFamilies⟩
  else .error (named "resource family " family " sourceState must be sourced or not-sourced")

/-! ## Roots -/

def checkCriticalID (seen : List String) (id : String) : Except String (List String) := do
  ensure ("scope critical family id " ++ Runtime.quote id ++ " must be non-empty and unique")
    (id ≠ "" && id ∉ seen)
  return id :: seen

def checkSelectedRoot (seen : List String) (root : NamespacedName) :
    Except String (List String) := do
  ensure ("scope selected root " ++ Runtime.quote (namespacedNameKey root) ++
    " must have namespace/name and be unique")
    (root.namespaceName ≠ "" && root.name ≠ "" && namespacedNameKey root ∉ seen)
  return namespacedNameKey root :: seen

def rootSpecKey (spec : RootSpecContract) : String :=
  namespacedNameKey ⟨spec.namespaceName, spec.name⟩

def checkDependency (spec : RootSpecContract) (selectedRoots seen : List String)
    (dependency : FluxObjectReference) : Except String (List String) := do
  let dependencyKey := dependency.namespaceName ++ "/" ++ dependency.name
  ensure ("root spec " ++ Runtime.quote (rootSpecKey spec) ++
    " dependencies must be unique exact Kustomization references")
    (dependency.kind = "Kustomization" && dependency.namespaceName ≠ "" &&
      dependency.name ≠ "" && dependencyKey ∉ seen)
  ensure ("root spec " ++ Runtime.quote (rootSpecKey spec) ++ " dependency " ++
    Runtime.quote dependencyKey ++ " is absent from scope.selectedRoots")
    (dependencyKey ∈ selectedRoots)
  return dependencyKey :: seen

def checkRootSpec (source : SourceArtifactContract) (selectedRoots seen : List String)
    (spec : RootSpecContract) : Except String (List String) := do
  let key := rootSpecKey spec
  ensure ("root spec " ++ Runtime.quote key ++ " must have namespace/name and be unique")
    (spec.namespaceName ≠ "" && spec.name ≠ "" && key ∉ seen)
  ensure ("root spec " ++ Runtime.quote key ++ " is absent from scope.selectedRoots")
    (key ∈ selectedRoots)
  ensure ("root spec " ++ Runtime.quote key ++
    " must require active, non-pruning, orphaning, wait-enabled exact-path readiness")
    (spec.suspend = some false && spec.prune = some false && spec.deletionPolicy = "Orphan" &&
      spec.wait = some true && "./".toList.isPrefixOf spec.path.toList &&
      !decide ("..".toList <:+: spec.path.toList))
  ensure ("root spec " ++ Runtime.quote key ++ " sourceRef must match sourceArtifact exactly")
    (spec.sourceRef.kind = source.kind && spec.sourceRef.name = source.name &&
      spec.sourceRef.namespaceName = source.namespaceName)
  let _ ← (spec.dependsOn.getD []).foldlM (checkDependency spec selectedRoots) []
  return key :: seen

def checkPruneRoot (seen : List String) (root : NamespacedName) : Except String (List String) := do
  ensure "prune gate Kustomizations require namespace and name"
    (root.namespaceName ≠ "" && root.name ≠ "")
  ensure ("duplicate prune gate Kustomization " ++ namespacedNameKey root)
    (namespacedNameKey root ∉ seen)
  return namespacedNameKey root :: seen

/-! ## The drift proof -/

def driftTargetMatches (contract : Contract) : List NamespacedName :=
  (contract.requiredFamilies.filter fun family => family.sourceState = "sourced").flatMap
    fun family => (family.expectedObjects.filter fun expected =>
      refKey expected = refKey contract.driftProof.target).map fun _ => family.expectedOwner

def validateDriftProof (contract : Contract) : Except String Unit := do
  let drift := contract.driftProof
  ensure ("driftProof.mode must be " ++ Runtime.quote driftMode) (drift.mode = driftMode)
  wrapped "invalid driftProof.target: " (validateRef drift.target)
  ensure "driftProof.expectedOwner requires namespace and name"
    (drift.expectedOwner.namespaceName ≠ "" && drift.expectedOwner.name ≠ "")
  ensure "driftProof.requiredObservations must be exactly baseline, controlled-drift, reconciled"
    (drift.requiredObservations = ["baseline", "controlled-drift", "reconciled"])
  ensure "driftProof.mutationAuthorization must require separate explicit approval"
    (drift.mutationAuthorization = "separate-explicit-approval-required")
  forEach (fun owner => ensure
    ("driftProof.expectedOwner must match the declared owner of target " ++
    refKey drift.target) (owner = drift.expectedOwner)) (driftTargetMatches contract)
  ensure ("driftProof.target must occur exactly once in the sourced critical inventory, found " ++
    toString (driftTargetMatches contract).length ++ " matches")
    ((driftTargetMatches contract).length = 1)

/-! ## The contract -/

def validateContract (contract : Contract) : Except String Unit := do
  ensure ("GitOps ownership contract identity must be " ++ contractAPIVersion ++ " " ++
    contractKind)
    (contract.apiVersion = contractAPIVersion && contract.kind = contractKind)
  ensure "GitOps ownership contract metadata.name is required"
    (!Pattern.blank contract.metadataName)
  ensure "GitOps ownership contract requires at least one resource family"
    (!contract.requiredFamilies.isEmpty)
  ensure "GitOps ownership contract scope.complete must be true and scope.name/nonClaim are required"
    (contract.scope.complete && !Pattern.blank contract.scope.name &&
      !Pattern.blank contract.scope.nonClaim)
  ensure "GitOps ownership contract scope must enumerate criticalFamilyIds and selectedRoots"
    (!contract.scope.criticalFamilyIDs.isEmpty && !contract.scope.selectedRoots.isEmpty)
  ensure
    "sourceArtifact must bind one GitRepository namespace/name and an exact public gitlink SHA"
    (contract.sourceArtifact.kind = "GitRepository" &&
      contract.sourceArtifact.namespaceName ≠ "" && contract.sourceArtifact.name ≠ "" &&
      gitSHA1Pattern contract.sourceArtifact.publicGitlinkSHA)
  let criticalIDs ← contract.scope.criticalFamilyIDs.foldlM checkCriticalID []
  let families ← contract.requiredFamilies.foldlM (validateFamily criticalIDs) {}
  ensure "scope.criticalFamilyIds must exactly enumerate requiredFamilies"
    (families.familyIDs.length = criticalIDs.length)
  forEach (fun id => ensure ("scope critical family " ++ Runtime.quote id ++
    " is not declared in requiredFamilies") (id ∈ families.familyIDs)) criticalIDs
  ensure ("closed-world ownership contracts require an empty allowUnmanaged list; declare " ++
    "reviewed non-CloudRING occupants as discovery.externalObjects")
    contract.allowUnmanaged.isEmpty
  ensure "GitOps ownership contract pruneGate.kustomizations must not be empty"
    (!contract.pruneGate.isEmpty)
  let selectedRoots ← contract.scope.selectedRoots.foldlM checkSelectedRoot []
  let rootSpecs ← contract.rootSpecs.foldlM
    (checkRootSpec contract.sourceArtifact selectedRoots) []
  ensure "rootSpecs must exactly enumerate scope.selectedRoots"
    (rootSpecs.length = selectedRoots.length)
  let pruneRoots ← contract.pruneGate.foldlM checkPruneRoot []
  ensure "pruneGate.kustomizations must exactly enumerate scope.selectedRoots"
    (selectedRoots.length = pruneRoots.length)
  forEach (fun key => ensure ("selected root " ++ Runtime.quote key ++
    " is absent from pruneGate.kustomizations") (key ∈ pruneRoots)) selectedRoots
  forEach (fun family => ensure (named "resource family " family
    " expectedOwner is absent from scope.selectedRoots")
    (family.sourceState ≠ "sourced" || namespacedNameKey family.expectedOwner ∈ selectedRoots))
    contract.requiredFamilies
  validateDriftProof contract

/-! ## What a checked contract guarantees -/

structure ValidFamily (family : ResourceFamily) : Prop where
  namespaces : ∀ namespaceName ∈ family.discovery.namespaces, validDNSLabel namespaceName = true
  expected : ∀ ref ∈ family.expectedObjects,
    validateRef ref = .ok () ∧ refInFamilyScope ref family = true
  external : ∀ ref ∈ family.discovery.externalObjects,
    validateRef ref = .ok () ∧ refInFamilyScope ref family = true
  distinct : ((family.expectedObjects ++ family.discovery.externalObjects).map refKey).Nodup

omit [Runtime] in
theorem wrapped_ok {lead : String} {result : Except String Unit} {value : Unit} :
    wrapped lead result = .ok value ↔ result = .ok () := by
  cases result <;> simp [wrapped]

variable {family : ResourceFamily}

omit [Runtime] in
theorem declaredInFamily_scope {ref : ResourceRef}
    (declared : declaredInFamily family ref = true) : refInFamilyScope ref family = true := by
  simp only [declaredInFamily, ne_eq, decide_not, Bool.not_eq_true', Bool.or_eq_false_iff,
    Bool.not_eq_false', decide_eq_true_eq, Bool.and_eq_false_iff] at declared
  obtain ⟨⟨⟨version, kind⟩, inside⟩, outside⟩ := declared
  simp only [refInFamilyScope, version, kind, decide_true, Bool.true_and]
  cases namespaced : family.namespaced with
  | true =>
    rw [namespaced] at inside
    simpa using inside
  | false =>
    rw [namespaced] at outside
    simpa using outside

theorem checkNamespaces_ok {seen : List String}
    (passed : family.discovery.namespaces.foldlM (checkNamespace family) [] = .ok seen) :
    ∀ namespaceName ∈ family.discovery.namespaces, validDNSLabel namespaceName = true := by
  refine foldlM_each ?_ passed
  intro state namespaceName next taken
  obtain ⟨valid, -⟩ := check_bind.mp taken
  simp only [ensure_ok, Bool.and_eq_true] at valid
  exact valid.1

/-- What a listed object is checked for by itself. -/
def Declared (family : ResourceFamily) (ref : ResourceRef) : Prop :=
  validateRef ref = .ok () ∧ declaredInFamily family ref = true

def expectedEntries (family : ResourceFamily) : List (String × String) :=
  (family.expectedObjects.map fun ref => (refKey ref, family.id)).reverse

theorem Declared.checked {ref : ResourceRef} (declared : Declared family ref) :
    validateRef ref = .ok () ∧ refInFamilyScope ref family = true :=
  ⟨declared.1, declaredInFamily_scope declared.2⟩

theorem checkExpectedObject_ok {state next : ExpectedKeys} {ref : ResourceRef} :
    checkExpectedObject family state ref = .ok next ↔
      (Declared family ref ∧ refKey ref ∉ state.seenExpected ∧
        refKey ref ∉ state.expectedObjectFamilies.map Prod.fst) ∧
      next = ⟨refKey ref :: state.seenExpected,
        (refKey ref, family.id) :: state.expectedObjectFamilies⟩ := by
  simp only [checkExpectedObject, check_bind, wrapped_ok, ensure_ok, decide_eq_true_eq, Declared,
    ← lookup_eq_none, and_assoc]
  cases state.expectedObjectFamilies.lookup (refKey ref) <;>
    simp [pure, Except.pure, @eq_comm _ next]

theorem checkExternalObject_ok {keys : ExpectedKeys} {seen next : List String} {ref : ResourceRef} :
    checkExternalObject family keys seen ref = .ok next ↔
      (Declared family ref ∧ refKey ref ∉ seen ∧ refKey ref ∉ keys.seenExpected ∧
        refKey ref ∉ keys.expectedObjectFamilies.map Prod.fst) ∧
      next = refKey ref :: seen := by
  simp only [checkExternalObject, check_bind, wrapped_ok, ensure_ok, Bool.and_eq_true,
    decide_eq_true_eq, Declared, ← lookup_eq_none, and_assoc]
  cases keys.expectedObjectFamilies.lookup (refKey ref) <;>
    simp [pure, Except.pure, @eq_comm _ next]

theorem checkExpectedObjects_iff {others : List (String × String)} {keys : ExpectedKeys} :
    family.expectedObjects.foldlM (checkExpectedObject family) ⟨[], others⟩ = .ok keys ↔
      (∀ ref ∈ family.expectedObjects, Declared family ref ∧ refKey ref ∉ others.map Prod.fst) ∧
      (family.expectedObjects.map refKey).Nodup ∧
      keys = ⟨(family.expectedObjects.map refKey).reverse, expectedEntries family ++ others⟩ := by
  have folded : ∀ (refs : List ResourceRef) (state : ExpectedKeys),
      refs.foldl (fun state ref => ExpectedKeys.mk (refKey ref :: state.seenExpected)
        ((refKey ref, family.id) :: state.expectedObjectFamilies)) state =
      ⟨(refs.map refKey).reverse ++ state.seenExpected,
        (refs.map fun ref => (refKey ref, family.id)).reverse ++ state.expectedObjectFamilies⟩ := by
    intro refs
    induction refs with
    | nil => exact fun _ => rfl
    | cons ref rest ih => simp [ih]
  rw [foldlM_accepts _ _ (fun ref later => refKey ref ≠ refKey later)
    (fun _ _ _ => checkExpectedObject_ok) ?_, folded, List.Nodup, List.pairwise_map]
  · simp [expectedEntries]
  · intro state ref later
    simp [Declared]
    grind

theorem checkExternalObjects_iff {keys : ExpectedKeys} {seen : List String} :
    family.discovery.externalObjects.foldlM (checkExternalObject family keys) [] = .ok seen ↔
      (∀ ref ∈ family.discovery.externalObjects, Declared family ref ∧
        refKey ref ∉ keys.seenExpected ∧ refKey ref ∉ keys.expectedObjectFamilies.map Prod.fst) ∧
      (family.discovery.externalObjects.map refKey).Nodup ∧
      seen = family.discovery.externalObjects.foldl (fun seen ref => refKey ref :: seen) [] := by
  rw [foldlM_accepts _ _ (fun ref later => refKey ref ≠ refKey later)
    (fun _ _ _ => checkExternalObject_ok) ?_, List.Nodup, List.pairwise_map]
  · simp
  · intro state ref later
    simp
    grind

theorem validateSourced_ok {others added : List (String × String)}
    (passed : validateSourced family others = .ok added) : ValidFamily family := by
  simp only [validateSourced, bind_ok] at passed
  obtain ⟨_, -, _, -, _, -, _, -, _, -, seen, namespaces, keys, expected, seenExternal, external,
    -⟩ := passed
  obtain ⟨each, distinct, rfl⟩ := checkExpectedObjects_iff.mp expected
  obtain ⟨eachExternal, distinctExternal, -⟩ := checkExternalObjects_iff.mp external
  refine ⟨checkNamespaces_ok namespaces, fun ref member => (each ref member).1.checked,
    fun ref member => (eachExternal ref member).1.checked, ?_⟩
  rw [List.map_append, List.nodup_append]
  refine ⟨distinct, distinctExternal, ?_⟩
  intro key member other memberExternal equal
  obtain ⟨ref, inside, rfl⟩ := List.mem_map.mp memberExternal
  exact (eachExternal ref inside).2.1 (List.mem_reverse.mpr (equal ▸ member))

theorem validateNotSourced_ok (passed : validateNotSourced family = .ok ()) :
    family.expectedObjects = [] ∧ family.discovery.namespaces = [] ∧
      family.discovery.externalObjects = [] := by
  simp only [validateNotSourced, ensure_ok, Bool.and_eq_true, List.isEmpty_iff, and_assoc] at passed
  obtain ⟨-, -, expected, -, -, -, namespaces, external⟩ := passed
  exact ⟨expected, namespaces, external⟩

theorem validateFamily_ok {criticalIDs : List String} {state next : FamilyChecks}
    (passed : validateFamily criticalIDs state family = .ok next) :
    ValidFamily family ∧
      (family.sourceState = "sourced" ∨ family.sourceState = "not-sourced") := by
  simp only [validateFamily, check_bind] at passed
  obtain ⟨-, -, -, passed⟩ := passed
  split at passed
  · rename_i sourced
    obtain ⟨added, valid, -⟩ := bind_ok.mp passed
    exact ⟨validateSourced_ok valid, Or.inl sourced⟩
  · split at passed
    · rename_i missing
      obtain ⟨expected, namespaces, external⟩ := validateNotSourced_ok (check_bind.mp passed).1
      exact ⟨⟨by simp [namespaces], by simp [expected], by simp [external],
        by simp [expected, external]⟩, Or.inr missing⟩
    · cases passed

theorem validateContract_families {contract : Contract}
    (passed : validateContract contract = .ok ()) :
    ∀ family ∈ contract.requiredFamilies, ValidFamily family ∧
      (family.sourceState = "sourced" ∨ family.sourceState = "not-sourced") := by
  simp only [validateContract, bind_ok] at passed
  obtain ⟨_, -, _, -, _, -, _, -, _, -, _, -, criticalIDs, -, families, checked, -⟩ := passed
  exact foldlM_each (fun state family next taken => validateFamily_ok taken) checked

end Validation

end CloudRing.GitOpsOwnership
