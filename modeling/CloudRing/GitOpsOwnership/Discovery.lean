import CloudRing.GitOpsOwnership.Reference
import CloudRing.Library.Check
import CloudRing.Library.Exit
import Mathlib.Data.List.Sort
import Mathlib.Data.String.Basic

/-!
# Closed-world collection

The two collectors of the package run the same loop, here `Collector.collect`.
-/

namespace CloudRing.GitOpsOwnership

open Library

/-! ## Requests and pages -/

def collectionPageLimit : Nat := 500

def fluxKustomizationVersion : String := "kustomize.toolkit.fluxcd.io/v1"

def fluxKustomizationKind : String := "Kustomization"

def fluxKustomizationResource : String := "kustomizations"

def maxCollectionPages : Nat := 100

def maxCollectionObjects : Nat := 100000

def maxCollectionPageBytes : Nat := 16 * 2 ^ 20

def maxCollectionRestarts : Nat := 3

def maxCollectionContinueSize : Nat := 4 * 2 ^ 10

structure CollectionRequest where
  (apiVersion resource namespaceName : String)
  allNamespaces : Bool
  limit : Nat
  (resourceVersion continueToken : String)
  deriving DecidableEq, Repr

/-- The request of a page: the first one asks for resource version zero, a later one only for its
token. -/
def collectionRequest (apiVersion resource namespaceName : String) (allNamespaces : Bool)
    (continueToken : String) : CollectionRequest where
  apiVersion := apiVersion
  resource := resource
  namespaceName := namespaceName
  allNamespaces := allNamespaces
  limit := collectionPageLimit
  resourceVersion := if continueToken = "" then "0" else ""
  continueToken := continueToken

/-- `rawListPage` and `rawKustomizationListPage`. -/
structure ListPage (Raw : Type) where
  (apiVersion kind resourceVersion continueToken : String)
  items : List Raw
  deriving Repr

structure Payload (Raw : Type) where
  size : Nat
  decoded : Option (ListPage Raw)
  deriving Repr

abbrev PageReply (Raw : Type) := Except Int (Payload Raw)

abbrev PageProgram (Raw α : Type) := Program (fun _ : CollectionRequest => PageReply Raw) α

/-! ## The page loop -/

structure Texts where
  (requestFailed pageSize invalidJSON listIdentity lacksVersion versionChanged pageBound
    duplicateObject objectBound tokenSize tokenRepeated expired : String)

/-- What distinguishes the collectors: what they ask for, how an item is decoded and checked, which
text identifies it, and the texts of their errors. -/
structure Collector (Raw α : Type) where
  request : String → CollectionRequest
  (apiVersion kind : String)
  decode : Raw → Except String α
  key : α → String
  texts : Texts

structure Attempt (α : Type) where
  continueToken : String := ""
  resourceVersion : String := ""
  pageCount : Nat := 0
  seenContinue : List String := []
  seenObjects : List String := []
  objects : List α := []

structure Collected (α : Type) where
  resourceVersion : String
  pageCount : Nat
  objects : List α
  deriving Repr, DecidableEq

inductive PageStep (α : Type) where
  | complete (result : Collected α)
  | more (state : Attempt α)

inductive Ending (α : Type) where
  | failed (message : String)
  | expired
  | collected (result : Collected α)

/-- Sort by a key, as `sort.Slice` does for distinct keys. -/
def sortBy {α : Type} (key : α → String) (objects : List α) : List α :=
  objects.insertionSort fun left right => key left ≤ key right

namespace Collector

variable {Raw α : Type} (collector : Collector Raw α)

def readItem (state : Attempt α) (raw : Raw) : Except String (Attempt α) := do
  let item ← collector.decode raw
  ensure collector.texts.duplicateObject (collector.key item ∉ state.seenObjects)
  ensure collector.texts.objectBound ((state.objects ++ [item]).length ≤ maxCollectionObjects)
  return { state with
    seenObjects := collector.key item :: state.seenObjects, objects := state.objects ++ [item] }

def readItems : Attempt α → List Raw → Except String (Attempt α)
  | state, [] => .ok state
  | state, raw :: rest => do
    let next ← collector.readItem state raw
    readItems next rest

def turnPage (state : Attempt α) (token : String) : Except String (PageStep α) := do
  ensure collector.texts.tokenSize (token.utf8ByteSize ≤ maxCollectionContinueSize)
  if token = "" then
    return .complete ⟨state.resourceVersion, state.pageCount, sortBy collector.key state.objects⟩
  else do
    ensure collector.texts.tokenRepeated
      (token ≠ state.continueToken && token ∉ state.seenContinue)
    return .more { state with continueToken := token, seenContinue := token :: state.seenContinue }

def readPage (state : Attempt α) (payload : Payload Raw) : Except String (PageStep α) := do
  ensure collector.texts.pageSize
    (payload.size ≠ 0 && payload.size ≤ maxCollectionPageBytes)
  let page ← require collector.texts.invalidJSON payload.decoded
  ensure collector.texts.listIdentity
    (page.apiVersion = collector.apiVersion && page.kind = collector.kind ++ "List")
  ensure collector.texts.lacksVersion (!Pattern.blank page.resourceVersion)
  ensure collector.texts.versionChanged
    (state.resourceVersion = "" || state.resourceVersion = page.resourceVersion)
  ensure collector.texts.pageBound (state.pageCount + 1 ≤ maxCollectionPages)
  let read ← collector.readItems
    { state with resourceVersion := page.resourceVersion, pageCount := state.pageCount + 1 }
    page.items
  collector.turnPage read page.continueToken

theorem readItems_keeps {state next : Attempt α} {raws : List Raw}
    (read : collector.readItems state raws = .ok next) :
    next.pageCount = state.pageCount ∧ next.resourceVersion = state.resourceVersion ∧
      next.continueToken = state.continueToken := by
  induction raws generalizing state with
  | nil =>
    cases read
    exact ⟨rfl, rfl, rfl⟩
  | cons raw rest ih =>
    rw [readItems] at read
    cases step : collector.readItem state raw with
    | error message =>
      rw [step] at read
      cases read
    | ok middle =>
      rw [step] at read
      obtain ⟨count, version, token⟩ := ih read
      rw [readItem] at step
      cases item : collector.decode raw with
      | error message =>
        rw [item] at step
        cases step
      | ok value =>
        rw [item] at step
        obtain ⟨-, step⟩ := check_bind.mp step
        obtain ⟨-, step⟩ := check_bind.mp step
        cases step
        exact ⟨count, version, token⟩

theorem readPage_ok {state : Attempt α} {payload : Payload Raw} {step : PageStep α}
    (accepted : collector.readPage state payload = .ok step) :
    ∃ page read, payload.decoded = some page ∧
      Pattern.blank page.resourceVersion = false ∧
      (state.resourceVersion = "" ∨ state.resourceVersion = page.resourceVersion) ∧
      state.pageCount + 1 ≤ maxCollectionPages ∧
      collector.readItems { state with
        resourceVersion := page.resourceVersion, pageCount := state.pageCount + 1 } page.items =
          .ok read ∧
      collector.turnPage read page.continueToken = .ok step := by
  simp only [readPage, bind_ok, require_ok] at accepted
  obtain ⟨_, -, page, decoded, _, -, _, version, _, unchanged, _, bound, read, items, turned⟩ :=
    accepted
  refine ⟨page, read, decoded, ?_, ?_, ?_, items, turned⟩
  · simpa using version
  · simpa using unchanged
  · simpa using bound

theorem turnPage_ok {state : Attempt α} {token : String} {step : PageStep α}
    (accepted : collector.turnPage state token = .ok step) :
    (token = "" ∧ step = .complete
      ⟨state.resourceVersion, state.pageCount, sortBy collector.key state.objects⟩) ∨
    (token ≠ "" ∧ step = .more { state with
      continueToken := token, seenContinue := token :: state.seenContinue }) := by
  rw [turnPage] at accepted
  obtain ⟨-, accepted⟩ := check_bind.mp accepted
  split at accepted
  · rename_i last
    cases accepted
    exact Or.inl ⟨last, rfl⟩
  · rename_i goesOn
    obtain ⟨-, accepted⟩ := check_bind.mp accepted
    cases accepted
    exact Or.inr ⟨goesOn, rfl⟩

theorem readPage_more {state next : Attempt α} {payload : Payload Raw}
    (accepted : collector.readPage state payload = .ok (.more next)) :
    next.pageCount = state.pageCount + 1 ∧ state.pageCount + 1 ≤ maxCollectionPages := by
  obtain ⟨page, read, -, -, -, bound, items, turned⟩ := collector.readPage_ok accepted
  rcases collector.turnPage_ok turned with ⟨-, complete⟩ | ⟨-, more⟩
  · cases complete
  · cases more
    exact ⟨(collector.readItems_keeps items).1, bound⟩

/-- The page loop of one attempt. It ends because the page bound is checked on every page that
leads to a next one. -/
def collectPages (state : Attempt α) : PageProgram Raw (Ending α) :=
  .ask (collector.request state.continueToken) fun reply =>
    match reply with
    | .error code => .done (if code = 410 then .expired else .failed collector.texts.requestFailed)
    | .ok payload =>
      match _turned : collector.readPage state payload with
      | .error message => .done (.failed message)
      | .ok (.complete result) => .done (.collected result)
      | .ok (.more next) => collectPages next
termination_by maxCollectionPages - state.pageCount
decreasing_by
  have counted := collector.readPage_more _turned
  omega

theorem collectPages_eq (state : Attempt α) :
    collector.collectPages state =
      .ask (collector.request state.continueToken) fun reply =>
        match reply with
        | .error code =>
          .done (if code = 410 then .expired else .failed collector.texts.requestFailed)
        | .ok payload =>
          match collector.readPage state payload with
          | .error message => .done (.failed message)
          | .ok (.complete result) => .done (.collected result)
          | .ok (.more next) => collector.collectPages next := by
  rw [collectPages]
  congr 1
  funext reply
  cases reply with
  | error code => rfl
  | ok payload =>
    simp only
    split <;> rename_i turned <;> rw [turned]

theorem runWith_collectPages {σ : Type} (state : Attempt α)
    (handler : σ → (request : CollectionRequest) → PageReply Raw × σ) (before : σ) :
    (collector.collectPages state).runWith handler before =
      match handler before (collector.request state.continueToken) with
      | (.error code, after) =>
        (if code = 410 then .expired else .failed collector.texts.requestFailed, after)
      | (.ok payload, after) =>
        match collector.readPage state payload with
        | .error message => (.failed message, after)
        | .ok (.complete result) => (.collected result, after)
        | .ok (.more next) => (collector.collectPages next).runWith handler after := by
  rw [collectPages_eq]
  rcases handled : handler before (collector.request state.continueToken) with ⟨_ | payload, after⟩
  · simp only [Program.runWith, handled]
  · simp only [Program.runWith, handled]
    rcases collector.readPage state payload with message | (result | next) <;> rfl

def collectAttempts : Nat → PageProgram Raw (Except String (Collected α))
  | 0 => .done (.error collector.texts.expired)
  | attempts + 1 => do
    match ← collector.collectPages {} with
    | .failed message => return .error message
    | .collected result => return .ok result
    | .expired => collectAttempts attempts

def collect : PageProgram Raw (Except String (Collected α)) :=
  collector.collectAttempts (maxCollectionRestarts + 1)

end Collector

/-! ## Resource families -/

structure FamilyCollection where
  complete : Bool
  resourceVersionSHA256 : String
  pageCount : Int
  itemCount : Int
  objects : List ResourceRef
  deriving DecidableEq, Repr, Inhabited

structure CollectedScope where
  namespaceName : String
  collected : Collected ResourceRef

/-- The errors of `collectScope`. -/
def scopeTexts : Texts where
  requestFailed := "closed-world Kubernetes collection request failed"
  pageSize := "closed-world Kubernetes collection page is empty or oversized"
  invalidJSON := "closed-world Kubernetes collection page is invalid JSON"
  listIdentity :=
    "closed-world Kubernetes collection list identity does not match the contracted family"
  lacksVersion := "closed-world Kubernetes collection page lacks resourceVersion"
  versionChanged := "closed-world Kubernetes collection resourceVersion changed between pages"
  pageBound := "closed-world Kubernetes collection exceeded page bound"
  duplicateObject := "closed-world Kubernetes collection returned a duplicate object"
  objectBound := "closed-world Kubernetes collection exceeded object bound"
  tokenSize := "closed-world Kubernetes collection continue token is oversized"
  tokenRepeated := "closed-world Kubernetes collection repeated a continue token"
  expired := "closed-world Kubernetes collection repeatedly expired"

section Families

variable [Runtime]

def checkScopeItem (family : ResourceFamily) (namespaceName : String) (ref : ResourceRef) :
    Except String ResourceRef := do
  ensure "closed-world Kubernetes collection item is outside the requested family scope"
    (refInFamilyScope ref family && (!family.namespaced || ref.namespaceName = namespaceName))
  ensure "closed-world Kubernetes collection item identity is invalid" (validateRef ref).isOk
  return ref

def scopeCollector (family : ResourceFamily) (namespaceName : String) :
    Collector ResourceRef ResourceRef where
  request := collectionRequest family.apiVersion family.resource namespaceName false
  apiVersion := family.apiVersion
  kind := family.kind
  decode := checkScopeItem family namespaceName
  key := refKey
  texts := scopeTexts

def collectScope (family : ResourceFamily) (namespaceName : String) :
    Exiting (fun _ : CollectionRequest => PageReply ResourceRef) String CollectedScope :=
  ExceptT.mk do
    let result ← (scopeCollector family namespaceName).collect
    return result.map fun collected => ⟨namespaceName, collected⟩

/-- The variables of `CollectFamily`. -/
structure FamilyState where
  seenNamespace : List String := []
  scopes : List CollectedScope := []
  totalPages : Nat := 0
  totalObjects : Nat := 0
  seenObjects : List String := []

def addObjects : List String → List ResourceRef → Except String (List String)
  | seen, [] => .ok seen
  | seen, ref :: rest => do
    ensure "closed-world family collection returned a duplicate object" (refKey ref ∉ seen)
    addObjects (refKey ref :: seen) rest

def addScope (state : FamilyState) (scope : CollectedScope) : Except String FamilyState := do
  let totalPages := state.totalPages + scope.collected.pageCount
  let totalObjects := state.totalObjects + scope.collected.objects.length
  ensure "closed-world family collection exceeded global bounds"
    (totalPages ≤ maxCollectionPages && totalObjects ≤ maxCollectionObjects)
  let seenObjects ← addObjects state.seenObjects scope.collected.objects
  return { state with
    scopes := state.scopes ++ [scope], totalPages, totalObjects, seenObjects }

def checked {Raw α : Type} (result : Except String α) :
    Exiting (fun _ : CollectionRequest => PageReply Raw) String α :=
  ExceptT.mk (pure result)

def collectScopes (family : ResourceFamily) :
    List String → FamilyState →
      Exiting (fun _ : CollectionRequest => PageReply ResourceRef) String FamilyState
  | [], state => pure state
  | namespaceName :: rest, state => do
    checked (ensure "closed-world collection namespaces must be unique"
      (namespaceName ∉ state.seenNamespace))
    let scope ← collectScope family namespaceName
    let next ← checked (addScope
      { state with seenNamespace := namespaceName :: state.seenNamespace } scope)
    collectScopes family rest next

def collectionResourceVersionDigest (family : ResourceFamily) (scopes : List CollectedScope) :
    String :=
  "sha256:" ++ Runtime.sha256 ("cloudring.gitopsownership.collection-resource-version/v2\x00" ++
    family.apiVersion ++ "\x00" ++ family.resource ++ "\x00" ++
    String.join (scopes.map fun scope =>
      scope.namespaceName ++ "\x00" ++ scope.collected.resourceVersion ++ "\x00"))

/-- The namespaces that `CollectFamily` lists, in order. -/
def familyNamespaces (family : ResourceFamily) : List String :=
  (if family.namespaced then family.discovery.namespaces else [""]).insertionSort (· ≤ ·)

def collectFamily (family : ResourceFamily) :
    Exiting (fun _ : CollectionRequest => PageReply ResourceRef) String FamilyCollection := do
  checked (ensure
    "closed-world collection requires a sourced family with discovery.mode=closed-world"
    (family.sourceState = "sourced" && family.discovery.mode = discoveryModeClosedWorld))
  checked (ensure "namespaced closed-world collection requires at least one namespace"
    (!family.namespaced || !family.discovery.namespaces.isEmpty))
  let state ← collectScopes family (familyNamespaces family) {}
  let objects := sortBy refKey (state.scopes.flatMap fun scope => scope.collected.objects)
  return {
    complete := true
    resourceVersionSHA256 := collectionResourceVersionDigest family state.scopes
    pageCount := state.totalPages
    itemCount := objects.length
    objects }

end Families

/-! ## Flux Kustomizations -/

structure FluxObjectReference where
  (kind namespaceName name : String)
  deriving DecidableEq, Repr, Inhabited

structure InventoryEntry where
  (id version : String)
  deriving DecidableEq, Repr, Inhabited

/-- `KustomizationSnapshot`. A slice that may be nil is an option. -/
structure KustomizationSnapshot where
  (namespaceName name : String)
  generation : Int
  observedGeneration : Int
  ready : Bool
  (suspend prune : Option Bool)
  deletionPolicy : String
  wait : Option Bool
  sourceRef : FluxObjectReference
  path : String
  dependsOn : Option (List FluxObjectReference)
  lastAppliedRevision : String
  inventory : List InventoryEntry
  deriving DecidableEq, Repr, Inhabited

structure KustomizationCollection where
  complete : Bool
  resourceVersionSHA256 : String
  pageCount : Nat
  itemCount : Nat
  kustomizations : List KustomizationSnapshot

structure RawCondition where
  (type status : String)

structure RawKustomization where
  (apiVersion kind namespaceName name : String)
  generation : Int
  (suspend prune : Option Bool)
  deletionPolicy : String
  wait : Option Bool
  sourceRef : FluxObjectReference
  path : String
  dependsOn : List NamespacedName
  observedGeneration : Int
  lastAppliedRevision : String
  conditions : List RawCondition
  inventory : List InventoryEntry

/-- The Ready condition: at most one, with a known status. The second value says whether one was
seen. -/
def readyCondition : List RawCondition → Bool × Bool → Except String Bool
  | [], (ready, _) => .ok ready
  | condition :: rest, (ready, readySeen) =>
    if condition.type ≠ "Ready" then readyCondition rest (ready, readySeen)
    else do
      ensure "Flux Kustomization Ready condition is ambiguous"
        (!readySeen && condition.status ∈ ["True", "False", "Unknown"])
      readyCondition rest (condition.status = "True", true)

def orOwn (own namespaceName : String) : String :=
  if namespaceName = "" then own else namespaceName

/-- `decodeKustomization`, for an item that may be invalid JSON. -/
def decodeKustomization (item : Option RawKustomization) : Except String KustomizationSnapshot := do
  let raw ← require "Flux Kustomization item is invalid JSON" item
  ensure "Flux Kustomization item identity is invalid"
    (raw.apiVersion = fluxKustomizationVersion && raw.kind = fluxKustomizationKind &&
      validDNSLabel raw.namespaceName && validDNSLabel raw.name)
  let ready ← readyCondition raw.conditions (false, false)
  return {
    namespaceName := raw.namespaceName
    name := raw.name
    generation := raw.generation
    observedGeneration := raw.observedGeneration
    ready
    suspend := raw.suspend
    prune := raw.prune
    deletionPolicy := raw.deletionPolicy
    wait := raw.wait
    sourceRef := { raw.sourceRef with
      namespaceName := orOwn raw.namespaceName raw.sourceRef.namespaceName }
    path := raw.path
    lastAppliedRevision := raw.lastAppliedRevision
    dependsOn := some (raw.dependsOn.map fun dependency =>
      ⟨fluxKustomizationKind, orOwn raw.namespaceName dependency.namespaceName, dependency.name⟩)
    inventory := raw.inventory }

def kustomizationKey (root : KustomizationSnapshot) : String :=
  namespacedNameKey ⟨root.namespaceName, root.name⟩

/-- The errors of `CollectKustomizations`. -/
def kustomizationTexts : Texts where
  requestFailed := "all-namespace Flux Kustomization collection request failed"
  pageSize := "all-namespace Flux Kustomization collection page is empty or oversized"
  invalidJSON := "all-namespace Flux Kustomization collection page is invalid JSON"
  listIdentity := "all-namespace Flux Kustomization list identity is invalid"
  lacksVersion := "all-namespace Flux Kustomization collection page lacks resourceVersion"
  versionChanged := "all-namespace Flux Kustomization resourceVersion changed between pages"
  pageBound := "all-namespace Flux Kustomization collection exceeded page bound"
  duplicateObject := "all-namespace Flux Kustomization collection returned a duplicate object"
  objectBound := "all-namespace Flux Kustomization collection exceeded object bound"
  tokenSize := "all-namespace Flux Kustomization continue token is oversized"
  tokenRepeated := "all-namespace Flux Kustomization collection repeated a continue token"
  expired := "all-namespace Flux Kustomization collection repeatedly expired"

def kustomizationCollector : Collector (Option RawKustomization) KustomizationSnapshot where
  request := collectionRequest fluxKustomizationVersion fluxKustomizationResource "" true
  apiVersion := fluxKustomizationVersion
  kind := fluxKustomizationKind
  decode := decodeKustomization
  key := kustomizationKey
  texts := kustomizationTexts

def opaqueResourceVersionDigest [Runtime] (domain resourceVersion : String) : String :=
  "sha256:" ++ Runtime.sha256 (domain ++ "\x00" ++ resourceVersion)

def collectKustomizations [Runtime] :
    Exiting (fun _ : CollectionRequest => PageReply (Option RawKustomization)) String
      KustomizationCollection :=
  ExceptT.mk do
    let result ← kustomizationCollector.collect
    return result.map fun collected => {
      complete := true
      resourceVersionSHA256 := opaqueResourceVersionDigest
        "cloudring.gitopsownership.kustomization-resource-version/v2" collected.resourceVersion
      pageCount := collected.pageCount
      itemCount := collected.objects.length
      kustomizations := collected.objects }

end CloudRing.GitOpsOwnership
