import CloudRing.Library.Check
import CloudRing.Library.Exit
import CloudRing.Library.Hex

/-!
# The scratch namespace of a restore

`Create` and `Cleanup` of the package `scratchnamespace`, as procedures that ask for checkpoints,
commands of the cluster, the clock and a nonce.
-/

namespace CloudRing.ScratchNamespace

open Library Library.Program

/-! ## Records -/

abbrev Labels := List (String × String)

def Labels.get (labels : Labels) (key : String) : String := (labels.lookup key).getD ""

/-- `maps.Equal`. -/
def mapsEqual (first second : Labels) : Bool :=
  first.length = second.length && first.all fun (key, value) => second.lookup key = some value

def Labels.set (labels : Labels) (key value : String) : Labels :=
  (key, value) :: labels.filter fun entry => entry.1 ≠ key

/-- The constant `schema`. -/
def schema : String := "cloudring.backup.scratch-namespace/v1"

def operationLabel : String := "cloudring.io/restore-operation"

def nonceAnnotation : String := "cloudring.io/restore-create-nonce"

def scopeAnnotation : String := "cloudring.io/restore-scope-sha256"

/-- `QuietWindow`, thirty seconds in nanoseconds. -/
def quietWindow : Int := 30 * 1000000000

structure Binding where
  (operationID namespaceName scopeSHA256 : String)
  deriving DecidableEq, Repr

structure Identity where
  (name uid resourceVersion : String)
  deriving DecidableEq, Repr

structure Sweep where
  (observedAt inventorySHA256 : String)
  namespaceCount : Int
  deriving DecidableEq, Repr

structure CleanupReceipt where
  (startedAt completedAt : String)
  complete : Bool
  twoSweepQuietWindowSeconds : Int
  sweeps : List Sweep
  deriving DecidableEq, Repr

structure CreateFence where
  schemaVersion : String
  binding : Binding
  nonce : String
  labels : Labels
  deriving DecidableEq, Repr

structure CreatedRecord where
  binding : Binding
  identity : Identity
  deriving DecidableEq, Repr

structure CleanupRecord where
  binding : Binding
  receipt : CleanupReceipt
  deriving DecidableEq, Repr

structure NamespaceObject where
  (apiVersion kind name uid resourceVersion : String)
  deletionTimestamp : Option String
  (labels annotations : Labels)
  deriving DecidableEq, Repr

structure Manifest where
  name : String
  (labels annotations : Labels)
  deriving DecidableEq, Repr

inductive Output where
  | failed
  | empty
  | garbage
  | object (found : NamespaceObject)
  deriving DecidableEq, Repr

/-! ## Calls -/

inductive Call where
  | readFence
  | readCreated
  | readCompleted
  | writeFence (fence : CreateFence)
  | writeCreated (record : CreatedRecord)
  | writeCompleted (record : CleanupRecord)
  | writeIntent (record : CreatedRecord)
  | nonce
  | get
  | dryRun (manifest : Manifest)
  | create (manifest : Manifest)
  | delete (uid resourceVersion : String)
  | now
  | sleep (duration : Int)

@[reducible] def Reply : Call → Type
  | .readFence => Except String (Option CreateFence)
  | .readCreated => Except String (Option CreatedRecord)
  | .readCompleted => Except String (Option CleanupRecord)
  | .writeFence _ | .writeCreated _ | .writeCompleted _ | .writeIntent _ => Bool
  | .nonce => Option String
  | .get => Output
  | .dryRun _ => Bool
  | .create _ => Output
  | .delete _ _ => Bool
  | .now => Int
  | .sleep _ => Bool

abbrev Step (α : Type) := Exiting Reply String α

def ask (call : Call) : Step (Reply call) := liftM (request call : Program Reply (Reply call))

def fail {α : Type} (message : String) : Step α := leave (pure message)

def demand (holds : Bool) (message : String) : Step Unit := Program.require holds (pure message)

/-- `sha256.Sum256`, and the form `RFC3339Nano` of times. -/
class Runtime where
  sha256 : List UInt8 → List UInt8
  format : Int → String
  parse : String → Option Int
  parse_format : ∀ {time parsed}, parse (format time) = some parsed → parsed = time

/-! ## Checks -/

def nameChar (char : Char) : Bool := ('a' ≤ char && char ≤ 'z') || ('0' ≤ char && char ≤ '9')

/-- `namePattern`. -/
def validName (text : String) : Bool :=
  1 ≤ text.toList.length && text.toList.length ≤ 63 &&
    text.toList.all (fun char => nameChar char || char = '-') &&
    text.toList.head?.any nameChar && text.toList.getLast?.any nameChar

def validSHA (text : String) : Bool := text.toList.length = 64 && text.toList.all Hex.isDigit

/-- `validate`. -/
def validOptions (binding : Binding) (labels : Labels) : Bool :=
  !(!validName binding.operationID || !validName binding.namespaceName ||
    !validSHA binding.scopeSHA256 ||
    labels.get operationLabel ≠ "" && labels.get operationLabel ≠ binding.operationID)

/-- `validateFence`. -/
def validFence (fence : CreateFence) (binding : Binding) : Bool :=
  !(fence.schemaVersion ≠ schema || fence.binding ≠ binding || !validSHA fence.nonce)

def validCreated (record : CreatedRecord) (binding : Binding) : Bool :=
  record.binding = binding && record.identity.name = binding.namespaceName &&
    record.identity.uid ≠ "" && record.identity.resourceVersion ≠ ""

def objectIdentity (object : NamespaceObject) : Identity :=
  ⟨object.name, object.uid, object.resourceVersion⟩

def owned (object : NamespaceObject) (fence : CreateFence) : Bool :=
  fence.labels.all (fun (key, value) => object.labels.get key = value) &&
    object.apiVersion = "v1" && object.kind = "Namespace" &&
    object.name = fence.binding.namespaceName && object.uid ≠ "" &&
    object.resourceVersion ≠ "" &&
    object.labels.get operationLabel = fence.binding.operationID &&
    object.annotations.get nonceAnnotation = fence.nonce &&
    object.annotations.get scopeAnnotation = fence.binding.scopeSHA256

section Procedures

variable [Runtime]

def absentInventory (namespaceName : String) : String :=
  "sha256:" ++ Hex.text (Runtime.sha256 (Utf8.ofString (namespaceName ++ "/0")))

def validReceipt (receipt : CleanupReceipt) : Bool :=
  receipt.complete && receipt.twoSweepQuietWindowSeconds = 30 &&
    match receipt.sweeps with
    | [one, two] =>
      match Runtime.parse receipt.startedAt, Runtime.parse receipt.completedAt,
        Runtime.parse one.observedAt, Runtime.parse two.observedAt with
      | some start, some stop, some first, some second =>
        !(first < start) && !(stop < second) && second - first ≥ quietWindow &&
          one.namespaceCount = 0 && two.namespaceCount = 0 &&
          one.inventorySHA256 = two.inventorySHA256
      | _, _, _, _ => false
    | _ => false

/-! ## The procedures -/

def get (binding : Binding) : Step (Except String (Option NamespaceObject)) := do
  let output : Output ← ask .get
  match output with
  | .failed => return .error "read exact scratch namespace"
  | .empty => return .ok none
  | .garbage => return .error "scratch namespace response is invalid"
  | .object found =>
    if found.apiVersion ≠ "v1" || found.kind ≠ "Namespace" ||
        found.name ≠ binding.namespaceName || found.uid = "" || found.resourceVersion = "" then
      return .error "scratch namespace response is invalid"
    else return .ok (some found)

def newFence (binding : Binding) (labels : Labels) : Step CreateFence := do
  let found ← get binding
  match found with
  | .error _ | .ok (some _) => fail "scratch namespace was not proved absent"
  | .ok none =>
    let nonce : Option String ← ask .nonce
    match nonce with
    | none => fail "generate scratch namespace create nonce"
    | some nonce =>
      let fence : CreateFence := ⟨schema, binding, nonce, labels⟩
      let written : Bool ← ask (.writeFence fence)
      demand written "persist scratch namespace checkpoint"
      return fence

def obtainFence (binding : Binding) (labels : Labels) : Step CreateFence := do
  let found : Except String (Option CreateFence) ← ask .readFence
  match found with
  | .error message => fail message
  | .ok (some fence) => return fence
  | .ok none => newFence binding labels

def readCreated (binding : Binding) : Step (Option CreatedRecord) := do
  let found : Except String (Option CreatedRecord) ← ask .readCreated
  match found with
  | .error _ => fail "scratch namespace recorded identity is invalid"
  | .ok none => return none
  | .ok (some recorded) =>
    demand (validCreated recorded binding) "scratch namespace recorded identity is invalid"
    return some recorded

def manifestOf (binding : Binding) (fence : CreateFence) : Manifest where
  name := binding.namespaceName
  labels := fence.labels.set operationLabel binding.operationID
  annotations := [( nonceAnnotation, fence.nonce), ( scopeAnnotation, binding.scopeSHA256)]

/-- The create of an absent namespace. An answer that does not show the namespace of the fence is
resolved by reading it. -/
def submitCreate (binding : Binding) (fence : CreateFence) : Step NamespaceObject := do
  let accepted : Bool ← ask (.dryRun (manifestOf binding fence))
  demand accepted "scratch namespace server dry-run was rejected"
  let output : Output ← ask (.create (manifestOf binding fence))
  match output with
  | .object found =>
    if owned found fence then return found else resolveCreate
  | _ => resolveCreate
where
  resolveCreate : Step NamespaceObject := do
    let found ← get binding
    match found with
    | .error _ | .ok none => fail "scratch namespace create outcome is uncertain; replay cleanup"
    | .ok (some object) => return object

def ensureNamespace (binding : Binding) (fence : CreateFence) (recorded : Option CreatedRecord) :
    Step NamespaceObject := do
  let found ← get binding
  match found with
  | .error message => fail message
  | .ok (some object) => return object
  | .ok none =>
    demand recorded.isNone "previously created scratch namespace is absent"
    submitCreate binding fence

/-- The end of `Create`, on the namespace. -/
def recordIdentity (binding : Binding) (recorded : Option CreatedRecord) (identity : Identity) :
    Step Identity :=
  match recorded with
  | some record => do
    demand (identity.uid = record.identity.uid) "scratch namespace was replaced"
    return identity
  | none => do
    let written : Bool ← ask (.writeCreated ⟨binding, identity⟩)
    demand written "persist scratch namespace checkpoint"
    return identity

def create (binding : Binding) (labels : Labels) : Step Identity := do
  demand (validOptions binding labels) "scratch namespace options are invalid"
  let fence ← obtainFence binding labels
  demand (validFence fence binding && mapsEqual fence.labels labels)
    "scratch namespace create intent or labels changed"
  let completed : Except String (Option CleanupRecord) ← ask .readCompleted
  demand (completed matches .ok none)
    "scratch namespace operation is already cleaned up or unreadable"
  let recorded ← readCreated binding
  let object ← ensureNamespace binding fence recorded
  demand (owned object fence && object.deletionTimestamp.isNone)
    "scratch namespace create identity or ownership changed"
  recordIdentity binding recorded (objectIdentity object)

def readCompleted (binding : Binding) : Step (Option CleanupRecord) := do
  let found : Except String (Option CleanupRecord) ← ask .readCompleted
  match found with
  | .error _ => fail "scratch namespace cleanup checkpoint is invalid"
  | .ok none => return none
  | .ok (some completed) =>
    demand (completed.binding = binding && validReceipt completed.receipt &&
        completed.receipt.sweeps.head?.any fun sweep =>
          sweep.inventorySHA256 = absentInventory binding.namespaceName)
      "scratch namespace cleanup checkpoint is invalid"
    return some completed

def submitDelete (binding : Binding) (fence : CreateFence) (identity : Identity) : Step Unit := do
  let intended : Bool ← ask (.writeIntent ⟨binding, identity⟩)
  demand intended "persist scratch namespace delete intent"
  let deleted : Bool ← ask (.delete identity.uid identity.resourceVersion)
  if deleted then return ()
  else
    let found ← get binding
    match found with
    | .ok none => return ()
    | .ok (some current) =>
      demand (owned current fence && current.uid = identity.uid &&
        current.deletionTimestamp.isSome)
        "scratch namespace delete outcome is uncertain; replay cleanup"
    | .error _ => fail "scratch namespace delete outcome is uncertain; replay cleanup"

def awaitDeletion (binding : Binding) (fence : CreateFence) (identity : Identity)
    (deadline : Int) : Nat → Step Unit
  | 0 => fail "scratch namespace deletion is awaited"
  | reads + 1 => do
    let found ← get binding
    match found with
    | .error message => fail message
    | .ok none => return ()
    | .ok (some current) =>
      demand (owned current fence && current.uid = identity.uid)
        "scratch namespace was replaced during cleanup"
      let now : Int ← ask .now
      demand (now < deadline) "scratch namespace deletion did not complete"
      let slept : Bool ← ask (.sleep (2 * 1000000000))
      demand slept "context canceled"
      awaitDeletion binding fence identity deadline reads

def recordMissing (binding : Binding) (recorded : Option CreatedRecord) (identity : Identity) :
    Step Unit :=
  match recorded with
  | some _ => return ()
  | none => do
    let written : Bool ← ask (.writeCreated ⟨binding, identity⟩)
    demand written "persist scratch namespace checkpoint"

def requestDeletion (binding : Binding) (fence : CreateFence) (object : NamespaceObject) :
    Step Unit :=
  if object.deletionTimestamp.isSome then return ()
  else submitDelete binding fence (objectIdentity object)

def removeNamespace (binding : Binding) (fence : CreateFence) (recorded : Option CreatedRecord)
    (object : NamespaceObject) (reads : Nat) : Step Unit := do
  demand (owned object fence && recorded.all fun record => object.uid = record.identity.uid)
    "scratch namespace cleanup ownership or UID changed"
  recordMissing binding recorded (objectIdentity object)
  requestDeletion binding fence object
  let now : Int ← ask .now
  awaitDeletion binding fence (objectIdentity object) (now + 15 * 60 * 1000000000) reads

def sweep (binding : Binding) : Step Sweep := do
  let found ← get binding
  match found with
  | .error _ | .ok (some _) => fail "scratch namespace absence sweep failed"
  | .ok none =>
    let now : Int ← ask .now
    return ⟨Runtime.format now, absentInventory binding.namespaceName, 0⟩

def proveAbsence (binding : Binding) (started : Int) : Step CleanupReceipt := do
  let first ← sweep binding
  let slept : Bool ← ask (.sleep quietWindow)
  demand slept "context canceled"
  let second ← sweep binding
  let completed : Int ← ask .now
  let receipt : CleanupReceipt :=
    ⟨Runtime.format started, Runtime.format completed, true, 30, [first, second]⟩
  demand (validReceipt receipt) "scratch namespace quiet window was not observed"
  let written : Bool ← ask (.writeCompleted ⟨binding, receipt⟩)
  demand written "persist scratch namespace checkpoint"
  return receipt

def cleanup (binding : Binding) (labels : Labels) (reads : Nat) : Step CleanupReceipt := do
  demand (validOptions binding labels) "scratch namespace options are invalid"
  let loaded : Except String (Option CreateFence) ← ask .readFence
  match loaded with
  | .error _ | .ok none => fail "scratch namespace create intent is absent or invalid"
  | .ok (some fence) =>
    demand (validFence fence binding) "scratch namespace create intent is absent or invalid"
    let recorded ← readCreated binding
    let completed ← readCompleted binding
    let started : Int ← ask .now
    let found ← get binding
    match found, completed with
    | .error message, _ => fail message
    | .ok present, some record =>
      demand present.isNone "cleaned scratch namespace is present again"
      return record.receipt
    | .ok none, none => proveAbsence binding started
    | .ok (some object), none =>
      removeNamespace binding fence recorded object reads
      proveAbsence binding started

end Procedures

end CloudRing.ScratchNamespace
