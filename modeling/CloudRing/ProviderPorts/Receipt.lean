import CloudRing.Library.Check
import CloudRing.Library.Hex
import CloudRing.Library.Pattern
import Mathlib.Data.String.Basic

/-!
# Requests and receipts of a provider port

A receipt commits to the request, the state that was reached and the handle of the provider.
-/

namespace CloudRing.ProviderPorts

open Library

/-! ## Names -/

inductive ServiceCategory where
  | compute | volume | network | kubernetes | objectStorage | backup | accessControl | support
  | externalIntegration
  | other
  deriving DecidableEq, Repr

def ServiceCategory.text : ServiceCategory → String
  | .compute => "compute"
  | .volume => "volume"
  | .network => "network"
  | .kubernetes => "kubernetes"
  | .objectStorage => "object-storage"
  | .backup => "backup"
  | .accessControl => "access-control"
  | .support => "support"
  | .externalIntegration => "external-integration"
  | .other => ""

inductive BackendFamily where
  | kubeVirt | openStack | proxmox | bareMetal
  | other
  deriving DecidableEq, Repr

def BackendFamily.text : BackendFamily → String
  | .kubeVirt => "kubevirt"
  | .openStack => "openstack"
  | .proxmox => "proxmox"
  | .bareMetal => "bare-metal"
  | .other => ""

inductive LifecycleVerb where
  | provision | resume | resize | hold | suspend | deprovision
  | other
  deriving DecidableEq, Repr

def LifecycleVerb.text : LifecycleVerb → String
  | .provision => "provision"
  | .resume => "resume"
  | .resize => "resize"
  | .hold => "hold"
  | .suspend => "suspend"
  | .deprovision => "deprovision"
  | .other => ""

inductive ResourceState where
  | pending | provisioning | ready | degraded | suspended | deprovisioning | deleted | failed
  | denied | blocked | retryable
  | other
  deriving DecidableEq, Repr

def ResourceState.text : ResourceState → String
  | .pending => "pending"
  | .provisioning => "provisioning"
  | .ready => "ready"
  | .degraded => "degraded"
  | .suspended => "suspended"
  | .deprovisioning => "deprovisioning"
  | .deleted => "deleted"
  | .failed => "failed"
  | .denied => "denied"
  | .blocked => "blocked"
  | .retryable => "retryable"
  | .other => ""

inductive Failure where
  | invalidRequest | invalidReceipt | invalidAdapterDescriptor | idempotencyConflict
  | tenantIsolationViolation | resourceNotFound | contextCanceled
  deriving DecidableEq, Repr

def Failure.text : Failure → String
  | .invalidRequest => "providerports: invalid provision request"
  | .invalidReceipt => "providerports: invalid provision receipt"
  | .invalidAdapterDescriptor => "providerports: invalid adapter descriptor"
  | .idempotencyConflict =>
    "providerports: idempotency key reused with different request parameters"
  | .tenantIsolationViolation => "providerports: cross-tenant or cross-project access denied"
  | .resourceNotFound => "providerports: resource not found"
  | .contextCanceled => "providerports: operation canceled by caller context"

/-- The class `[a-z0-9._-]`. -/
def isNameChar (char : Char) : Bool :=
  char = '.' || char = '_' || char = '-' || Pattern.isLowerOrDigit char

/-- `validIdentifier`: `^[a-z0-9][a-z0-9._-]{1,62}[a-z0-9]$` without two dots in a row. -/
def validIdentifier (value : String) : Bool :=
  3 ≤ value.toList.length && value.toList.length ≤ 64 &&
    Pattern.bracketed Pattern.isLowerOrDigit isNameChar Pattern.isLowerOrDigit value &&
    !decide (['.', '.'] <:+: value.toList)

/-- `paramKeyPattern`: `^[a-z][a-z0-9_.-]{0,62}$`. -/
def validParamKey (value : String) : Bool :=
  match value.toList with
  | [] => false
  | first :: rest => Pattern.isLower first && rest.length ≤ 62 && rest.all isNameChar

/-- `digestPattern`: `^[a-f0-9]{64}$`. -/
def validDigest (value : String) : Bool :=
  value.toList.length = 64 && value.toList.all Hex.isDigit

/-! ## Requests -/

def provisionRequestSchemaVersion : String := "cloudring.provider-ports.provision-request/v1"

def provisionReceiptSchemaVersion : String := "cloudring.provider-ports.provision-receipt/v1"

/-- `commitmentDomainPrefix`. -/
def commitmentDomain : String := "cloudring/provider-ports/commitment/v1"

def maxParametersCount : Nat := 64

def maxParameterValue : Nat := 1024

structure Parameter where
  (key value : String)
  deriving DecidableEq, Repr

structure ProvisionRequest where
  schemaVersion : String
  serviceCategory : ServiceCategory
  (adapterID tenantID projectID resourceID : String)
  idempotencyKey : String
  verb : LifecycleVerb
  parameters : List Parameter
  deriving DecidableEq, Repr

def checkParameter (previous : Option String) (param : Parameter) :
    Except Failure (Option String) := do
  ensure .invalidRequest (validParamKey param.key && !Pattern.blank param.value &&
    param.value.utf8ByteSize ≤ maxParameterValue && '\x00' ∉ param.value.toList)
  ensure .invalidRequest (previous.all fun key => key < param.key)
  return some param.key

def validateProvisionRequest (req : ProvisionRequest) : Except Failure Unit := do
  ensure .invalidRequest (req.schemaVersion = provisionRequestSchemaVersion &&
    req.serviceCategory ≠ .other && validIdentifier req.adapterID &&
    validIdentifier req.tenantID && validIdentifier req.projectID &&
    validIdentifier req.resourceID && validIdentifier req.idempotencyKey && req.verb ≠ .other &&
    req.parameters.length ≤ maxParametersCount)
  let _ ← req.parameters.foldlM checkParameter none
  return ()

class Platform where
  sha256 : List Char → List UInt8
  sha256_length : ∀ text, (sha256 text).length = 32

def ProvisionRequest.fields (req : ProvisionRequest) : List String :=
  [req.schemaVersion, req.serviceCategory.text, req.adapterID, req.tenantID, req.projectID,
    req.resourceID, req.idempotencyKey, req.verb.text] ++
    req.parameters.flatMap fun param => [param.key, param.value]

section Digests

variable [Platform]

def ProvisionRequest.digest (req : ProvisionRequest) : String :=
  Hex.text (Platform.sha256 (Pattern.terminated '\x00' req.fields))

def requestSHA256 (req : ProvisionRequest) : Except Failure String := do
  validateProvisionRequest req
  return req.digest

def receiptCommitmentSHA256 (req : ProvisionRequest) (state : ResourceState)
    (providerHandle : String) : Except Failure String := do
  let reqDigest ← requestSHA256 req
  ensure .invalidReceipt (state ≠ .other && validIdentifier providerHandle)
  return Hex.text (Platform.sha256 (Pattern.terminated '\x00'
    [commitmentDomain, reqDigest, state.text] ++ providerHandle.toList))

/-! ## Receipts -/

structure ProvisionReceipt where
  schemaVersion : String
  (requestSHA256 commitmentSHA256 : String)
  (operationID providerHandle adapterID : String)
  serviceCategory : ServiceCategory
  (tenantID projectID resourceID : String)
  state : ResourceState
  blockerCode : String
  deriving DecidableEq, Repr

def ProvisionReceipt.empty : ProvisionReceipt :=
  ⟨"", "", "", "", "", "", .other, "", "", "", .other, ""⟩

def requiresBlocker (state : ResourceState) : Bool :=
  state = .blocked || state = .denied || state = .failed || state = .retryable

def orInvalid {α : Type} : Except Failure α → Except Failure α
  | .ok value => .ok value
  | .error _ => .error .invalidReceipt

omit [Platform] in
theorem orInvalid_ok {α : Type} (value : α) :
    orInvalid (.ok value : Except Failure α) = .ok value := rfl

def validateProvisionReceipt (req : ProvisionRequest) (receipt : ProvisionReceipt) :
    Except Failure Unit := do
  let reqDigest ← orInvalid (requestSHA256 req)
  let expectedCommitment ←
    orInvalid (receiptCommitmentSHA256 req receipt.state receipt.providerHandle)
  ensure .invalidReceipt (receipt.schemaVersion = provisionReceiptSchemaVersion &&
    receipt.requestSHA256 = reqDigest && validDigest receipt.commitmentSHA256 &&
    receipt.commitmentSHA256 = expectedCommitment && validIdentifier receipt.operationID &&
    receipt.adapterID = req.adapterID && receipt.serviceCategory = req.serviceCategory &&
    receipt.tenantID = req.tenantID && receipt.projectID = req.projectID &&
    receipt.resourceID = req.resourceID)
  ensure .invalidReceipt
    (!(requiresBlocker receipt.state && !validIdentifier receipt.blockerCode))
  ensure .invalidReceipt (!(!requiresBlocker receipt.state && receipt.blockerCode ≠ ""))

/-- The receipt that `NewProvisionReceipt` builds. -/
def ProvisionRequest.receipt (req : ProvisionRequest) (reqDigest commitment operationID : String)
    (state : ResourceState) (providerHandle blockerCode : String) : ProvisionReceipt where
  schemaVersion := provisionReceiptSchemaVersion
  requestSHA256 := reqDigest
  commitmentSHA256 := commitment
  operationID := operationID
  providerHandle := providerHandle
  adapterID := req.adapterID
  serviceCategory := req.serviceCategory
  tenantID := req.tenantID
  projectID := req.projectID
  resourceID := req.resourceID
  state := state
  blockerCode := blockerCode

def newProvisionReceipt (req : ProvisionRequest) (operationID : String) (state : ResourceState)
    (providerHandle blockerCode : String) : Except Failure ProvisionReceipt := do
  let reqDigest ← orInvalid (requestSHA256 req)
  let commitment ← orInvalid (receiptCommitmentSHA256 req state providerHandle)
  let receipt := req.receipt reqDigest commitment operationID state providerHandle blockerCode
  validateProvisionReceipt req receipt
  return receipt

end Digests

/-! ## Identifiers that are made of digits -/

theorem isLowerOrDigit_of_isDigit {char : Char} (digit : Hex.isDigit char = true) :
    Pattern.isLowerOrDigit char = true := by
  simp only [Hex.isDigit, Bool.or_eq_true, Bool.and_eq_true, decide_eq_true_eq] at digit
  simp only [Pattern.isLowerOrDigit, Pattern.isLower, Bool.or_eq_true, Bool.and_eq_true,
    decide_eq_true_eq]
  rcases digit with number | ⟨low, high⟩
  · exact .inr number
  · exact .inl ⟨low, high.trans (by decide)⟩

theorem validIdentifier_of_digits {value : String} {first : Char} {start digits : List Char}
    (shape : value.toList = (first :: start) ++ digits)
    (head : Pattern.isLowerOrDigit first = true)
    (inner : ∀ char ∈ first :: start, isNameChar char = true ∧ char ≠ '.')
    (hex : ∀ char ∈ digits, Hex.isDigit char = true) (some : digits ≠ [])
    (long : 3 ≤ value.toList.length) (short : value.toList.length ≤ 64) :
    validIdentifier value = true := by
  have letters : ∀ char ∈ digits, Pattern.isLowerOrDigit char = true := fun char member =>
    isLowerOrDigit_of_isDigit (hex char member)
  have dotless : '.' ∉ value.toList := by
    intro member
    rw [shape, List.mem_append] at member
    rcases member with early | late
    · exact (inner '.' early).2 rfl
    · exact absurd (hex '.' late) (by decide)
  have noDots : ¬['.', '.'] <:+: value.toList := fun infixed =>
    dotless (infixed.subset List.mem_cons_self)
  have pattern : Pattern.bracketed Pattern.isLowerOrDigit isNameChar Pattern.isLowerOrDigit value =
      true := by
    have last : (start ++ digits).getLast?.any Pattern.isLowerOrDigit = true := by
      rw [List.getLast?_append_of_ne_nil start some, List.getLast?_eq_some_getLast some]
      exact letters _ (List.getLast_mem some)
    have middle : (start ++ digits).dropLast.all isNameChar = true := by
      rw [List.all_eq_true]
      intro char member
      rcases List.mem_append.mp (List.dropLast_subset _ member) with early | late
      · exact (inner char (List.mem_cons_of_mem _ early)).1
      · simp only [isNameChar, letters char late, Bool.or_true]
    simp only [Pattern.bracketed, shape, List.cons_append, head, last, middle, Bool.and_true,
      Bool.or_true]
  simp only [validIdentifier, Bool.and_eq_true, decide_eq_true_eq, Bool.not_eq_true',
    decide_eq_false_iff_not]
  exact ⟨⟨⟨long, short⟩, pattern⟩, noDots⟩

theorem validIdentifier_clean {value : String} (valid : validIdentifier value = true) :
    '\x00' ∉ value.toList := by
  simp only [validIdentifier, Bool.and_eq_true] at valid
  exact Pattern.bracketed_notMem valid.1.2 (by decide) (by decide) (by decide)

/-! ## A digest determines the request -/

theorem validateProvisionRequest_clean {req : ProvisionRequest}
    (valid : validateProvisionRequest req = .ok ()) :
    ∀ field ∈ req.fields, '\x00' ∉ field.toList := by
  simp only [validateProvisionRequest, bind_ok] at valid
  obtain ⟨_, names, last, looped, -⟩ := valid
  simp only [ensure_ok, Bool.and_eq_true, decide_eq_true_eq, and_assoc] at names
  obtain ⟨schema, -, adapter, tenant, project, resource, key, -⟩ := names
  have params : ∀ param ∈ req.parameters,
      '\x00' ∉ param.key.toList ∧ '\x00' ∉ param.value.toList := by
    refine foldlM_each ?_ looped
    intro state param next taken
    obtain ⟨checked, -⟩ := check_bind.mp taken
    simp only [ensure_ok, Bool.and_eq_true, decide_eq_true_eq] at checked
    refine ⟨?_, checked.2⟩
    intro member
    have pattern := checked.1.1.1
    unfold validParamKey at pattern
    split at pattern
    · rename_i empty
      rw [empty] at member
      exact absurd member List.not_mem_nil
    · rename_i first rest shape
      simp only [Bool.and_eq_true, List.all_eq_true] at pattern
      rw [shape] at member
      rcases List.mem_cons.mp member with same | later
      · rw [← same] at pattern
        exact absurd pattern.1.1 (by decide)
      · exact absurd (pattern.2 _ later) (by decide)
  intro field member
  rw [ProvisionRequest.fields, List.mem_append] at member
  rcases member with fixed | listed
  · simp only [List.mem_cons, List.not_mem_nil, or_false] at fixed
    rcases fixed with rfl | rfl | rfl | rfl | rfl | rfl | rfl | rfl
    · rw [schema]
      decide
    · cases req.serviceCategory <;> decide
    · exact validIdentifier_clean adapter
    · exact validIdentifier_clean tenant
    · exact validIdentifier_clean project
    · exact validIdentifier_clean resource
    · exact validIdentifier_clean key
    · cases req.verb <;> decide
  · obtain ⟨param, isParam, inside⟩ := List.mem_flatMap.mp listed
    rcases List.mem_pair.mp inside with rfl | rfl
    · exact (params param isParam).1
    · exact (params param isParam).2

theorem ServiceCategory.text_inj {left right : ServiceCategory} (same : left.text = right.text) :
    left = right := by
  revert same
  cases left <;> cases right <;> decide

theorem LifecycleVerb.text_inj {left right : LifecycleVerb} (same : left.text = right.text) :
    left = right := by
  revert same
  cases left <;> cases right <;> decide

theorem parameters_inj {left right : List Parameter}
    (same : (left.flatMap fun param => [param.key, param.value]) =
      right.flatMap fun param => [param.key, param.value]) : left = right := by
  induction left generalizing right with
  | nil =>
    cases right with
    | nil => rfl
    | cons param rest => simp at same
  | cons param rest ih =>
    cases right with
    | nil => simp at same
    | cons param' rest' =>
      simp only [List.flatMap_cons, List.cons_append, List.nil_append, List.cons.injEq] at same
      obtain ⟨key, value, later⟩ := same
      rw [ih later, (show param = param' by cases param; cases param'; simp_all)]

theorem ProvisionRequest.fields_inj {left right : ProvisionRequest}
    (same : left.fields = right.fields) : left = right := by
  simp only [ProvisionRequest.fields, List.cons_append, List.nil_append, List.cons.injEq] at same
  obtain ⟨schema, category, adapter, tenant, project, resource, key, verb, params⟩ := same
  have category := ServiceCategory.text_inj category
  have verb := LifecycleVerb.text_inj verb
  have params := parameters_inj params
  cases left
  cases right
  simp_all

/-- The bytes that `RequestSHA256` hashes determine the request. -/
theorem requestSHA256_preimage_inj (left right : ProvisionRequest)
    (valid : validateProvisionRequest left = .ok ())
    (valid' : validateProvisionRequest right = .ok ())
    (same : Utf8.encode (Pattern.terminated '\x00' left.fields) =
      Utf8.encode (Pattern.terminated '\x00' right.fields)) : left = right :=
  ProvisionRequest.fields_inj (Pattern.terminated_inj (validateProvisionRequest_clean valid)
    (validateProvisionRequest_clean valid') (Utf8.encode_injective same))

def sampleRequest : ProvisionRequest :=
  ⟨provisionRequestSchemaVersion, .compute, "adapter-one", "tenant-one", "project-one",
    "machine-one", "key-one", .provision, [⟨"size", "small"⟩]⟩

theorem requestSHA256_preimage_inj_sample :
    validateProvisionRequest sampleRequest = .ok () ∧ ∀ other,
      validateProvisionRequest other = .ok () →
      Utf8.encode (Pattern.terminated '\x00' sampleRequest.fields) =
        Utf8.encode (Pattern.terminated '\x00' other.fields) → sampleRequest = other :=
  ⟨by rfl, fun other => requestSHA256_preimage_inj sampleRequest other (by rfl)⟩

end CloudRing.ProviderPorts
