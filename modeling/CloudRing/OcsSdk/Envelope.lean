import CloudRing.Library.Check
import CloudRing.Library.Pattern
import CloudRing.Library.Utf8

/-!
# Operation envelopes of the Rust SDK

`canonical_wire_string` writes every field of an envelope after its length in bytes, so that the
text determines the envelope.
-/

namespace CloudRing.OcsSdk

open Library

/-! ## Model -/

inductive OperationState where
  | pending | running | succeeded | failed | cancelled
  deriving DecidableEq, Repr

def OperationState.asStr : OperationState → String
  | .pending => "pending"
  | .running => "running"
  | .succeeded => "succeeded"
  | .failed => "failed"
  | .cancelled => "cancelled"

def OperationState.canTransitionTo (state next : OperationState) : Bool :=
  state = next || match state, next with
    | .pending, .running | .pending, .cancelled => true
    | .running, .succeeded | .running, .failed | .running, .cancelled => true
    | _, _ => false

inductive ServiceCategory where
  | compute | volume | network | kubernetes | objectStorage | backup | accessControl | support
  | externalIntegration
  deriving DecidableEq, Repr

def ServiceCategory.asStr : ServiceCategory → String
  | .compute => "compute"
  | .volume => "volume"
  | .network => "network"
  | .kubernetes => "kubernetes"
  | .objectStorage => "object-storage"
  | .backup => "backup"
  | .accessControl => "access-control"
  | .support => "support"
  | .externalIntegration => "external-integration"

inductive OcsError where
  | invalidIdentifier (value : String)
  | invalidStateTransition (state next : OperationState)
  deriving DecidableEq, Repr

def OperationState.transitionTo (state next : OperationState) : Except OcsError OperationState :=
  if state.canTransitionTo next then .ok next else .error (.invalidStateTransition state next)

def apiVersion : String := "ocsv3.cloudring.io/v1alpha1"

/-- `str::len`. -/
def len (text : String) : Nat := (Utf8.ofString text).length

/-- `validate_canonical_id`. Every check fails with the same error. -/
def validateCanonicalID (value : String) : Except OcsError Unit :=
  ensure (.invalidIdentifier value) (3 ≤ len value && len value ≤ 64 &&
    !decide ("..".toList <:+: value.toList) && Pattern.bracketed Pattern.isLowerOrDigit
      (fun char => Pattern.isLowerOrDigit char || char = '-' || char = '_' || char = '.')
      Pattern.isLowerOrDigit value)

/-- A resource identity that `ResourceIdentity::new` accepts. -/
structure ResourceIdentity where
  (tenantID projectID : String)
  serviceCategory : ServiceCategory
  resourceID : String
  valid : forEach validateCanonicalID [tenantID, projectID, resourceID] = .ok ()

def ResourceIdentity.new (tenantID projectID : String) (serviceCategory : ServiceCategory)
    (resourceID : String) : Except OcsError ResourceIdentity :=
  match valid : forEach validateCanonicalID [tenantID, projectID, resourceID] with
  | .error failure => .error failure
  | .ok () => .ok ⟨tenantID, projectID, serviceCategory, resourceID, valid⟩

def ResourceIdentity.toURN (identity : ResourceIdentity) : String :=
  "urn:ocs:v3:" ++ identity.tenantID ++ ":" ++ identity.projectID ++ ":" ++
    identity.serviceCategory.asStr ++ ":" ++ identity.resourceID

/-- The checks of `OperationEnvelope::new`. -/
def checkOperation (operationID idempotencyKey action : String)
    (parameters : List (String × String)) : Except OcsError Unit := do
  forEach validateCanonicalID [operationID, idempotencyKey, action]
  forEach (fun (key, value) => do
    validateCanonicalID key
    ensure (.invalidIdentifier key)
      (!Pattern.blank value && len value ≤ 1024 && '\x00' ∉ value.toList)) parameters

/-- An envelope. The entries of its `BTreeMap` stand in the order of their keys. -/
structure OperationEnvelope where
  (apiVersion operationID idempotencyKey action : String)
  resource : ResourceIdentity
  state : OperationState
  parameters : List (String × String)
  version : apiVersion = OcsSdk.apiVersion
  sorted : (parameters.map Prod.fst).Pairwise (· < ·)
  valid : checkOperation operationID idempotencyKey action parameters = .ok ()

def OperationEnvelope.new (operationID idempotencyKey action : String)
    (resource : ResourceIdentity) (parameters : List (String × String))
    (sorted : (parameters.map Prod.fst).Pairwise (· < ·)) : Except OcsError OperationEnvelope :=
  match valid : checkOperation operationID idempotencyKey action parameters with
  | .error failure => .error failure
  | .ok () => .ok ⟨OcsSdk.apiVersion, operationID, idempotencyKey, action, resource, .pending,
      parameters, rfl, sorted, valid⟩

def OperationEnvelope.advanceState (envelope : OperationEnvelope) (next : OperationState) :
    Except OcsError OperationEnvelope := do
  let next ← envelope.state.transitionTo next
  return { envelope with state := next }

/-- A text after its length. -/
def sized (text : String) : List Char := Nat.toDigits 10 (len text) ++ ':' :: text.toList

def labelled (label text : String) : List Char := label.toList ++ sized text

def parameterText (parameters : List (String × String)) : List Char :=
  parameters.flatMap fun (key, value) => labelled ";p." key ++ labelled "=" value

def OperationEnvelope.canonicalWireString (envelope : OperationEnvelope) : String :=
  String.ofList (labelled "v=" envelope.apiVersion ++ (labelled ";op=" envelope.operationID ++
    (labelled ";idem=" envelope.idempotencyKey ++ (labelled ";act=" envelope.action ++
      (labelled ";urn=" envelope.resource.toURN ++ (labelled ";st=" envelope.state.asStr ++
        (";pc=".toList ++ (Nat.toDigits 10 envelope.parameters.length ++
          parameterText envelope.parameters))))))))

/-! ## Fields are read off one after another -/

theorem labelled_append_inj {label left right : String} {rest rest' : List Char}
    (same : labelled label left ++ rest = labelled label right ++ rest') :
    left = right ∧ rest = rest' := by
  rw [labelled, labelled, List.append_assoc, List.append_assoc] at same
  have sizes := List.append_cancel_left same
  rw [sized, sized, List.append_assoc, List.append_assoc] at sizes
  obtain ⟨digits, texts⟩ := Pattern.append_cons_inj (Pattern.notMem_toDigits (by decide) _)
    (Pattern.notMem_toDigits (by decide) _) sizes
  replace texts : left.toList ++ rest = right.toList ++ rest' := texts
  -- The two texts begin with the same number of bytes.
  have bytes : Utf8.ofString left ++ Utf8.encode rest =
      Utf8.ofString right ++ Utf8.encode rest' := by
    have encoded := congrArg Utf8.encode texts
    rwa [Utf8.encode_append, Utf8.encode_append] at encoded
  have equal : left.toList = right.toList :=
    Utf8.encode_injective (List.append_inj bytes (Pattern.toDigits_inj digits)).1
  rw [equal] at texts
  exact ⟨String.toList_inj.mp equal, List.append_cancel_left texts⟩

theorem parameterText_inj {left right : List (String × String)}
    (same : parameterText left = parameterText right) : left = right := by
  induction left generalizing right with
  | nil =>
    cases right with
    | nil => rfl
    | cons entry rest => cases same
  | cons entry rest ih =>
    cases right with
    | nil => cases same
    | cons other rest' =>
      simp only [parameterText, List.flatMap_cons, List.append_assoc] at same
      obtain ⟨key, same⟩ := labelled_append_inj same
      obtain ⟨value, same⟩ := labelled_append_inj same
      rw [Prod.ext key value, ih same]

/-- The number of parameters ends where the parameters begin. -/
theorem count_append_inj {left right : List (String × String)} {count count' : Nat}
    (same : Nat.toDigits 10 count ++ parameterText left =
      Nat.toDigits 10 count' ++ parameterText right) : left = right := by
  have begins : ∀ parameters, ∃ rest, parameterText parameters ++ [';'] = ';' :: rest := by
    intro parameters
    cases parameters with
    | nil => exact ⟨[], rfl⟩
    | cons entry rest => exact ⟨_, rfl⟩
  obtain ⟨rest, first⟩ := begins left
  obtain ⟨rest', second⟩ := begins right
  have ended := congrArg (· ++ [';']) same
  simp only [List.append_assoc, first, second] at ended
  obtain ⟨-, rfl⟩ := Pattern.append_cons_inj (Pattern.notMem_toDigits (by decide) _)
    (Pattern.notMem_toDigits (by decide) _) ended
  exact parameterText_inj (List.append_cancel_right (first.trans second.symm))

/-! ## The text determines the envelope -/

theorem ResourceIdentity.notMem_colon (identity : ResourceIdentity) :
    ∀ id ∈ [identity.tenantID, identity.projectID, identity.resourceID], ':' ∉ id.toList := by
  intro id member
  have valid := forEach_ok.mp identity.valid id member
  simp only [validateCanonicalID, ensure_ok, Bool.and_eq_true] at valid
  exact Pattern.bracketed_notMem valid.2 (by decide) (by decide) (by decide)

theorem ResourceIdentity.toURN_inj {left right : ResourceIdentity}
    (same : left.toURN = right.toURN) : left = right := by
  have clean := left.notMem_colon
  have clean' := right.notMem_colon
  simp only [List.forall_mem_cons] at clean clean'
  have slug : ∀ category : ServiceCategory, ':' ∉ category.asStr.toList := by
    intro category
    cases category <;> decide
  have lists := congrArg String.toList same
  simp only [toURN, String.toList_append, List.append_assoc] at lists
  have lists := List.append_cancel_left lists
  obtain ⟨tenant, lists⟩ := Pattern.append_cons_inj clean.1 clean'.1 lists
  obtain ⟨project, lists⟩ := Pattern.append_cons_inj clean.2.1 clean'.2.1 lists
  obtain ⟨category, resource⟩ := Pattern.append_cons_inj (slug _) (slug _) lists
  have sameCategory : left.serviceCategory = right.serviceCategory := by
    revert category
    cases left.serviceCategory <;> cases right.serviceCategory <;> decide
  cases left
  cases right
  simp_all [String.toList_inj]

theorem OperationState.asStr_inj {left right : OperationState} (same : left.asStr = right.asStr) :
    left = right := by
  revert same
  cases left <;> cases right <;> decide

/-- Two envelopes with the same wire string are equal. -/
theorem canonicalWireString_injective :
    Function.Injective OperationEnvelope.canonicalWireString := by
  intro left right same
  have texts := String.ofList_injective same
  obtain ⟨version, texts⟩ := labelled_append_inj texts
  obtain ⟨operation, texts⟩ := labelled_append_inj texts
  obtain ⟨key, texts⟩ := labelled_append_inj texts
  obtain ⟨action, texts⟩ := labelled_append_inj texts
  obtain ⟨urn, texts⟩ := labelled_append_inj texts
  obtain ⟨state, texts⟩ := labelled_append_inj texts
  have resource := ResourceIdentity.toURN_inj urn
  have state := OperationState.asStr_inj state
  have parameters := count_append_inj (List.append_cancel_left texts)
  cases left
  cases right
  simp_all

end CloudRing.OcsSdk
