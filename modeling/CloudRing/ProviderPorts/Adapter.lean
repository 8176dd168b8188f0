import CloudRing.ProviderPorts.Receipt

/-!
# The reference adapter

`InMemoryAdapter` keeps a log of requests and the latest receipt of every resource.
-/

namespace CloudRing.ProviderPorts

open Library

/-! ## Model -/

/-- `InMemoryAdapter` without its maps and its health. -/
structure Adapter where
  adapterID : String
  serviceCategory : ServiceCategory
  backendFamily : BackendFamily
  valid : validIdentifier adapterID = true ∧ serviceCategory ≠ .other ∧ backendFamily ≠ .other

def newInMemoryAdapter (adapterID : String) (category : ServiceCategory) (family : BackendFamily) :
    Except Failure Adapter :=
  if valid : validIdentifier adapterID = true ∧ category ≠ .other ∧ family ≠ .other then
    .ok ⟨adapterID, category, family, valid⟩
  else .error .invalidAdapterDescriptor

structure IdempotencyEntry where
  requestSHA256 : String
  receipt : ProvisionReceipt

structure StoredResource where
  (tenantID projectID : String)
  receipt : ProvisionReceipt

structure State where
  idempotencyLog : String → Option IdempotencyEntry
  resources : String → Option StoredResource

def State.empty : State := ⟨fun _ => none, fun _ => none⟩

def stateForVerb : LifecycleVerb → ResourceState
  | .hold | .suspend => .suspended
  | .deprovision => .deleted
  | _ => .ready

def idemKey (req : ProvisionRequest) : String :=
  req.tenantID ++ "\x00" ++ req.projectID ++ "\x00" ++ req.resourceID ++ "\x00" ++
    req.idempotencyKey

inductive Call where
  | execute (canceled : Bool) (req : ProvisionRequest)
  | inspect (canceled : Bool) (tenantID projectID resourceID : String)

def Call.owner : Call → String × String
  | .execute _ req => (req.tenantID, req.projectID)
  | .inspect _ tenantID projectID _ => (tenantID, projectID)

def Call.resource : Call → String
  | .execute _ req => req.resourceID
  | .inspect _ _ _ resourceID => resourceID

def Call.request : Call → Option ProvisionRequest
  | .execute _ req => some req
  | .inspect .. => none

section Calls

variable [Platform] (adapter : Adapter)

def operationID (req : ProvisionRequest) : String :=
  "op-" ++ String.ofList (req.digest.toList.take 24)

def Adapter.handle (req : ProvisionRequest) : String :=
  "hdl-" ++ adapter.backendFamily.text ++ "-" ++
    Hex.text ((Platform.sha256 (Pattern.terminated '\x00'
      [adapter.backendFamily.text, req.tenantID, req.projectID] ++ req.resourceID.toList)).take 10)

def Adapter.newReceipt (req : ProvisionRequest) : Except Failure ProvisionReceipt :=
  newProvisionReceipt req (operationID req) (stateForVerb req.verb) (adapter.handle req) ""

def Adapter.issue (req : ProvisionRequest) : ProvisionReceipt :=
  (adapter.newReceipt req).toOption.getD .empty

theorem Adapter.issue_eq {req : ProvisionRequest} {receipt : ProvisionReceipt}
    (made : adapter.newReceipt req = .ok receipt) : adapter.issue req = receipt := by
  rw [Adapter.issue, made]
  rfl

/-- What `ExecuteLifecycle` checks before it looks at the log. -/
def Adapter.admit (state : State) (canceled : Bool) (req : ProvisionRequest) :
    Except Failure Unit := do
  ensure .contextCanceled !canceled
  validateProvisionRequest req
  ensure .invalidRequest
    (req.adapterID = adapter.adapterID && req.serviceCategory = adapter.serviceCategory)
  match state.resources req.resourceID with
  | some existing =>
    ensure .tenantIsolationViolation
      (existing.tenantID = req.tenantID && existing.projectID = req.projectID)
  | none => ensure .resourceNotFound (req.verb = .provision)

def Adapter.record (state : State) (req : ProvisionRequest) : State where
  idempotencyLog := Function.update state.idempotencyLog (idemKey req)
    (some ⟨req.digest, adapter.issue req⟩)
  resources := Function.update state.resources req.resourceID
    (some ⟨req.tenantID, req.projectID, adapter.issue req⟩)

@[simp] theorem Adapter.record_idempotencyLog (state : State) (req : ProvisionRequest) :
    (adapter.record state req).idempotencyLog = Function.update state.idempotencyLog (idemKey req)
      (some ⟨req.digest, adapter.issue req⟩) := rfl

@[simp] theorem Adapter.record_resources (state : State) (req : ProvisionRequest) :
    (adapter.record state req).resources = Function.update state.resources req.resourceID
      (some ⟨req.tenantID, req.projectID, adapter.issue req⟩) := rfl

def Adapter.executeLifecycle (canceled : Bool) (req : ProvisionRequest) (state : State) :
    Except Failure ProvisionReceipt × State :=
  match adapter.admit state canceled req with
  | .error failure => (.error failure, state)
  | .ok () =>
    match state.idempotencyLog (idemKey req) with
    | some prior =>
      if prior.requestSHA256 ≠ req.digest then (.error .idempotencyConflict, state)
      else (.ok prior.receipt, state)
    | none => (.ok (adapter.issue req), adapter.record state req)

def inspectResource (canceled : Bool) (tenantID projectID resourceID : String) (state : State) :
    Except Failure ProvisionReceipt := do
  ensure .contextCanceled !canceled
  ensure .invalidRequest
    (validIdentifier tenantID && validIdentifier projectID && validIdentifier resourceID)
  let stored ← require .resourceNotFound (state.resources resourceID)
  ensure .tenantIsolationViolation (stored.tenantID = tenantID && stored.projectID = projectID)
  return stored.receipt

def Adapter.call : Call → State → Except Failure ProvisionReceipt × State
  | .execute canceled req, state => adapter.executeLifecycle canceled req state
  | .inspect canceled tenantID projectID resourceID, state =>
    (inspectResource canceled tenantID projectID resourceID state, state)

def Adapter.run (calls : List Call) : State :=
  calls.foldl (fun state call => (adapter.call call state).2) .empty

/-! ## What one call does -/

/-- What is known of a request that passes: it is valid and for this adapter, and its resource, if
there is one, has its owner. -/
structure Admitted (state : State) (req : ProvisionRequest) : Prop where
  valid : validateProvisionRequest req = .ok ()
  mine : req.adapterID = adapter.adapterID ∧ req.serviceCategory = adapter.serviceCategory
  owner : ∀ existing, state.resources req.resourceID = some existing →
    existing.tenantID = req.tenantID ∧ existing.projectID = req.projectID

omit [Platform] in
theorem admit_ok {state : State} {canceled : Bool} {req : ProvisionRequest}
    (admitted : adapter.admit state canceled req = .ok ()) : Admitted adapter state req := by
  rw [ Adapter.admit] at admitted
  simp only [check_bind] at admitted
  obtain ⟨-, valid, mine, admitted⟩ := admitted
  refine ⟨valid, by simpa using mine, ?_⟩
  intro existing found
  rw [found] at admitted
  simpa using admitted

/-- A call of `ExecuteLifecycle` fails, repeats an answer, or records a new one. -/
theorem executeLifecycle_cases (canceled : Bool) (req : ProvisionRequest) (state : State) :
    (∃ failure, adapter.executeLifecycle canceled req state = (.error failure, state)) ∨
    (Admitted adapter state req ∧ ∃ prior,
      state.idempotencyLog (idemKey req) = some prior ∧ prior.requestSHA256 = req.digest ∧
      adapter.executeLifecycle canceled req state = (.ok prior.receipt, state)) ∨
    (Admitted adapter state req ∧ state.idempotencyLog (idemKey req) = none ∧
      adapter.executeLifecycle canceled req state =
        (.ok (adapter.issue req), adapter.record state req)) := by
  rw [Adapter.executeLifecycle]
  cases admitted : adapter.admit state canceled req with
  | error failure => exact .inl ⟨failure, rfl⟩
  | ok value =>
    have passed := admit_ok adapter admitted
    cases logged : state.idempotencyLog (idemKey req) with
    | none => exact .inr (.inr ⟨passed, rfl, rfl⟩)
    | some prior =>
      by_cases same : prior.requestSHA256 = req.digest
      · exact .inr (.inl ⟨passed, prior, rfl, same, by simp [same]⟩)
      · exact .inl ⟨.idempotencyConflict, by simp [same]⟩

theorem executeLifecycle_ok {canceled : Bool} {req : ProvisionRequest} {state : State}
    {receipt : ProvisionReceipt}
    (succeeds : (adapter.executeLifecycle canceled req state).1 = .ok receipt) :
    Admitted adapter state req := by
  rcases executeLifecycle_cases adapter canceled req state with
    ⟨failure, same⟩ | ⟨admitted, -⟩ | ⟨admitted, -⟩
  · rw [same] at succeeds
    cases succeeds
  · exact admitted
  · exact admitted

/-- A call leaves the state as it is, unless it is a request that passes and is not in the log. -/
theorem Adapter.call_state (call : Call) (state : State) :
    (adapter.call call state).2 = state ∨ ∃ canceled req, call = .execute canceled req ∧
      adapter.admit state canceled req = .ok () ∧ state.idempotencyLog (idemKey req) = none ∧
      (adapter.call call state).2 = adapter.record state req := by
  cases call with
  | inspect canceled tenantID projectID resourceID => exact .inl rfl
  | execute canceled req =>
    rw [Adapter.call, Adapter.executeLifecycle]
    cases passes : adapter.admit state canceled req with
    | error failure => exact .inl rfl
    | ok value =>
      cases logged : state.idempotencyLog (idemKey req) with
      | none => exact .inr ⟨canceled, req, rfl, passes, logged, rfl⟩
      | some prior =>
        left
        dsimp only
        split <;> rfl

end Calls

end CloudRing.ProviderPorts
