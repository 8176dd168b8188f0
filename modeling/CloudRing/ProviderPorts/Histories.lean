import CloudRing.ProviderPorts.Adapter

/-!
# Histories of the reference adapter

Over every history of calls: a resource keeps its owner, every receipt is valid for its request, a
request that succeeded can be repeated, a call that fails changes nothing, and nobody but the owner
sees or changes a resource.
-/

namespace CloudRing.ProviderPorts

open Library

theorem isNameChar_all {start : List Char}
    (all : (start.all fun char => isNameChar char && char != '.') = true) :
    ∀ char ∈ start, isNameChar char = true ∧ char ≠ '.' := by
  simpa using all

theorem handle_start {family : BackendFamily} (known : family ≠ .other) :
    ∃ start : List Char, ("hdl-" ++ family.text ++ "-").toList = 'h' :: start ∧
      (∀ char ∈ 'h' :: start, isNameChar char = true ∧ char ≠ '.') ∧ start.length ≤ 43 := by
  refine ⟨("hdl-" ++ family.text ++ "-").toList.tail, ?_⟩
  cases family with
  | other => exact absurd rfl known
  | kubeVirt | openStack | proxmox | bareMetal => exact ⟨rfl, isNameChar_all (by decide), by decide⟩

theorem stateForVerb_plain (verb : LifecycleVerb) :
    stateForVerb verb ≠ .other ∧ requiresBlocker (stateForVerb verb) = false := by
  cases verb <;> decide

theorem stateForVerb_deleted (verb : LifecycleVerb) :
    stateForVerb verb = .deleted ↔ verb = .deprovision := by
  cases verb <;> decide

section Histories

variable [Platform]

/-! ## Receipts of new requests -/

theorem validDigest_text (text : List Char) :
    validDigest (Hex.text (Platform.sha256 text)) = true := by
  simp only [validDigest, Bool.and_eq_true, decide_eq_true_eq, List.all_eq_true]
  refine ⟨?_, Hex.text_digits _⟩
  rw [Hex.text_length, Platform.sha256_length]

theorem operationID_valid (req : ProvisionRequest) : validIdentifier (operationID req) = true := by
  have shape : (operationID req).toList = ('o' :: ['p', '-']) ++ req.digest.toList.take 24 := by
    rw [operationID, String.toList_append]
    simp only [String.toList_ofList, List.cons_append, List.nil_append]
    rfl
  have size : (req.digest.toList.take 24).length = 24 := by
    rw [List.length_take, ProvisionRequest.digest, Hex.text_length, Platform.sha256_length]
    rfl
  have total : (operationID req).toList.length = 27 := by
    rw [shape, List.length_append, size]
    rfl
  refine validIdentifier_of_digits shape (by decide) (isNameChar_all (by decide)) ?_ ?_ (by omega)
    (by omega)
  · intro char member
    exact Hex.text_digits _ char (List.mem_of_mem_take member)
  · intro empty
    rw [empty] at size
    cases size

theorem Adapter.handle_valid (adapter : Adapter) (req : ProvisionRequest) :
    validIdentifier (adapter.handle req) = true := by
  obtain ⟨start, begins, inner, short⟩ := handle_start adapter.valid.2.2
  have sized : ∀ bytes : List UInt8, bytes.length = 32 →
      (Hex.text (bytes.take 10)).toList.length = 20 := by
    intro bytes whole
    rw [Hex.text_length, List.length_take, whole]
    rfl
  rw [Adapter.handle]
  generalize bytesOf : Platform.sha256 (Pattern.terminated '\x00'
    [adapter.backendFamily.text, req.tenantID, req.projectID] ++ req.resourceID.toList) = bytes
  have size := sized bytes (by rw [← bytesOf, Platform.sha256_length])
  have shape : ("hdl-" ++ adapter.backendFamily.text ++ "-" ++ Hex.text (bytes.take 10)).toList =
      ('h' :: start) ++ (Hex.text (bytes.take 10)).toList := by
    rw [String.toList_append, begins]
  have total := congrArg List.length shape
  rw [List.length_append, size, List.length_cons] at total
  refine validIdentifier_of_digits shape (by decide) inner (Hex.text_digits _) ?_ (by omega)
    (by omega)
  intro empty
  rw [empty] at size
  cases size

variable {req : ProvisionRequest} {state : State}

theorem requestSHA256_ok (valid : validateProvisionRequest req = .ok ()) :
    requestSHA256 req = .ok req.digest := by
  rw [requestSHA256, valid]
  rfl

theorem receiptCommitmentSHA256_ok {state : ResourceState}
    {handle : String} (valid : validateProvisionRequest req = .ok ()) (known : state ≠ .other)
    (named : validIdentifier handle = true) :
    ∃ text, receiptCommitmentSHA256 req state handle = .ok (Hex.text (Platform.sha256 text)) := by
  refine ⟨Pattern.terminated '\x00' [commitmentDomain, req.digest, state.text] ++ handle.toList, ?_⟩
  have checked :
      ensure Failure.invalidReceipt (state ≠ .other && validIdentifier handle) = .ok () := by
    rw [ensure_ok, named, Bool.and_true, decide_eq_true_eq]
    exact known
  rw [receiptCommitmentSHA256, requestSHA256_ok valid]
  exact check_bind.mpr ⟨checked, rfl⟩

theorem Adapter.newReceipt_ok (adapter : Adapter) (valid : validateProvisionRequest req = .ok ()) :
    ∃ receipt, adapter.newReceipt req = .ok receipt ∧
      validateProvisionReceipt req receipt = .ok () ∧ receipt.state = stateForVerb req.verb := by
  obtain ⟨known, plain⟩ := stateForVerb_plain req.verb
  obtain ⟨text, commitment⟩ := receiptCommitmentSHA256_ok valid known (adapter.handle_valid req)
  have digest := requestSHA256_ok valid
  have accepted : validateProvisionReceipt req (req.receipt req.digest
      (Hex.text (Platform.sha256 text)) (operationID req) (stateForVerb req.verb)
      (adapter.handle req) "") = .ok () := by
    rw [validateProvisionReceipt, digest, orInvalid_ok, ok_bind]
    dsimp only [ProvisionRequest.receipt]
    rw [commitment, orInvalid_ok, ok_bind]
    refine check_bind.mpr ⟨ensure_ok.mpr ?_, check_bind.mpr ⟨ensure_ok.mpr ?_, ensure_ok.mpr ?_⟩⟩
    · simp only [validDigest_text, operationID_valid, decide_true, Bool.and_self]
    · simp only [plain, Bool.false_and, Bool.not_false]
    · simp only [ne_eq, not_true_eq_false, decide_false, Bool.and_false, Bool.not_false]
  refine ⟨_, ?_, accepted, rfl⟩
  rw [Adapter.newReceipt, newProvisionReceipt, digest, orInvalid_ok, ok_bind, commitment,
    orInvalid_ok, ok_bind]
  exact check_bind.mpr ⟨accepted, rfl⟩

theorem Adapter.issue_valid (adapter : Adapter) (valid : validateProvisionRequest req = .ok ()) :
    validateProvisionReceipt req (adapter.issue req) = .ok () := by
  obtain ⟨receipt, made, accepted, -⟩ := adapter.newReceipt_ok valid
  rw [adapter.issue_eq made]
  exact accepted

/-! ## What a history keeps -/

def Owned (id tenantID projectID : String) (state : State) : Prop :=
  ∃ stored, state.resources id = some stored ∧ stored.tenantID = tenantID ∧
    stored.projectID = projectID

theorem Owned.call {adapter : Adapter} {id tenantID projectID : String} (call : Call)
    (state : State) (owned : Owned id tenantID projectID state) :
    Owned id tenantID projectID (adapter.call call state).2 := by
  rcases adapter.call_state call state with same | ⟨canceled, req, -, passes, -, same⟩
  · rwa [same]
  · rw [same]
    by_cases this : id = req.resourceID
    · subst this
      obtain ⟨stored, found, rfl, rfl⟩ := owned
      obtain ⟨tenant, project⟩ := (admit_ok adapter passes).owner stored found
      exact ⟨_, Function.update_self .., tenant.symm, project.symm⟩
    · obtain ⟨stored, found, owner⟩ := owned
      exact ⟨stored, (Function.update_of_ne this ..).trans found, owner⟩

def requestsOf (calls : List Call) : List ProvisionRequest := calls.filterMap Call.request

omit [Platform] in
theorem mem_requestsOf_append {calls more : List Call} :
    req ∈ requestsOf (calls ++ more) ↔ req ∈ requestsOf calls ∨ req ∈ requestsOf more := by
  rw [requestsOf, List.filterMap_append, List.mem_append]
  rfl

def CollisionFree (calls : List Call) : Prop :=
  ∀ req ∈ requestsOf calls, ∀ other ∈ requestsOf calls,
    Platform.sha256 (Pattern.terminated '\x00' req.fields) =
      Platform.sha256 (Pattern.terminated '\x00' other.fields) →
    Pattern.terminated '\x00' req.fields = Pattern.terminated '\x00' other.fields

/-- The maps hold valid receipts for requests of the history, and a resource belongs to the owner
that its request names. -/
structure Recorded (calls : List Call) (state : State) : Prop where
  log : ∀ key entry, state.idempotencyLog key = some entry →
    ∃ req ∈ requestsOf calls, idemKey req = key ∧ entry.requestSHA256 = req.digest ∧
      validateProvisionRequest req = .ok () ∧
      validateProvisionReceipt req entry.receipt = .ok () ∧
      Owned req.resourceID req.tenantID req.projectID state
  resources : ∀ id stored, state.resources id = some stored →
    ∃ req ∈ requestsOf calls, req.resourceID = id ∧ req.tenantID = stored.tenantID ∧
      req.projectID = stored.projectID ∧ validateProvisionReceipt req stored.receipt = .ok ()

theorem recorded_empty : Recorded [] State.empty where
  log _ _ found := nomatch found
  resources _ _ found := nomatch found

section Runs

variable {adapter : Adapter}

variable {calls : List Call} {receipt : ProvisionReceipt} {req : ProvisionRequest} {state : State}

theorem Recorded.mono {more : List Call} (recorded : Recorded calls state) :
    Recorded (calls ++ more) state := by
  refine ⟨?_, ?_⟩
  · intro key entry found
    obtain ⟨req, member, rest⟩ := recorded.log key entry found
    exact ⟨req, mem_requestsOf_append.mpr (.inl member), rest⟩
  · intro id stored found
    obtain ⟨req, member, rest⟩ := recorded.resources id stored found
    exact ⟨req, mem_requestsOf_append.mpr (.inl member), rest⟩

theorem Recorded.record (recorded : Recorded calls state) (member : req ∈ requestsOf calls)
    (valid : validateProvisionRequest req = .ok ())
    (kept : ∀ id tenantID projectID, Owned id tenantID projectID state →
      Owned id tenantID projectID (adapter.record state req)) :
    Recorded calls (adapter.record state req) := by
  refine ⟨?_, ?_⟩
  · intro key entry found
    by_cases same : key = idemKey req
    · subst same
      rw [Adapter.record_idempotencyLog, Function.update_self] at found
      cases found
      exact ⟨req, member, rfl, rfl, valid, adapter.issue_valid valid, _, Function.update_self ..,
        rfl, rfl⟩
    · rw [Adapter.record_idempotencyLog, Function.update_of_ne same] at found
      obtain ⟨other, listed, key, digest, checked, accepted, owned⟩ := recorded.log key entry found
      exact ⟨other, listed, key, digest, checked, accepted, kept _ _ _ owned⟩
  · intro id stored found
    by_cases same : id = req.resourceID
    · subst same
      rw [Adapter.record_resources, Function.update_self] at found
      cases found
      exact ⟨req, member, rfl, rfl, rfl, adapter.issue_valid valid⟩
    · rw [Adapter.record_resources, Function.update_of_ne same] at found
      exact recorded.resources id stored found

theorem Recorded.call (recorded : Recorded calls state)
    (call : Call) : Recorded (calls ++ [call]) (adapter.call call state).2 := by
  rcases adapter.call_state call state with same | ⟨canceled, req, rfl, passes, -, same⟩
  · rw [same]
    exact recorded.mono
  · rw [same]
    refine recorded.mono.record (mem_requestsOf_append.mpr (.inr List.mem_cons_self))
      (admit_ok adapter passes).valid ?_
    intro id tenantID projectID owned
    exact same ▸ owned.call (.execute canceled req) state

theorem Adapter.run_append (calls : List Call) (call : Call) :
    adapter.run (calls ++ [call]) = (adapter.call call (adapter.run calls)).2 := by
  rw [Adapter.run, Adapter.run, List.foldl_append, List.foldl_cons, List.foldl_nil]

theorem Adapter.run_recorded (calls : List Call) : Recorded calls (adapter.run calls) := by
  induction calls using List.reverseRecOn with
  | nil => exact recorded_empty
  | append_singleton calls call ih =>
    rw [Adapter.run_append]
    exact ih.call call

theorem Adapter.run_stable {property : State → Prop}
    (kept : ∀ call state, property state → property (adapter.call call state).2)
    (holds : property (adapter.run calls)) (more : List Call) :
    property (adapter.run (calls ++ more)) := by
  induction more using List.reverseRecOn with
  | nil => rwa [List.append_nil]
  | append_singleton more call ih =>
    rw [← List.append_assoc, Adapter.run_append]
    exact kept call _ ih

def Answered (req : ProvisionRequest) (receipt : ProvisionReceipt) (state : State) : Prop :=
  state.idempotencyLog (idemKey req) = some ⟨req.digest, receipt⟩ ∧
    Owned req.resourceID req.tenantID req.projectID state

theorem Answered.call (call : Call) (state : State) (answered : Answered req receipt state) :
    Answered req receipt (adapter.call call state).2 := by
  refine ⟨?_, answered.2.call call state⟩
  rcases adapter.call_state call state with same | ⟨canceled, other, -, -, missing, same⟩
  · rw [same]
    exact answered.1
  · have differ : idemKey req ≠ idemKey other := by
      intro equal
      rw [← equal, answered.1] at missing
      cases missing
    rw [same]
    exact (Function.update_of_ne differ ..).trans answered.1

omit [Platform] in
theorem idemKey_inj {other : ProvisionRequest} (valid : validateProvisionRequest req = .ok ())
    (valid' : validateProvisionRequest other = .ok ()) (same : idemKey req = idemKey other) :
    req.tenantID = other.tenantID ∧ req.projectID = other.projectID ∧
      req.resourceID = other.resourceID := by
  have clean := validateProvisionRequest_clean valid
  have clean' := validateProvisionRequest_clean valid'
  simp only [ProvisionRequest.fields, List.cons_append, List.forall_mem_cons] at clean clean'
  have lists := congrArg String.toList same
  simp only [idemKey, String.toList_append, List.append_assoc] at lists
  obtain ⟨tenant, lists⟩ := Pattern.append_cons_inj clean.2.2.2.1 clean'.2.2.2.1 lists
  obtain ⟨project, lists⟩ := Pattern.append_cons_inj clean.2.2.2.2.1 clean'.2.2.2.2.1 lists
  obtain ⟨resource, -⟩ := Pattern.append_cons_inj clean.2.2.2.2.2.1 clean'.2.2.2.2.2.1 lists
  exact ⟨String.toList_inj.mp tenant, String.toList_inj.mp project, String.toList_inj.mp resource⟩

theorem answered_of_ok {canceled : Bool} (recorded : Recorded calls state)
    (succeeds : (adapter.executeLifecycle canceled req state).1 = .ok receipt) :
    Answered req receipt (adapter.executeLifecycle canceled req state).2 := by
  rcases executeLifecycle_cases adapter canceled req state with
    ⟨failure, same⟩ | ⟨admitted, prior, logged, digest, same⟩ | ⟨-, -, same⟩
  · rw [same] at succeeds
    cases succeeds
  · rw [same] at succeeds ⊢
    cases succeeds
    refine ⟨by rw [logged, ← digest], ?_⟩
    obtain ⟨other, -, key, -, valid, -, owned⟩ := recorded.log _ _ logged
    obtain ⟨tenant, project, resource⟩ := idemKey_inj valid admitted.valid key
    rwa [tenant, project, resource] at owned
  · rw [same] at succeeds ⊢
    cases succeeds
    exact ⟨Function.update_self .., _, Function.update_self .., rfl, rfl⟩

theorem Answered.repeated {earlier : State} (answered : Answered req receipt state)
    (admitted : Admitted adapter earlier req) :
    adapter.executeLifecycle false req state = (.ok receipt, state) := by
  obtain ⟨logged, stored, found, tenant, project⟩ := answered
  have passes : adapter.admit state false req = .ok () := by
    rw [ Adapter.admit]
    refine check_bind.mpr ⟨rfl, check_bind.mpr ⟨admitted.valid, check_bind.mpr
      ⟨ensure_ok.mpr ?_, ?_⟩⟩⟩
    · simp only [admitted.mine, decide_true, Bool.and_self]
    · rw [found]
      simp only [ensure_ok, tenant, project, decide_true, Bool.and_self]
  rw [Adapter.executeLifecycle, passes]
  simp only [logged, ne_eq, not_true_eq_false, if_false]

theorem CollisionFree.digest_inj (free : CollisionFree calls)
    {other : ProvisionRequest} (member : req ∈ requestsOf calls)
    (member' : other ∈ requestsOf calls) (valid : validateProvisionRequest req = .ok ())
    (valid' : validateProvisionRequest other = .ok ()) (same : req.digest = other.digest) :
    req = other := by
  have texts := free req member other member' (Hex.text_injective same)
  exact ProvisionRequest.fields_inj (Pattern.terminated_inj (validateProvisionRequest_clean valid)
    (validateProvisionRequest_clean valid') texts)

theorem call_returned {call : Call} (recorded : Recorded calls state)
    (free : CollisionFree (calls ++ [call])) (returns : (adapter.call call state).1 = .ok receipt) :
    ∃ req ∈ requestsOf (calls ++ [call]), req.resourceID = call.resource ∧
      (∀ own, call.request = some own → req = own) ∧
      validateProvisionReceipt req receipt = .ok () := by
  have listed : ∀ req ∈ requestsOf calls, req ∈ requestsOf (calls ++ [call]) :=
    fun req member => mem_requestsOf_append.mpr (.inl member)
  cases call with
  | inspect canceled tenantID projectID resourceID =>
    rw [Adapter.call, inspectResource] at returns
    simp only [bind_ok, require_ok] at returns
    obtain ⟨_, -, _, -, stored, found, _, -, returns⟩ := returns
    cases returns
    obtain ⟨req, member, resource, -, -, valid⟩ := recorded.resources resourceID stored found
    exact ⟨req, listed req member, resource, by rintro _ ⟨⟩, valid⟩
  | execute canceled req =>
    have member : req ∈ requestsOf (calls ++ [.execute canceled req]) :=
      mem_requestsOf_append.mpr (.inr List.mem_cons_self)
    refine ⟨req, member, rfl, fun own isOwn => Option.some.inj isOwn, ?_⟩
    rw [Adapter.call] at returns
    rcases executeLifecycle_cases adapter canceled req state with
      ⟨failure, same⟩ | ⟨admitted, prior, logged, digest, same⟩ | ⟨admitted, -, same⟩
    · rw [same] at returns
      cases returns
    · rw [same] at returns
      cases returns
      obtain ⟨other, member', -, digest', valid, accepted, -⟩ := recorded.log _ _ logged
      rw [free.digest_inj member (listed other member') admitted.valid valid
        (digest.symm.trans digest')]
      exact accepted
    · rw [same] at returns
      cases returns
      exact adapter.issue_valid admitted.valid

theorem validateProvisionReceipt_resource (valid : validateProvisionReceipt req receipt = .ok ()) :
    receipt.resourceID = req.resourceID := by
  simp only [validateProvisionReceipt, bind_ok] at valid
  obtain ⟨reqDigest, -, commitment, -, _, checked, -⟩ := valid
  simp only [ensure_ok, Bool.and_eq_true, decide_eq_true_eq] at checked
  exact checked.2

theorem call_failed {call : Call} {failure : Failure}
    (fails : (adapter.call call state).1 = .error failure) :
    (adapter.call call state).2 = state := by
  cases call with
  | inspect canceled tenantID projectID resourceID => rfl
  | execute canceled req =>
    rw [Adapter.call] at fails ⊢
    rcases executeLifecycle_cases adapter canceled req state with
      ⟨failure, same⟩ | ⟨-, prior, -, -, same⟩ | ⟨-, -, same⟩
    · rw [same]
    · rw [same]
    · rw [same] at fails
      cases fails

theorem call_owner {call : Call}
    {stored : StoredResource} (found : state.resources call.resource = some stored)
    (returns : (adapter.call call state).1 = .ok receipt) :
    call.owner = (stored.tenantID, stored.projectID) := by
  cases call with
  | inspect canceled tenantID projectID resourceID =>
    rw [Adapter.call, inspectResource] at returns
    simp only [bind_ok, require_ok] at returns
    obtain ⟨_, -, _, -, stored', found', _, owner, -⟩ := returns
    rw [Call.resource, found'] at found
    cases found
    simp only [ensure_ok, Bool.and_eq_true, decide_eq_true_eq] at owner
    rw [Call.owner, owner.1, owner.2]
  | execute canceled req =>
    rw [Adapter.call] at returns
    obtain ⟨tenant, project⟩ := (executeLifecycle_ok adapter returns).owner stored found
    rw [Call.owner, tenant, project]

theorem call_other {call : Call} {id : String} (other : id ≠ call.resource) :
    (adapter.call call state).2.resources id = state.resources id := by
  rcases adapter.call_state call state with same | ⟨canceled, req, rfl, -, -, same⟩
  · rw [same]
  · rw [same]
    exact Function.update_of_ne other ..

theorem call_foreign {call : Call} {id : String} {stored : StoredResource}
    (found : state.resources id = some stored)
    (foreign : call.owner ≠ (stored.tenantID, stored.projectID)) :
    (adapter.call call state).2.resources id = some stored := by
  by_cases this : id = call.resource
  · subst this
    cases answer : (adapter.call call state).1 with
    | error failure => rw [call_failed answer, found]
    | ok receipt => exact absurd (call_owner found answer) foreign
  · rw [call_other this, found]

end Runs

/-! ## The adapter -/

structure Safe (adapter : Adapter) (calls : List Call) : Prop where
  owner : ∀ done rest id stored, calls = done ++ rest →
    (adapter.run done).resources id = some stored →
    Owned id stored.tenantID stored.projectID (adapter.run calls)
  stored : ∀ id stored, (adapter.run calls).resources id = some stored →
    ∃ req ∈ requestsOf calls, req.resourceID = id ∧ req.tenantID = stored.tenantID ∧
      req.projectID = stored.projectID ∧ validateProvisionReceipt req stored.receipt = .ok ()
  logged : ∀ key entry, (adapter.run calls).idempotencyLog key = some entry →
    ∃ req ∈ requestsOf calls, idemKey req = key ∧
      validateProvisionReceipt req entry.receipt = .ok ()
  returned : ∀ done call rest receipt, calls = done ++ call :: rest →
    (adapter.call call (adapter.run done)).1 = .ok receipt →
    ∃ req ∈ requestsOf (done ++ [call]), req.resourceID = call.resource ∧
      (∀ own, call.request = some own → req = own) ∧
      validateProvisionReceipt req receipt = .ok ()
  ignored : ∀ req, validateProvisionRequest req = .ok () →
    ∃ receipt, adapter.newReceipt req = .ok receipt
  repeated : ∀ done canceled req rest receipt, calls = done ++ .execute canceled req :: rest →
    (adapter.call (.execute canceled req) (adapter.run done)).1 = .ok receipt →
    adapter.call (.execute false req) (adapter.run calls) = (.ok receipt, adapter.run calls)
  failed : ∀ done call rest failure, calls = done ++ call :: rest →
    (adapter.call call (adapter.run done)).1 = .error failure →
    (adapter.call call (adapter.run done)).2 = adapter.run done
  isolated : ∀ done call rest id stored, calls = done ++ call :: rest →
    (adapter.run done).resources id = some stored →
    call.owner ≠ (stored.tenantID, stored.projectID) →
    (adapter.call call (adapter.run done)).2.resources id = some stored ∧
      ∀ receipt, (adapter.call call (adapter.run done)).1 = .ok receipt → receipt.resourceID ≠ id

theorem CollisionFree.initial {done rest : List Call} (free : CollisionFree (done ++ rest)) :
    CollisionFree done := by
  intro req member other member'
  exact free req (mem_requestsOf_append.mpr (.inl member)) other
    (mem_requestsOf_append.mpr (.inl member'))

/-- Every history of the adapter is safe, if the digests of its requests do not collide. -/
theorem adapter_safe (adapter : Adapter) (calls : List Call) (free : CollisionFree calls) :
    Safe adapter calls where
  owner := by
    rintro done rest id stored rfl found
    exact Adapter.run_stable Owned.call ⟨stored, found, rfl, rfl⟩ rest
  stored := (Adapter.run_recorded calls).resources
  logged := by
    intro key entry found
    obtain ⟨req, member, same, -, -, valid, -⟩ := (Adapter.run_recorded calls).log key entry found
    exact ⟨req, member, same, valid⟩
  returned := by
    rintro done call rest receipt rfl returns
    rw [List.append_cons] at free
    exact call_returned (Adapter.run_recorded done) free.initial returns
  ignored := by
    intro req valid
    obtain ⟨receipt, made, -⟩ := adapter.newReceipt_ok valid
    exact ⟨receipt, made⟩
  repeated := by
    rintro done canceled req rest receipt rfl succeeds
    have answered := answered_of_ok (Adapter.run_recorded done) succeeds
    have admitted := executeLifecycle_ok adapter succeeds
    have after : Answered req receipt (adapter.run (done ++ [.execute canceled req])) := by
      rw [Adapter.run_append]
      exact answered
    rw [List.append_cons]
    exact (Adapter.run_stable Answered.call after rest).repeated admitted
  failed := by
    rintro done call rest failure rfl fails
    exact call_failed fails
  isolated := by
    rintro done call rest id stored rfl found foreign
    refine ⟨call_foreign found foreign, ?_⟩
    intro receipt returns same
    rw [List.append_cons] at free
    obtain ⟨req, -, resource, -, valid⟩ :=
      call_returned (Adapter.run_recorded done) free.initial returns
    have this : id = call.resource := by
      rw [← same, validateProvisionReceipt_resource valid, resource]
    subst this
    exact foreign (call_owner found returns)

/-! ## Deleted resources -/

/-- `InspectResource` tells the owner of the resource of `req` that it is deleted. -/
def ReportsDeleted (req : ProvisionRequest) (state : State) : Prop :=
  ∃ receipt, inspectResource false req.tenantID req.projectID req.resourceID state = .ok receipt ∧
    receipt.state = .deleted

/-- The call is a request for the resource, with such a verb, that passes and is not a repeat. -/
def Adapter.Takes (adapter : Adapter) (id : String) (verbs : LifecycleVerb → Prop)
    (state : State) : Call → Prop
  | .execute canceled req => req.resourceID = id ∧ verbs req.verb ∧
      adapter.admit state canceled req = .ok () ∧ state.idempotencyLog (idemKey req) = none
  | .inspect .. => False

theorem Adapter.issue_state (adapter : Adapter) (valid : validateProvisionRequest req = .ok ()) :
    (adapter.issue req).state = stateForVerb req.verb := by
  obtain ⟨receipt, made, -, same⟩ := adapter.newReceipt_ok valid
  rw [adapter.issue_eq made, same]

omit [Platform] in
theorem validateProvisionRequest_names (valid : validateProvisionRequest req = .ok ()) :
    (validIdentifier req.tenantID && validIdentifier req.projectID &&
      validIdentifier req.resourceID) = true ∧ req.verb ≠ .other := by
  rw [validateProvisionRequest] at valid
  obtain ⟨names, -⟩ := check_bind.mp valid
  simp only [ensure_ok, Bool.and_eq_true, decide_eq_true_eq] at names ⊢
  exact ⟨⟨⟨names.1.1.1.1.1.2, names.1.1.1.1.2⟩, names.1.1.1.2⟩, names.1.2⟩

omit [Platform] in
theorem reportsDeleted_iff (valid : validateProvisionRequest req = .ok ())
    (owned : Owned req.resourceID req.tenantID req.projectID state) :
    ReportsDeleted req state ↔
      ∃ stored, state.resources req.resourceID = some stored ∧ stored.receipt.state = .deleted := by
  obtain ⟨stored, found, tenant, project⟩ := owned
  have seen : inspectResource false req.tenantID req.projectID req.resourceID state =
      .ok stored.receipt := by
    rw [inspectResource, found]
    refine check_bind.mpr ⟨rfl, check_bind.mpr ⟨?_, bind_ok.mpr ⟨stored, rfl, ?_⟩⟩⟩
    · exact ensure_ok.mpr (validateProvisionRequest_names valid).1
    · exact check_bind.mpr ⟨ensure_ok.mpr (by simp [tenant, project]), rfl⟩
  simp only [ReportsDeleted, seen, found, Except.ok.injEq, Option.some.injEq, exists_eq_left']

theorem Adapter.call_takes (adapter : Adapter) (id : String) (call : Call) (state : State) :
    (∃ verb, adapter.Takes id (· = verb) state call ∧
      ∃ stored, (adapter.call call state).2.resources id = some stored ∧
        stored.receipt.state = stateForVerb verb) ∨
    (∀ verbs, ¬adapter.Takes id verbs state call) ∧
      (adapter.call call state).2.resources id = state.resources id := by
  cases call with
  | inspect canceled tenantID projectID resourceID => exact .inr ⟨fun _ taken => taken, rfl⟩
  | execute canceled req =>
    by_cases taken : req.resourceID = id ∧ adapter.admit state canceled req = .ok () ∧
        state.idempotencyLog (idemKey req) = none
    · obtain ⟨rfl, passes, missing⟩ := taken
      refine .inl ⟨req.verb, ⟨rfl, rfl, passes, missing⟩, ?_⟩
      rw [Adapter.call, Adapter.executeLifecycle, passes, missing]
      exact ⟨_, Function.update_self .., adapter.issue_state (admit_ok adapter passes).valid⟩
    · refine .inr ⟨fun verbs now => taken ⟨now.1, now.2.2⟩, ?_⟩
      rcases adapter.call_state (.execute canceled req) state with
        same | ⟨_, _, here, passes, missing, same⟩
      · rw [same]
      · cases here
        rw [same]
        exact Function.update_of_ne (fun this => taken ⟨this.symm, passes, missing⟩) ..

omit [Platform] in
theorem Adapter.takes_other (adapter : Adapter) (id : String) (state : State) (call : Call) :
    adapter.Takes id (· ≠ .deprovision) state call ↔ adapter.Takes id (· = .provision) state call ∨
      adapter.Takes id (· ∈ [.resume, .resize, .hold, .suspend]) state call := by
  cases call with
  | inspect => simp only [Adapter.Takes, or_self]
  | execute canceled req =>
    have verbs : req.verb ≠ .other → (req.verb ≠ .deprovision ↔ req.verb = .provision ∨
        req.verb ∈ [LifecycleVerb.resume, .resize, .hold, .suspend]) := by
      cases req.verb <;> decide
    have known : adapter.admit state canceled req = .ok () → req.verb ≠ .other := fun passes =>
      (validateProvisionRequest_names (admit_ok adapter passes).valid).2
    simp only [Adapter.Takes]
    tauto

theorem reportsDeleted_deprovision {adapter : Adapter} {canceled : Bool}
    {receipt : ProvisionReceipt} (verb : req.verb = .deprovision)
    (succeeds : (adapter.executeLifecycle canceled req state).1 = .ok receipt) :
    ReportsDeleted req (adapter.executeLifecycle canceled req state).2 ↔
      state.idempotencyLog (idemKey req) = none ∨ ReportsDeleted req state := by
  rcases executeLifecycle_cases adapter canceled req state with
    ⟨failure, same⟩ | ⟨admitted, prior, logged, -, same⟩ | ⟨admitted, missing, same⟩
  · rw [same] at succeeds
    cases succeeds
  · rw [same, logged]
    simp only [reduceCtorEq, false_or]
  · rw [same]
    have stored := Function.update_self req.resourceID
      (some (⟨req.tenantID, req.projectID, adapter.issue req⟩ : StoredResource)) state.resources
    refine iff_of_true ?_ (.inl missing)
    refine (reportsDeleted_iff admitted.valid ⟨_, stored, rfl, rfl⟩).mpr ⟨_, stored, ?_⟩
    rw [adapter.issue_state admitted.valid, verb]
    rfl

theorem reportsDeleted_call (adapter : Adapter) {call : Call}
    (valid : validateProvisionRequest req = .ok ())
    (owned : Owned req.resourceID req.tenantID req.projectID state)
    (deleted : ReportsDeleted req state) :
    ReportsDeleted req (adapter.call call state).2 ↔
      ¬adapter.Takes req.resourceID (· ≠ .deprovision) state call := by
  rw [reportsDeleted_iff valid owned] at deleted
  rw [reportsDeleted_iff valid (owned.call call state)]
  rcases adapter.call_takes req.resourceID call state with
    ⟨verb, taken, stored, found, same⟩ | ⟨untaken, same⟩
  · cases call with
    | inspect => exact taken.elim
    | execute canceled other =>
      obtain ⟨resource, rfl, rest⟩ := taken
      simp only [found, Option.some.injEq, exists_eq_left', same, stateForVerb_deleted,
        Adapter.Takes, resource, rest, true_and, and_true, not_not, ne_eq]
  · rw [same]
    exact iff_of_true deleted (untaken _)

end Histories

section Sample

abbrev shortPlatform : Platform where
  sha256 text := (text.map fun char => UInt8.ofNat char.toNat).takeD 32 0
  sha256_length _ := List.takeD_length ..

attribute [local instance] shortPlatform

def sampleAdapter : Adapter := ⟨"adapter-one", .compute, .kubeVirt, by decide +kernel⟩

def sampleCalls : List Call :=
  [.execute false sampleRequest, .inspect false "tenant-two" "project-two" "machine-one",
    .execute false sampleRequest]

/-- The history of one request is safe. -/
theorem adapter_safe_sample : Safe sampleAdapter sampleCalls := by
  refine adapter_safe sampleAdapter sampleCalls ?_
  have single : ∀ req ∈ requestsOf sampleCalls, req = sampleRequest := by decide
  intro req member other member' _
  rw [single req member, single other member']

def sampleDeprovision : Call :=
  .execute false { sampleRequest with verb := .deprovision, idempotencyKey := "key-two" }

def sampleResume : Call :=
  .execute false { sampleRequest with verb := .resume, idempotencyKey := "key-three" }

end Sample

end CloudRing.ProviderPorts
