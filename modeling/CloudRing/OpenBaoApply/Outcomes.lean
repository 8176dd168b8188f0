import CloudRing.OpenBaoApply.Stages

/-!
# What a report says

A report mentions every target write that took effect, but for a KV-v2 mount that was created just
before the lease or the management token was lost.
-/

namespace CloudRing.OpenBaoApply

open Library Library.Program OpenBaoAuth
open OpenBaoBootstrap (ManagementDelegation Place buildManagementDelegation)

/-! ## A store that nobody else writes -/

structure World where
  log : History
  store : Place → ReadResult

/-- A truthful OpenBao whose objects only this run writes: the answer to a read is the stored
object, and an object changes only by an effective mutation that touches it. A definite
rejection, also of a lease update, had no effect. -/
def truthful (request : Request) : Environment Reply World :=
  fun world call reply next => ∃ effective,
    next.log = ⟨call, reply, effective⟩ :: world.log ∧
    Honest call reply effective ∧ LeaseHonest [⟨call, reply, effective⟩] ∧
    (∀ place result, Event.reads ⟨call, reply, effective⟩ (request.at place) = some (.ok result) →
      world.store place = result) ∧
    ∀ place, Event.disturbs ⟨call, reply, effective⟩ request place = false →
      next.store place = world.store place

def Desired [TimeFormat] (request : Request) (store : Place → ReadResult) : Place → Prop
  | .data => (exactSeed (store .metadata) (store .data) (seedData request)).isSome = true
  | place => exactAt request place (store place) = true

structure Remembered (request : Request) (world : World) : Prop where
  lease : LeaseHonest world.log
  stored : ∀ place result, Seen request place result world.log → world.store place = result

section Store

variable {request : Request}

theorem Event.disturbs_of_reads {event : Event Reply} {path : String} {place : Place}
    {answer : Answer ReadResult} (read : Event.reads event path = some answer) :
    Event.disturbs event request place = false := by
  obtain ⟨call, reply, effective⟩ := event
  cases call with
  | read => rfl
  | _ => exact absurd read nofun

theorem Remembered.step {world next : World} {call : Call} {reply : Reply call}
    (remembered : Remembered request world) (answered : truthful request world call reply next) :
    Remembered request next := by
  obtain ⟨effective, recorded, -, lease, reads, kept⟩ := answered
  constructor
  · intro target requested answer changed member rejected
    rw [recorded] at member
    rcases List.mem_cons.mp member with same | older
    · exact lease target requested answer changed (by simp [same]) rejected
    · exact remembered.lease target requested answer changed older rejected
  · intro place result seen
    rw [recorded] at seen
    rcases seen with read | ⟨undisturbed, before⟩
    · rw [kept place (Event.disturbs_of_reads read)]
      exact reads place result read
    · rw [kept place undisturbed]
      exact remembered.stored place result before

theorem Standing.stored [TimeFormat] {world : World} {target : Place}
    (remembered : Remembered request world)
    (standing : Standing request target world.log) : Desired request world.store target := by
  have single (place : Place)
      (stands : ∃ result, Seen request place result world.log ∧
        exactAt request place result = true) :
      exactAt request place (world.store place) = true := by
    obtain ⟨result, seen, exact⟩ := stands
    rw [remembered.stored place result seen]
    exact exact
  cases target with
  | data =>
    obtain ⟨metadata, seed, createdAt, seenMetadata, seenSeed, exact⟩ := standing
    rw [Desired, remembered.stored _ _ seenMetadata, remembered.stored _ _ seenSeed, exact]
    rfl
  | _ => exact single _ standing

end Store

/-! ## Reported writes -/

section Reports

variable [Platform] {now : Int} {received request : Request} {report : Report} {log : History}

theorem outcome_of_run (passed : validateRequest now received = .ok request)
    (run : Run (recording Honest) [] (execute request) report log) :
    Outcome True request report log := by
  have accepted := validateRequest_accepted passed
  have holds : (execute request).wp (recording Honest) (Outcome True request) [] :=
    execute_spec (fun _ _ _ _ admitted => admitted) accepted
  exact wp_run holds run

/-- A report mentions the target writes that took effect if and only if the execution did not
stop with an exposed KV-v2 mount and a management token that was not proven revoked. -/
theorem execute_reports_writes_iff (passed : validateRequest now received = .ok request)
    (run : Run (recording Honest) [] (execute request) report log) :
    (AnyWritten request log → report.mutationPerformed = true) ↔ ¬ Uncounted request log := by
  have counted := (outcome_of_run passed run).counted trivial
  constructor
  · intro mentions uncounted
    have mutated := mentions ⟨.kvMount, by decide, uncounted.1.effective⟩
    exact counted.1 mutated uncounted
  · intro covered effective
    by_contra unset
    exact covered (counted.2 (by simpa using unset) effective)

end Reports

/-! ## Runs of the sample request -/

def sampleDelegation : ManagementDelegation :=
  (buildManagementDelegation sampleContract "apply-once" "seed").getD ⟨"", []⟩

def sampleMount (kind description : String) (options : Json) (settings : Fields) : ReadResult :=
  ⟨true, some [("type", .string kind), ("description", .string description),
    ("uuid", .string "uuid"), ("accessor", .string "accessor"),
    ("plugin_version", .string ""), ("running_plugin_version", .string runningPluginVersion),
    ("running_sha256", .string ""), ("deprecation_status", .string "supported"),
    ("options", options), ("local", .bool false), ("seal_wrap", .bool false),
    ("external_entropy_access", .bool false),
    ("config", .object (settings ++ [("default_lease_ttl", .number zero),
      ("max_lease_ttl", .number zero), ("force_no_cache", .bool false)]))], none⟩

def sampleFacts : TokenFacts :=
  ⟨["apply-once"], "accessor-1", [], 0, "", "auth/token/create", 600, 600, 0, 0, false, true,
    true, "service"⟩

def sampleLease : History → Lease
  | ⟨.updateLease .., .ok updated, _⟩ :: _ => updated
  | _ :: log => sampleLease log
  | [] => ⟨"apply", "ops", "lease", "1", "", 30, 0, 0⟩

def samplePresent (path : String) : History → Bool
  | ⟨.write _ target _, _, true⟩ :: log => target = path || samplePresent path log
  | ⟨.delete _ target, _, true⟩ :: log => target ≠ path && samplePresent path log
  | _ :: log => samplePresent path log
  | [] => false

/-- Answers to the sample request. The lossy ones lose the lease as soon as the KV-v2 mount is
written; the others have that mount from the start and refuse the configuration. -/
def sampleReply (lossy : Bool) (log : History) : (call : Call) → Reply call
  | .health => .ok ()
  | .reviewSelf => .ok ⟨"system:serviceaccount:ops:executor", "uid1",
      ["system:authenticated", "system:serviceaccounts", "system:serviceaccounts:ops"]⟩
  | .getServiceAccount identity =>
    .ok (if identity = sampleRequest.executorIdentity then "uid1"
      else identity.namespaceName ++ identity.serviceAccount)
  | .reviewAccess access => .ok (decide (access ∈ positiveAccesses sampleRequest))
  | .requestServiceAccountToken .. => .error .unavailable
  | .getLease _ => .ok (sampleLease log)
  | .updateLease _ lease => .ok { lease with resourceVersion := lease.resourceVersion ++ "1" }
  | .now => 0
  | .startRenew _ => ()
  | .guardState | .stopRenew =>
    ⟨sampleLease log, lossy && samplePresent (kvMountPath sampleRequest) log⟩
  | .contextErr _ => false
  | .unwrap _ => .ok "management-token"
  | .lookupSelf _ => .ok sampleFacts
  | .capabilitiesSelf .. => .ok sampleDelegation.paths
  | .read _ path =>
    if path = managementPolicyPath sampleRequest then
      .ok ⟨true, some [("name", .string "apply-once"), ("policy", .string sampleDelegation.body),
        ("modified", .string "now"), ("cas_required", .bool false),
        ("version", .number ⟨"1", by decide⟩)], none⟩
    else if path = kvMountPath sampleRequest && (!lossy || samplePresent path log) then
      .ok (sampleMount "kv" "" (.object [("version", .string "2")]) [])
    else if path = mountPath sampleRequest && samplePresent path log then
      .ok (sampleMount "kubernetes" (desiredPlan sampleContract).authMount.description .null
        [("token_type", .string "default-service")])
    else .ok .absent
  | .list .. => .ok .absent
  | .write _ path _ =>
    if path = configPath sampleRequest then .error .rejected else .ok .absent
  | .delete .. => .ok ()
  | .expectForbidden .. => .ok ()
  | .lookupInitialRoot => .error .unavailable
  | .readTemporaryPolicy _ => .error .unavailable
  | .createTemporaryPolicy .. => .error .unavailable
  | .deleteTemporaryPolicy _ => .error .unavailable
  | .createWrappedManagementToken .. => .error .unavailable
  | .lookupAccessor _ => .error .unavailable
  | .revokeAccessor _ => .error .unavailable

def sampleEffect : Call → Bool
  | .write _ path _ => path ≠ configPath sampleRequest
  | _ => true

def sampleHandler (lossy : Bool) (log : History) (call : Call) : Reply call × History :=
  (sampleReply lossy log call, ⟨call, sampleReply lossy log call, sampleEffect call⟩ :: log)

theorem sampleHandler_honest (lossy : Bool) (log : History) (call : Call) :
    recording Honest log call (sampleHandler lossy log call).1
      (sampleHandler lossy log call).2 := by
  refine ⟨sampleEffect call, ?_, rfl⟩
  cases call with
  | write credential path body =>
    by_cases config : path = configPath sampleRequest
    · simp [Honest, sampleHandler, sampleReply, sampleEffect, config]
    · simp [Honest, sampleHandler, sampleReply, config, definitelyRejected]
  | _ => trivial

def sampleRun (lossy : Bool) : Report × History :=
  (@execute plainPlatform.toTimeFormat sampleRequest).runWith (sampleHandler lossy) []

theorem sampleRun_runs (lossy : Bool) :
    Run (recording Honest) [] (@execute plainPlatform.toTimeFormat sampleRequest)
      (sampleRun lossy).1 (sampleRun lossy).2 :=
  run_runWith (sampleHandler_honest lossy) _ []

/-- The lease is lost after the KV-v2 mount was created, and the report denies the mutation. -/
theorem execute_hides_kvMount :
    ∃ received request report log,
      @validateRequest plainPlatform 400000000000 received = .ok request ∧
      Run (recording Honest) [] (@execute plainPlatform.toTimeFormat request) report log ∧
      AnyWritten request log ∧ report.mutationPerformed = false := by
  have hidden : ((sampleRun true).1.mutationPerformed = false &&
      written (sampleRequest.at .kvMount) (sampleRun true).2) = true := by
    decide +kernel
  rw [Bool.and_eq_true, decide_eq_true_eq] at hidden
  exact ⟨sampleReceived, sampleRequest, _, _, validateRequest_sample, sampleRun_runs true,
    ⟨.kvMount, by decide, hidden.2⟩, hidden.1⟩

/-- The sample request whose configuration is refused. -/
theorem execute_reports_writes_sample :
    (AnyWritten sampleRequest (sampleRun false).2 →
      (sampleRun false).1.mutationPerformed = true) ↔
      ¬ Uncounted sampleRequest (sampleRun false).2 :=
  @execute_reports_writes_iff plainPlatform _ _ _ _ _ validateRequest_sample
    (sampleRun_runs false)

section Deletions

variable [Platform] {now : Int} {received request : Request} {report : Report} {log : History}

/-! ## Deletions -/

theorem Justified.at {newer older : History} {credential : Credential} {path : String}
    {answer : Answer Unit} {effective : Bool}
    (justified : Justified request
      (newer ++ ⟨.delete credential path, answer, effective⟩ :: older)) :
    Deletable request path older := by
  induction newer with
  | nil => exact justified.1 credential path rfl
  | cons _ _ ih => exact ih justified.2

theorem Deletable.ne {place : Place} {path : String} (accepted : request.Accepted)
    (deletable : Deletable request path log) (kept : place ∉ removable) :
    path ≠ request.at place := by
  obtain ⟨other, removed, rfl, -⟩ := deletable
  intro same
  rw [accepted.at_inj.mp same] at removed
  exact kept removed

/-- Every deletion that an execution sends is of the auth mount, the policy or the role, which
was absent at first, was created by this run with an exact readback, and was last read as the
created object; neither the KV-v2 mount nor the seed is ever deleted. -/
theorem execute_deletes_own_objects (passed : validateRequest now received = .ok request)
    {newer older : History} {credential : Credential} {path : String} {answer : Answer Unit}
    {effective : Bool}
    (run : Run (recording fun _ _ _ => True) [] (execute request) report
      (newer ++ ⟨.delete credential path, answer, effective⟩ :: older)) :
    Deletable request path older ∧ path ≠ request.at .kvMount ∧ path ≠ request.at .metadata ∧
      path ≠ request.at .data := by
  have accepted := validateRequest_accepted passed
  have holds : (execute request).wp (recording fun _ _ _ => True) (Outcome False request) [] :=
    execute_spec (fun impossible => impossible.elim) accepted
  have deletable := (wp_run holds run).justified.at
  exact ⟨deletable, deletable.ne accepted (by decide), deletable.ne accepted (by decide),
    deletable.ne accepted (by decide)⟩

end Deletions

/-- In the sample the auth mount is deleted again. -/
theorem execute_deletes_sample :
    ∃ path older, @Deletable plainPlatform.toTimeFormat sampleRequest path older := by
  have deleted : (sampleRun false).2.any (fun event =>
      event.call.undoing && !event.call.quiet) = true := by
    decide +kernel
  rw [List.any_eq_true] at deleted
  obtain ⟨⟨call, reply, effective⟩, member, deletes⟩ := deleted
  cases call with
  | delete credential path =>
    obtain ⟨newer, older, split⟩ := List.append_of_mem member
    have honest := sampleRun_runs false
    rw [split] at honest
    have run : Run (recording fun _ _ _ => True) []
        (@execute plainPlatform.toTimeFormat sampleRequest) (sampleRun false).1
        (newer ++ ⟨.delete credential path, reply, effective⟩ :: older) :=
      honest.map id fun _ _ _ _ step => step.imp fun _ both => ⟨trivial, both.2⟩
    exact ⟨path, older, (@execute_deletes_own_objects plainPlatform _ _ _ _
      validateRequest_sample _ _ _ _ _ _ run).1⟩
  | _ => exact absurd deletes Bool.false_ne_true

/-! ## Statuses -/

section Statuses

variable [Platform] {now : Int} {received request : Request} {report : Report} {log : History}

end Statuses

def sealedLog : History := [⟨.health, .error .unavailable, false⟩]

end CloudRing.OpenBaoApply
