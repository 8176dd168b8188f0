import CloudRing.OpenBaoApply.Calls

/-!
# The apply engine

`engine.go`: the execution of one request as a program over its calls.
-/

namespace CloudRing.OpenBaoApply

open Library Library.Program OpenBaoAuth
open OpenBaoBootstrap (buildManagementDelegation capabilitiesOf sortStrings)

inductive Status where
  | blockedPreflight
  | applied
  | rolledBack
  | partialManualInterventionRequired
  deriving DecidableEq, Repr

structure Report where
  schemaVersion : String
  status : Status
  (mutationPerformed rollbackAttempted inputMaterialEchoed : Bool)
  completedGates : List String
  failedGate : String
  nonClaims : List String
  deriving DecidableEq, Repr

def reportNonClaims : List String :=
  ["ESO SecretStore readiness is not claimed",
    "ExternalSecret synchronization is not claimed",
    "credential rotation and disaster recovery are not claimed",
    "production readiness is not claimed",
    "the request binding is not a standalone authorization receipt"]

def fixedReport (status : Status) (mutated rollback : Bool) (failedGate : String)
    (completed : List String) : Report :=
  { schemaVersion := applySchemaVersion
    status := status
    mutationPerformed := mutated
    rollbackAttempted := rollback
    inputMaterialEchoed := false
    completedGates := completed
    failedGate := failedGate
    nonClaims := reportNonClaims }

def partialReport (mutated rollback : Bool) (failedGate : String) (completed : List String) :
    Report :=
  fixedReport .partialManualInterventionRequired mutated rollback failedGate completed

structure MutationState where
  kvMountCreated : Bool := false
  kvMountUUID : String := ""
  kvMountAccessor : String := ""
  mountCreated : Bool := false
  mountUUID : String := ""
  mountAccessor : String := ""
  policyCreated : Bool := false
  policyVersion : Int := 0
  policyModified : String := ""
  roleCreated : Bool := false
  seedCreated : Bool := false
  seedCreatedAt : String := ""
  mutated : Bool := false

structure PreState where
  (mount config roles kvMount policy role metadata seed : ReadResult)

/-- What the closures of `Execute` have in common. -/
structure Session where
  request : Request
  token : Credential
  completed : List String

def Session.complete (session : Session) (gate : String) : Session :=
  { session with completed := session.completed ++ [gate] }

@[simp] theorem Session.complete_request (session : Session) (gate : String) :
    (session.complete gate).request = session.request := rfl

@[simp] theorem Session.complete_token (session : Session) (gate : String) :
    (session.complete gate).token = session.token := rfl

def fullSeedPath (request : Request) : String :=
  request.contract.dataPrefix ++ "/" ++ request.seed.relativePath

def mountPath (request : Request) : String := "sys/auth/" ++ request.contract.authMount

def configPath (request : Request) : String := "auth/" ++ request.contract.authMount ++ "/config"

def rolesPath (request : Request) : String := "auth/" ++ request.contract.authMount ++ "/role"

def rolePath (request : Request) : String :=
  "auth/" ++ request.contract.authMount ++ "/role/" ++ request.contract.roleName

def loginPath (request : Request) : String := "auth/" ++ request.contract.authMount ++ "/login"

def kvMountPath (request : Request) : String := "sys/mounts/" ++ request.contract.kvV2Mount

def policyPath (request : Request) : String :=
  "sys/policies/acl/" ++ request.contract.policyName

def managementPolicyPath (request : Request) : String :=
  "sys/policies/acl/" ++ request.managementPolicyName

def metadataPath (request : Request) : String :=
  request.contract.kvV2Mount ++ "/metadata/" ++ fullSeedPath request

def dataPath (request : Request) : String :=
  request.contract.kvV2Mount ++ "/data/" ++ fullSeedPath request

def lookupSelfPath : String := "auth/token/lookup-self"

def revokeSelfPath : String := "auth/token/revoke-self"

def decodedSeed (seed : Seed) : Option Fields :=
  seed.entries.mapM fun entry => do
    let value ← Base64.decode entry.valueBase64
    return (entry.key, Json.string (String.ofList (Utf8.decode value)))

def seedData (request : Request) : Fields := (decodedSeed request.seed).getD []

/-! ## The lease guard -/

def cancelled : Scope → Action Bool
  | .detached => pure false
  | scope => ask (.contextErr scope)

/-- `acquireLease`: on failure, whether the lease may have been changed. -/
def acquireLease (target : LeaseTarget) : Action (Except Bool Unit) := do
  let .ok current ← ask (.getLease target) | return .error false
  if current.holderIdentity ≠ "" then return .error false
  let now ← ask .now
  let requested := current.acquiring target (now / 1000)
  let answer ← ask (.updateLease target requested)
  match answer with
  | .error _ => return .error !definitelyRejected answer
  | .ok updated =>
    if !exactLeaseUpdate requested updated then return .error true
    ask (.startRenew updated)
    return .ok ()

def healthy : Action Bool := do
  let guard ← ask .guardState
  if guard.lost then return false
  let stopped ← cancelled .cleanup
  return !stopped

/-- `release`: whether the lease was released and read back free. -/
def release (target : LeaseTarget) : Action Bool := do
  let guard ← ask .stopRenew
  if guard.lost || guard.current.holderIdentity ≠ target.holderIdentity then return false
  let now ← ask .now
  let requested := guard.current.releasing (now / 1000)
  let .ok updated ← ask (.updateLease target requested) | return false
  if !exactLeaseUpdate requested updated then return false
  let .ok postState ← ask (.getLease target) | return false
  return releasedState updated postState

def abandon : Action Unit := do
  let _ ← ask .stopRenew

/-! ## The Kubernetes boundary -/

/-- The identities of the given service accounts, which must be distinct; the identity of the
workload's account is returned. -/
def distinctAccounts (workload : WorkloadIdentity) :
    List WorkloadIdentity → List String → String → Action (Option String)
  | [], _, positiveUID => return some positiveUID
  | identity :: identities, seenUIDs, positiveUID => do
    let .ok uid ← ask (.getServiceAccount identity) | return none
    if uid = "" || uid ∈ seenUIDs then return none
    distinctAccounts workload identities (uid :: seenUIDs)
      (if identity = workload then uid else positiveUID)

def reviewAll (expected : Bool) : List ResourceAccess → Action Bool
  | [] => return true
  | access :: accesses => do
    let .ok allowed ← ask (.reviewAccess access) | return false
    if allowed ≠ expected then return false
    reviewAll expected accesses

/-- `distinctProbeLabel`: the first probe name that is not excluded. -/
def distinctProbeLabel (excluded : List String) : String :=
  let probe index := "cloudring-boundary-probe-" ++ toString index
  (((List.range (excluded.length + 1)).map probe).find? (· ∉ excluded)).getD (probe 0)

def tokenIdentities (request : Request) : List WorkloadIdentity :=
  [request.contract.workloadIdentity, request.negativeIdentities.wrongServiceAccount,
    request.negativeIdentities.wrongNamespace]

def positiveAccesses (request : Request) : List ResourceAccess :=
  [{ verb := "create", group := "authentication.k8s.io", resource := "selfsubjectreviews" },
    { verb := "create", group := "authorization.k8s.io", resource := "selfsubjectaccessreviews" },
    { verb := "get", group := "coordination.k8s.io", resource := "leases",
      namespaceName := request.lease.namespaceName, name := request.lease.name },
    { verb := "update", group := "coordination.k8s.io", resource := "leases",
      namespaceName := request.lease.namespaceName, name := request.lease.name },
    { verb := "get", resource := "serviceaccounts",
      namespaceName := request.executorIdentity.namespaceName,
      name := request.executorIdentity.serviceAccount }] ++
  (tokenIdentities request).flatMap fun identity =>
    [{ verb := "get", resource := "serviceaccounts", namespaceName := identity.namespaceName,
       name := identity.serviceAccount },
      { verb := "create", resource := "serviceaccounts", subresource := "token",
        namespaceName := identity.namespaceName, name := identity.serviceAccount }]

def negativeAccesses (request : Request) : List ResourceAccess :=
  let leases := "coordination.k8s.io"
  let roles := "rbac.authorization.k8s.io"
  let leaseNamespace := request.lease.namespaceName
  let lease := request.lease.name
  let otherLease := distinctProbeLabel [lease]
  let workload := request.contract.workloadIdentity.namespaceName
  let account := request.contract.workloadIdentity.serviceAccount
  let otherAccount := distinctProbeLabel
    [account, request.negativeIdentities.wrongServiceAccount.serviceAccount,
      request.negativeIdentities.wrongNamespace.serviceAccount]
  let unrelated := "cloudring-unrelated"
  [⟨"create", "authentication.k8s.io", "tokenreviews", "", "", ""⟩,
    ⟨"create", "authorization.k8s.io", "subjectaccessreviews", "", "", ""⟩,
    ⟨"create", leases, "leases", "", leaseNamespace, lease⟩,
    ⟨"patch", leases, "leases", "", leaseNamespace, lease⟩,
    ⟨"delete", leases, "leases", "", leaseNamespace, lease⟩,
    ⟨"list", leases, "leases", "", leaseNamespace, ""⟩,
    ⟨"get", leases, "leases", "", leaseNamespace, otherLease⟩,
    ⟨"update", leases, "leases", "", leaseNamespace, otherLease⟩,
    ⟨"create", "", "serviceaccounts", "", workload, account⟩,
    ⟨"update", "", "serviceaccounts", "", workload, account⟩,
    ⟨"delete", "", "serviceaccounts", "", workload, account⟩,
    ⟨"get", "", "serviceaccounts", "", workload, otherAccount⟩,
    ⟨"create", "", "serviceaccounts", "token", workload, otherAccount⟩,
    ⟨"get", "", "secrets", "", workload, unrelated⟩,
    ⟨"list", "", "secrets", "", workload, ""⟩,
    ⟨"create", "", "secrets", "", workload, ""⟩,
    ⟨"update", "", "secrets", "", workload, unrelated⟩,
    ⟨"patch", "", "secrets", "", workload, unrelated⟩,
    ⟨"delete", "", "secrets", "", workload, unrelated⟩,
    ⟨"get", "", "pods", "", workload, unrelated⟩,
    ⟨"list", "", "pods", "", workload, ""⟩,
    ⟨"create", "", "pods", "exec", workload, unrelated⟩,
    ⟨"create", "batch", "jobs", "", workload, ""⟩,
    ⟨"create", "apps", "deployments", "", workload, ""⟩,
    ⟨"update", "apps", "deployments", "", workload, unrelated⟩,
    ⟨"create", roles, "roles", "", workload, ""⟩,
    ⟨"create", roles, "rolebindings", "", workload, ""⟩,
    ⟨"create", roles, "clusterroles", "", "", ""⟩,
    ⟨"create", roles, "clusterrolebindings", "", "", ""⟩,
    ⟨"create", "", "namespaces", "", "", ""⟩,
    ⟨"update", "", "namespaces", "", "", workload⟩,
    ⟨"delete", "", "namespaces", "", "", workload⟩]

/-- `verifyKubernetesBoundary`: the identity of the workload's service account. -/
def verifyKubernetesBoundary (request : Request) : Action (Option String) := do
  let executor := request.executorIdentity
  let .ok subject ← ask .reviewSelf | return none
  if subject.username ≠
        "system:serviceaccount:" ++ executor.namespaceName ++ ":" ++ executor.serviceAccount ||
      subject.uid = "" || subject.uid ≠ request.executorServiceAccountUID ||
      !equalStrings subject.groups ["system:authenticated", "system:serviceaccounts",
        "system:serviceaccounts:" ++ executor.namespaceName] then
    return none
  let .ok executorUID ← ask (.getServiceAccount executor) | return none
  if executorUID ≠ request.executorServiceAccountUID then return none
  let some positiveUID ←
    distinctAccounts request.contract.workloadIdentity (tokenIdentities request) [] "" |
    return none
  let allowed ← reviewAll true (positiveAccesses request)
  if !allowed then return none
  let denied ← reviewAll false (negativeAccesses request)
  if !denied then return none
  return if positiveUID = "" then none else some positiveUID

/-! ## Observations -/

def capturePreState (session : Session) : Action (Option PreState) := do
  let request := session.request
  let .ok mount ← ask (.read session.token (mountPath request)) | return none
  let .ok config ← ask (.read session.token (configPath request)) | return none
  let .ok roles ← ask (.list session.token (rolesPath request)) | return none
  let .ok kvMount ← ask (.read session.token (kvMountPath request)) | return none
  let .ok policy ← ask (.read session.token (policyPath request)) | return none
  let .ok role ← ask (.read session.token (rolePath request)) | return none
  let .ok metadata ← ask (.read session.token (metadataPath request)) | return none
  if !metadata.found then
    return some ⟨mount, config, roles, kvMount, policy, role, metadata, .absent⟩
  let .ok seed ← ask (.read session.token (dataPath request)) | return none
  return some ⟨mount, config, roles, kvMount, policy, role, metadata, seed⟩

def completePreStateUnchanged (session : Session) (prior : PreState) : Action Bool := do
  let some current ← capturePreState session | return false
  return equalReadResult current.mount prior.mount &&
    equalReadResult current.config prior.config && equalReadResult current.roles prior.roles &&
    equalReadResult current.kvMount prior.kvMount &&
    equalReadResult current.policy prior.policy && equalReadResult current.role prior.role &&
    equalReadResult current.metadata prior.metadata && equalReadResult current.seed prior.seed

def allAbsent (token : Credential) : List (String × Bool) → Action Bool
  | [] => return true
  | (path, isList) :: rest => do
    let answer ← if isList then ask (.list token path) else ask (.read token path)
    let .ok result := answer | return false
    if result.found then return false
    allAbsent token rest

def mountPrestateStillAbsent (session : Session) : Action Bool := do
  let request := session.request
  let absent ← allAbsent session.token
    [(mountPath request, false), (configPath request, false), (rolesPath request, true),
      (policyPath request, false), (rolePath request, false), (metadataPath request, false)]
  if !absent then return false
  let .ok kvMount ← ask (.read session.token (kvMountPath request)) | return false
  return exactKVV2Mount kvMount

def sameMount (mount : ReadResult) (uuid accessor : String) : Bool :=
  textValue mount.fields "uuid" = uuid && textValue mount.fields "accessor" = accessor

def authMountStillOwned (session : Session) (plan : Plan) (mutations : MutationState) :
    Action Bool := do
  let request := session.request
  let mountAnswer ← ask (.read session.token (mountPath request))
  let configAnswer ← ask (.read session.token (configPath request))
  let rolesAnswer ← ask (.list session.token (rolesPath request))
  let kvMountAnswer ← ask (.read session.token (kvMountPath request))
  match mountAnswer, configAnswer, rolesAnswer, kvMountAnswer with
  | .ok mount, .ok config, .ok roles, .ok kvMount =>
    return exactMount mount plan.authMount && exactConfig config plan.authConfigReadback &&
      noForeignRoles roles request.contract.roleName && exactKVV2Mount kvMount &&
      (!mutations.mountCreated || sameMount mount mutations.mountUUID mutations.mountAccessor) &&
      (!mutations.kvMountCreated ||
        sameMount kvMount mutations.kvMountUUID mutations.kvMountAccessor)
  | _, _, _, _ => return false

def ownedKVMount (answer : Answer ReadResult) (uuid accessor : String) : Bool :=
  match answer with
  | .ok mount => exactKVV2Mount mount && sameMount mount uuid accessor
  | .error _ => false

def kvV2MountStillOwned (session : Session) (mutations : MutationState) : Action Bool := do
  if !mutations.kvMountCreated then return true
  let answer ← ask (.read session.token (kvMountPath session.request))
  return ownedKVMount answer mutations.kvMountUUID mutations.kvMountAccessor

def unchangedBeforeWrite (session : Session) (path : String) (prior : ReadResult) :
    Action Bool := do
  let .ok current ← ask (.read session.token path) | return false
  return current.found = prior.found &&
    (!current.found || equalJSON (mapValue current.data) (mapValue prior.data))

def revokeAndProve (scope : Scope) (credential : Credential) : Action Bool := do
  if credential.token = "" then return false
  let stopped ← cancelled scope
  if stopped then return false
  let .ok _ ← ask (.lookupSelf credential) | return false
  let _ ← ask (.write credential revokeSelfPath (.object []))
  let .ok _ ← ask (.expectForbidden credential lookupSelfPath) | return false
  return true

/-! ## Workload authorization -/

/-- `validServiceAccountToken` at a time. -/
def validServiceAccountToken (now : Int) (token : ServiceAccountToken)
    (requestedSeconds : Int) : Bool :=
  8 ≤ token.jwt.utf8ByteSize && 0 < requestedSeconds &&
    token.expirationTimestamp.elim false fun expiration =>
      (requestedSeconds - 60) * 1000000000 ≤ expiration - now &&
        expiration - now ≤ (requestedSeconds + 30) * 1000000000

def projectedToken (identity : WorkloadIdentity) (audience : String) :
    Action (Option String) := do
  let .ok token ← ask (.requestServiceAccountToken identity audience 600) | return none
  let now ← ask .now
  return if validServiceAccountToken now token 600 then some token.jwt else none

def loginBody (request : Request) (jwt : String) : Json :=
  .object [("role", .string request.contract.roleName), ("jwt", .string jwt)]

def loginToken (login : ReadResult) : String := textValue (login.auth.getD []) "client_token"

def negativeLogins (request : Request) : List (WorkloadIdentity × String) :=
  [(request.contract.workloadIdentity, "cloudring-invalid"),
    (request.negativeIdentities.wrongServiceAccount, request.contract.audience),
    (request.negativeIdentities.wrongNamespace, request.contract.audience)]

/-- The negative logins, up to the first that is not denied: the failed gate and whether no
token is left behind. -/
def denyLogins (request : Request) :
    List (WorkloadIdentity × String) → Action (Option (String × Bool))
  | [] => return none
  | (identity, audience) :: rest => do
    let some jwt ← projectedToken identity audience |
      return some ("negative-tokenrequest", true)
    match ← ask (.write .anonymous (loginPath request) (loginBody request jwt)) with
    | .error .forbidden => denyLogins request rest
    | .error failure => return some ("negative-login-denial", failure ≠ .ambiguous)
    | .ok login =>
      let revoked ← revokeAndProve .detached (.unexpected (loginToken login))
      return some ("negative-login-denial", revoked)

def siblingPath (request : Request) : String :=
  request.contract.kvV2Mount ++ "/data/" ++ request.contract.dataPrefix ++ "-denied/" ++
    request.seed.relativePath

def workloadBoundary (request : Request) : List (String × List String) :=
  [(dataPath request, ["read"]),
    (siblingPath request, ["deny"]),
    (metadataPath request, ["deny"]),
    (request.contract.kvV2Mount ++ "/metadata/" ++ request.contract.dataPrefix, ["deny"]),
    (lookupSelfPath, ["read"]), (revokeSelfPath, ["update"]),
    ("sys/capabilities-self", ["update"]), ("auth/token/renew-self", ["deny"])]

section Engine

variable [TimeFormat]

/-- The checks after the workload's login; leaving them leaves the workload token to the
deferred revocation. -/
def workloadChecks (request : Request) (serviceAccountUID : String) (login : ReadResult) :
    Exiting Reply (String × Bool) Unit := do
  let credential := Credential.workload (loginToken login)
  require (exactLogin (login.auth.getD []) request.contract serviceAccountUID)
    (pure ("positive-login", true))
  let seed ← ask (.read credential (dataPath request))
  require (match seed with
    | .ok seed => seed.found && exactSeedData seed (seedData request)
    | .error _ => false) (pure ("allowed-data-read", true))
  let boundary := workloadBoundary request
  let capabilities ← ask (.capabilitiesSelf credential (boundary.map Prod.fst))
  require (match capabilities with
    | .ok actual => boundary.all fun (path, want) => equalStrings (capabilitiesOf actual path) want
    | .error _ => false) (pure ("workload-capability-boundary", true))
  let sibling ← ask (.expectForbidden credential (siblingPath request))
  require sibling.isOk (pure ("sibling-path-denial", true))
  let metadata ← ask (.expectForbidden credential (metadataPath request))
  require metadata.isOk (pure ("metadata-denial", true))
  match ← denyLogins request (negativeLogins request) with
  | some failed => leave (pure failed)
  | none =>
    let revoked ← revokeAndProve .operation credential
    require revoked (pure ("workload-token-revoke", false))

/-- `verifyWorkloadAuthorization`: the failed gate and whether no token is left behind. -/
def verifyWorkloadAuthorization (request : Request) (serviceAccountUID : String) :
    Action (Option (String × Bool)) := do
  let contract := request.contract
  let .ok uid ← ask (.getServiceAccount contract.workloadIdentity) |
    return some ("positive-service-account-changed", true)
  if uid ≠ serviceAccountUID then return some ("positive-service-account-changed", true)
  let some jwt ← projectedToken contract.workloadIdentity contract.audience |
    return some ("positive-tokenrequest", true)
  let answer ← ask (.write .anonymous (loginPath request) (loginBody request jwt))
  match answer with
  | .error _ => return some ("positive-login", definitelyRejected answer)
  | .ok login =>
    if loginToken login = "" then return some ("positive-login", false)
    match ← (workloadChecks request serviceAccountUID login).run with
    | .ok () => return none
    | .error (gate, cleanupSafe) =>
      -- The deferred function revokes the token that the checks left behind.
      let revoked ← revokeAndProve .detached (.workload (loginToken login))
      return some (gate, cleanupSafe && revoked)

/-! ## Rollback -/

def deleteAndReadBack (token : Credential) (path : String) : Action Bool := do
  let _ ← ask (.delete token path)
  let .ok after ← ask (.read token path) | return false
  return !after.found

def deleteOwned (token : Credential) (path : String) (owned : ReadResult → Bool) :
    Action Bool := do
  let stopped ← cancelled .cleanup
  if stopped then return false
  let .ok current ← ask (.read token path) | return false
  if !owned current then return false
  deleteAndReadBack token path

def ownedPolicy (session : Session) (plan : Plan) (mutations : MutationState)
    (policy : ReadResult) : Bool :=
  exactPolicy policy session.request.contract.policyName plan.aclPolicy &&
    integer policy.fields "version" = some mutations.policyVersion &&
    textValue policy.fields "modified" = mutations.policyModified

def deleteMount (session : Session) (plan : Plan) (mutations : MutationState) :
    Action Bool := do
  let request := session.request
  let stopped ← cancelled .cleanup
  if stopped then return false
  let mountAnswer ← ask (.read session.token (mountPath request))
  let configAnswer ← ask (.read session.token (configPath request))
  let rolesAnswer ← ask (.list session.token (rolesPath request))
  match mountAnswer, configAnswer, rolesAnswer with
  | .ok mount, .ok config, .ok roles =>
    if !(exactMount mount plan.authMount &&
        sameMount mount mutations.mountUUID mutations.mountAccessor &&
        (!config.found || exactConfig config plan.authConfigReadback) && noRoles roles) then
      return false
    deleteAndReadBack session.token (mountPath request)
  | _, _, _ => return false

def ifCreated (created : Bool) (step : Action Bool) : Action Bool :=
  if created then step else pure true

def rollback (session : Session) (plan : Plan) (mutations : MutationState) : Action Bool := do
  let request := session.request
  let stopped ← cancelled .cleanup
  if stopped then return false
  if mutations.seedCreated then return false
  let owned ← kvV2MountStillOwned session mutations
  if !owned then return false
  let roleGone ← ifCreated mutations.roleCreated
    (deleteOwned session.token (rolePath request) (exactRole · plan.role))
  if !roleGone then return false
  let policyGone ← ifCreated mutations.policyCreated
    (deleteOwned session.token (policyPath request) (ownedPolicy session plan mutations))
  if !policyGone then return false
  ifCreated mutations.mountCreated (deleteMount session plan mutations)

/-! ## The ends of an execution -/

def releaseBlocked (target : LeaseTarget) (completed : List String) (failedGate : String) :
    Action Report := do
  let released ← release target
  if !released then return partialReport false false "lease-release" completed
  return fixedReport .blockedPreflight false false failedGate completed

/-- `revokeManagement` with the cleanup context. -/
def revokeManagement (session : Session) : Action Bool := revokeAndProve .cleanup session.token

/-- `guard.abandon` and a report. -/
def abandonWith (report : Report) : Action Report := do
  abandon
  return report

def blockAfterManagement (session : Session) (mutations : MutationState)
    (failedGate : String) : Action Report := do
  let completed := session.completed
  let owned ← kvV2MountStillOwned session mutations
  if !owned then
    abandonWith (partialReport true false "kv-v2-mount-ownership" completed)
  else
    let revoked ← revokeManagement session
    if !revoked then
      abandonWith (partialReport false false "management-token-revoke" completed)
    else if mutations.kvMountCreated then
      let released ← release session.request.lease
      if !released then return partialReport true false "lease-release" completed
      return partialReport true false failedGate completed
    else releaseBlocked session.request.lease completed failedGate

def holdForManualInspection (session : Session) (mutations : MutationState)
    (failedGate : String) (mutationPossible : Bool) : Action Report := do
  let live ← healthy
  if live then
    let _ ← revokeManagement session
  abandonWith
    (partialReport (mutations.mutated || mutationPossible) false failedGate session.completed)

def failAfterMutationWithCleanup (session : Session) (plan : Plan) (mutations : MutationState)
    (failedGate : String) (cleanupUncertain : Bool) : Action Report := do
  let completed := session.completed
  if !mutations.mutated then
    if cleanupUncertain then
      holdForManualInspection session mutations failedGate false
    else
      let revoked ← revokeManagement session
      if !revoked then
        abandonWith (partialReport false false "management-token-revoke" completed)
      else releaseBlocked session.request.lease completed failedGate
  else if mutations.seedCreated then
    holdForManualInspection session mutations failedGate true
  else
    let live ← healthy
    if !live then
      abandonWith (partialReport mutations.mutated false "exclusive-lease-lost" completed)
    else
      let rolledBack ← rollback session plan mutations
      let managementRevoked ← revokeManagement session
      if !rolledBack || !managementRevoked || cleanupUncertain then
        abandonWith (partialReport mutations.mutated true failedGate completed)
      else
        let released ← release session.request.lease
        if !released then
          return partialReport mutations.mutated true "lease-release" completed
        if mutations.kvMountCreated then return partialReport true true failedGate completed
        return fixedReport .rolledBack mutations.mutated true failedGate completed

def failAfterMutation (session : Session) (plan : Plan) (mutations : MutationState)
    (failedGate : String) : Action Report :=
  failAfterMutationWithCleanup session plan mutations failedGate false

def leaseLost (session : Session) : Action Report :=
  abandonWith (partialReport false false "exclusive-lease-lost" session.completed)

/-! ## The stages -/

/-- One part of `Execute`, which may return its report. -/
abbrev Stage (α : Type) := Exiting Reply Report α

/-- Write an object and read it back: the block that every created object has, with the gates
named after the object. -/
def createObject (session : Session) (mutations : MutationState) (object : String)
    (writePath readPath : String) (body : Json) (rejected : String → Action Report) :
    Stage (ReadResult × ReadResult) := do
  let hold := holdForManualInspection session mutations (object ++ "-create-ambiguous") true
  let written ← ask (.write session.token writePath body)
  let current ← ask (.read session.token readPath)
  match current with
  | .error _ => leave hold
  | .ok current =>
    if !current.found then
      leave (if definitelyRejected written then rejected (object ++ "-create-rejected") else hold)
    else
      match written with
      | .error _ => leave hold
      | .ok result => pure (result, current)

def kvMountStage (session : Session) (plan : Plan) (state : PreState) :
    Stage MutationState := do
  if state.kvMount.found then return {}
  else
    let live ← healthy
    require live (leaseLost session)
    let unchanged ← completePreStateUnchanged session state
    require unchanged (blockAfterManagement session {} "prewrite-prestate-changed")
    let path := kvMountPath session.request
    let (_, mount) ← createObject session {} "kv-v2-mount" path path
      (.object plan.kvV2Mount.members) (blockAfterManagement session {})
    require (exactKVV2Mount mount)
      (holdForManualInspection session {} "kv-v2-mount-create-drifted" true)
    return { kvMountCreated := true
             kvMountUUID := textValue mount.fields "uuid"
             kvMountAccessor := textValue mount.fields "accessor"
             mutated := true }

def configStage (session : Session) (plan : Plan) (mutations : MutationState) : Stage Unit := do
  let request := session.request
  let config ← ask (.read session.token (configPath request))
  let roles ← ask (.list session.token (rolesPath request))
  require (match config, roles with
    | .ok config, .ok roles => !config.found && noRoles roles
    | _, _ => false) (failAfterMutation session plan mutations "auth-config-prewrite-readback")
  let (_, written) ← createObject session mutations "auth-config" (configPath request)
    (configPath request) (.object plan.authConfig.members)
    (failAfterMutation session plan mutations)
  require (exactConfig written plan.authConfigReadback)
    (holdForManualInspection session mutations "auth-config-create-drifted" true)

def authMountStage (session : Session) (plan : Plan) (state : PreState)
    (mutations : MutationState) : Stage MutationState := do
  if state.mount.found then return mutations
  else
    let live ← healthy
    require live (leaseLost session)
    let absent ← mountPrestateStillAbsent session
    require absent (blockAfterManagement session mutations "prewrite-prestate-changed")
    let path := mountPath session.request
    let (_, mount) ← createObject session mutations "auth-mount" path path
      (.object plan.authMount.members) (blockAfterManagement session mutations)
    require (exactMount mount plan.authMount)
      (holdForManualInspection session mutations "auth-mount-create-drifted" true)
    let mountUUID := textValue mount.fields "uuid"
    let mountAccessor := textValue mount.fields "accessor"
    require (mountUUID ≠ "" && mountAccessor ≠ "")
      (holdForManualInspection session mutations "auth-mount-ownership-readback" true)
    let mutations := { mutations with
      mountCreated := true
      mountUUID := mountUUID
      mountAccessor := mountAccessor
      mutated := true }
    configStage session plan mutations
    return mutations

def readyToWrite (session : Session) (plan : Plan) (mutations : MutationState) (path : String)
    (prior : ReadResult) : Action Bool := do
  let live ← healthy
  if !live then return false
  let owned ← authMountStillOwned session plan mutations
  if !owned then return false
  unchangedBeforeWrite session path prior

def policyStage (session : Session) (plan : Plan) (state : PreState)
    (mutations : MutationState) : Stage MutationState := do
  if state.policy.found then return mutations
  else
    let path := policyPath session.request
    let ready ← readyToWrite session plan mutations path state.policy
    require ready (failAfterMutation session plan mutations "policy-prewrite-readback")
    let (_, policy) ← createObject session mutations "policy" path path
      (.object plan.aclPolicy.members) (failAfterMutation session plan mutations)
    require (exactPolicy policy session.request.contract.policyName plan.aclPolicy)
      (holdForManualInspection session mutations "policy-create-drifted" true)
    require (integer policy.fields "version" = some 1)
      (holdForManualInspection session mutations "policy-version-readback" true)
    return { mutations with
      policyCreated := true
      policyVersion := 1
      policyModified := textValue policy.fields "modified"
      mutated := true }

def roleStage (session : Session) (plan : Plan) (state : PreState)
    (mutations : MutationState) : Stage MutationState := do
  if state.role.found then return mutations
  else
    let path := rolePath session.request
    let ready ← readyToWrite session plan mutations path state.role
    require ready (failAfterMutation session plan mutations "role-prewrite-readback")
    let (_, role) ← createObject session mutations "role" path path
      (.object plan.role.members) (failAfterMutation session plan mutations)
    require (exactRole role plan.role)
      (holdForManualInspection session mutations "role-create-drifted" true)
    return { mutations with roleCreated := true, mutated := true }

def seedBody (request : Request) : Json :=
  .object [("options", .object [("cas", .number zero)]), ("data", .object (seedData request))]

def seedStage (session : Session) (plan : Plan) (state : PreState)
    (mutations : MutationState) : Stage MutationState := do
  if state.metadata.found then return mutations
  else
    let request := session.request
    let ready ← readyToWrite session plan mutations (metadataPath request) state.metadata
    require ready (failAfterMutation session plan mutations "seed-prewrite-readback")
    let (written, metadata) ← createObject session mutations "seed" (dataPath request)
      (metadataPath request) (seedBody request) (failAfterMutation session plan mutations)
    let answer ← ask (.read session.token (dataPath request))
    let drifted := holdForManualInspection session mutations "seed-create-drifted" true
    match answer with
    | .error _ => leave drifted
    | .ok seed =>
      match exactSeed metadata seed (seedData request) with
      | none => leave drifted
      | some createdAt =>
        require (exactSeedWrite written createdAt) drifted
        return { mutations with
          seedCreated := true
          seedCreatedAt := createdAt
          mutated := true }

/-- `validatePreState`: the gate that a captured state fails. -/
def validatePreState (request : Request) (plan : Plan) (state : PreState) : Option String :=
  if state.kvMount.found && !exactKVV2Mount state.kvMount then some "kv-v2-mount-prestate"
  else if !state.kvMount.found && (state.metadata.found || state.seed.found) then
    some "kv-v2-mount-prestate"
  else if !state.mount.found then
    if state.config.found || state.roles.found || state.role.found || state.policy.found ||
        state.metadata.found || state.seed.found then
      some "orphaned-prestate"
    else none
  else if !exactMount state.mount plan.authMount ||
      !exactConfig state.config plan.authConfigReadback ||
      !noForeignRoles state.roles request.contract.roleName then
    some "auth-mount-lifecycle"
  else if !state.policy.found ||
      !exactPolicy state.policy request.contract.policyName plan.aclPolicy ||
      !state.role.found || !exactRole state.role plan.role then
    some "existing-state-incomplete-or-drifted"
  else if !state.metadata.found || !state.seed.found then
    some "existing-seed-incomplete-or-drifted"
  else if (exactSeed state.metadata state.seed (seedData request)).isNone then
    some "existing-seed-incomplete-or-drifted"
  else none

def privilegeStage (session : Session) : Stage Unit := do
  let request := session.request
  let block := blockAfterManagement session {}
  match ← ask (.lookupSelf session.token) with
  | .error _ =>
    leave (abandonWith
      (partialReport false false "management-token-profile-unknown" session.completed))
  | .ok facts =>
    require (validManagementToken facts request.managementPolicyName &&
        facts.accessor = request.managementAccessor)
      (if provenNonRoot facts then block "management-token-profile"
      else abandonWith (partialReport false false "management-token-profile" session.completed))
    match buildManagementDelegation request.contract request.managementPolicyName
        request.seed.relativePath with
    | none => leave (block "management-policy-contract")
    | some delegation =>
      let capabilities ← ask (.capabilitiesSelf session.token
        (sortStrings (delegation.paths.map Prod.fst)))
      require (match capabilities with
        | .ok actual => exactManagementCapabilities actual delegation.paths
        | .error _ => false) (block "management-token-capabilities")
      let policy ← ask (.read session.token (managementPolicyPath request))
      require (match policy with
        | .ok policy => exactManagementPolicy policy request.managementPolicyName delegation.body
        | .error _ => false) (block "management-policy-readback")

def captureStage (session : Session) (plan : Plan) : Stage (Plan × PreState × Session) := do
  match ← capturePreState session with
  | none => leave (blockAfterManagement session {} "complete-prestate")
  | some state =>
    let session := session.complete "complete-prestate-captured"
    match validatePreState session.request plan state with
    | some gate => leave (blockAfterManagement session {} gate)
    | none => return (plan, state, session.complete "prestate-allows-mutation")

def preStateStage (session : Session) : Stage (Plan × PreState × Session) :=
  match build session.request.contract with
  | .error _ => leave (blockAfterManagement session {} "planner-contract")
  | .ok plan => captureStage session plan

theorem preStateStage_eq {session : Session} (valid : validate session.request.contract = []) :
    preStateStage session = captureStage session (desiredPlan session.request.contract) := by
  rw [preStateStage, build_ok valid]

def concludeStage (session : Session) (plan : Plan) (mutations : MutationState)
    (serviceAccountUID : String) : Action Report := do
  match ← verifyWorkloadAuthorization session.request serviceAccountUID with
  | some (gate, cleanupSafe) =>
    failAfterMutationWithCleanup session plan mutations gate !cleanupSafe
  | none =>
    let completed := session.completed ++ ["workload-live-authorization-proven"]
    let revoked ← revokeManagement session
    if !revoked then
      abandonWith (partialReport mutations.mutated false "management-token-revoke" completed)
    else
      let completed := completed ++ ["management-token-revoked"]
      let released ← release session.request.lease
      if !released then return partialReport mutations.mutated false "lease-release" completed
      return fixedReport .applied mutations.mutated false ""
        (completed ++ ["exclusive-lease-released"])

/-- `Execute` from the judged state on. -/
def mutationStages (session : Session) (plan : Plan) (state : PreState)
    (serviceAccountUID : String) : Stage Report := do
  let mutations ← kvMountStage session plan state
  let session := session.complete "kv-v2-mount-ready"
  let mutations ← authMountStage session plan state mutations
  let session := session.complete "dedicated-auth-mount-ready"
  let mutations ← policyStage session plan state mutations
  let session := session.complete "acl-policy-ready"
  let mutations ← roleStage session plan state mutations
  let session := session.complete "workload-role-ready"
  let mutations ← seedStage session plan state mutations
  let session := session.complete "kv-v2-seed-ready"
  concludeStage session plan mutations serviceAccountUID

/-- `Execute` from the unwrapped management token on. -/
def applyStages (session : Session) (serviceAccountUID : String) : Stage Report := do
  privilegeStage session
  let session := session.complete "management-token-least-privilege"
  let (plan, state, session) ← preStateStage session
  mutationStages session plan state serviceAccountUID

def execute (request : Request) : Action Report := do
  let .ok _ ← ask .health | return fixedReport .blockedPreflight false false "openbao-health" []
  let completed := ["openbao-active-unsealed"]
  let some serviceAccountUID ← verifyKubernetesBoundary request |
    return fixedReport .blockedPreflight false false "kubernetes-executor-boundary" completed
  let completed := completed ++ ["kubernetes-executor-boundary"]
  match ← acquireLease request.lease with
  | .error true => return partialReport false false "exclusive-lease-acquire-ambiguous" completed
  | .error false => return fixedReport .blockedPreflight false false "exclusive-lease" completed
  | .ok () =>
    let completed := completed ++ ["exclusive-lease-acquired"]
    let answer ← ask (.unwrap ((Base64.decode request.wrappingTokenBase64).getD []))
    match answer with
    | .error _ =>
      if definitelyRejected answer then
        releaseBlocked request.lease completed "management-token-unwrap"
      else abandonWith (partialReport false false "management-token-unwrap-ambiguous" completed)
    | .ok token =>
      let session : Session :=
        ⟨request, .management token, completed ++ ["management-token-unwrapped"]⟩
      finish (applyStages session serviceAccountUID)

end Engine

end CloudRing.OpenBaoApply
