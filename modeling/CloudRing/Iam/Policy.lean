import CloudRing.Iam.Rules
import Mathlib.Algebra.Group.Int.Defs

/-!
# Authorization decisions

`policy.go` and `audit_event.go`: a request is authenticated, resolved and evaluated, and the
decision is recorded before it is returned.
-/

namespace CloudRing.Iam

open Library

inductive AuditResult where
  | allow
  | deny
  deriving DecidableEq, Repr

structure AuditEvent where
  (actor representedSubject : String)
  action : Action
  target : TargetRef
  (reason ticketRef correlationID : String)
  result : AuditResult
  policyRule : String
  timestamp : Time
  error : String
  breakGlass : Bool
  (supportGrantRef apiTokenRef targetPrincipal : String)
  targetLifecycle : TenantState
  (targetNamespace targetResource targetResourceName targetOrganization targetTenant
    targetProject : String)
  credentialClass : CredentialClass
  mfa : MFAAssurance
  session : SessionAssurance
  proof : AuthenticationProof
  deriving DecidableEq, Repr

/-- `PolicyConfig`, without the clock. -/
structure PolicyConfig where
  authenticationVerifier : Bool
  durableAuditSink : Bool
  proofMaxAge : Int
  proofSkew : Int
  allowEphemeralAudit : Bool
  deriving DecidableEq, Repr

structure Policy extends PolicyState where
  config : PolicyConfig

structure Answers where
  now : Time
  authentication : Option AuthenticationResult
  durable : Bool
  ready : Bool
  append : AuditEvent → Bool

structure ResolvedSubject where
  principal : Principal
  (actor represented : String)
  apiGrant : APIToken
  authnClass : CredentialClass
  mfa : MFAAssurance
  session : SessionAssurance
  proof : AuthenticationProof
  deriving DecidableEq, Repr

/-! ## Authentication -/

/-- `time.Second`, in nanoseconds. -/
def second : Int := 1000000000

/-- `maxConfiguredProofAge`, a day. -/
def maxConfiguredProofAge : Int := 24 * 3600 * second

/-- `maxConfiguredProofSkew`, five minutes. -/
def maxConfiguredProofSkew : Int := 5 * 60 * second

/-- `Time.Sub`, which saturates at the bounds of a duration. -/
def sub (later earlier : Time) : Int := max (-2 ^ 63) (min (2 ^ 63 - 1) (later - earlier))

def validateAuthenticationProof (config : PolicyConfig) (result : AuthenticationResult)
    (now : Time) : Option PolicyError :=
  if config.proofMaxAge ≤ 0 ∨ config.proofMaxAge > maxConfiguredProofAge ∨
      config.proofSkew < 0 ∨ config.proofSkew > maxConfiguredProofSkew then
    some .authentication
  else
    let proof := result.proof
    if proof.verifiedAt = 0 ∨ proof.expiresAt = 0 ∨ ¬proof.expiresAt > proof.verifiedAt ∨
        ¬now < proof.expiresAt ∨ proof.verifiedAt > now + config.proofSkew then
      some .authentication
    else
      let age := max 0 (sub now proof.verifiedAt)
      if age > config.proofMaxAge then some .authentication
      else if result.credentialClass ≠ .shortLivedAPIToken then
        let maxSessionSeconds := config.proofMaxAge / second
        if result.session.maxAgeSeconds ≤ 0 ∨ result.session.maxAgeSeconds > maxSessionSeconds ∨
            age > result.session.maxAgeSeconds * second then
          some .authentication
        else none
      else none

/-- `authenticate`: the verifier's result, if its proof is valid. -/
def authenticate (config : PolicyConfig) (answers : Answers) : Option AuthenticationResult :=
  if !config.authenticationVerifier then none
  else match answers.authentication with
    | none => none
    | some result =>
      match validateAuthenticationProof config result answers.now with
      | some _ => none
      | none => some result

def classDenied (request : AuthorizationRequest) (credentialClass : CredentialClass) : Bool :=
  if request.breakGlass then credentialClass ≠ .breakGlass
  else if request.supportGrantRef ≠ "" then credentialClass ≠ .supportGrant
  else request.subject.apiTokenRef = "" && credentialClass ≠ .interactiveSession

def unresolvedSubject (request : AuthorizationRequest) (authentication : AuthenticationResult) :
    ResolvedSubject where
  principal := default
  actor := request.subject.id
  represented := ""
  apiGrant := default
  authnClass := authentication.credentialClass
  mfa := authentication.mfa
  session := authentication.session
  proof := authentication.proof

/-- The part of `resolveSubject` for a request that names an API token. -/
def resolveAPIToken (state : PolicyState) (request : AuthorizationRequest)
    (authentication : AuthenticationResult) (now : Time) : ResolvedSubject × Decision :=
  let subject := unresolvedSubject request authentication
  if authentication.credentialClass ≠ .shortLivedAPIToken ∨
      authentication.apiTokenRef ≠ request.subject.apiTokenRef then
    (subject, deny .authentication "authentication_class_denied")
  else match (state.apiTokens.find request.subject.apiTokenRef).filter fun apiGrant =>
      apiGrant.reference = request.subject.apiTokenRef &&
        apiGrant.subjectID = authentication.subjectID with
    | none =>
      ({ subject with actor := "api-token-" ++ request.subject.apiTokenRef },
        deny .unknownPrincipal "fail_closed")
    | some apiGrant =>
      match (state.principals.find apiGrant.subjectID).filter fun principal =>
          principal.id = apiGrant.subjectID with
      | none =>
        ({ subject with actor := "api-grant:" ++ apiGrant.reference },
          deny .unknownPrincipal "fail_closed")
      | some principal =>
        let subject := { subject with
          principal := principal
          actor := "api-grant:" ++ apiGrant.reference
          represented := apiGrant.subjectID
          apiGrant := apiGrant }
        if apiGrant.revokedAt ≠ 0 then (subject, deny .tokenRevoked "api_token_denied")
        else if apiGrant.expiresAt = 0 ∨ ¬now < apiGrant.expiresAt then
          (subject, deny .tokenExpired "api_token_denied")
        else (subject, default)

/-- `resolveSubject`. Without an authentication result the zero result is resolved. -/
def resolveSubject (state : PolicyState) (request : AuthorizationRequest)
    (authenticated : Option AuthenticationResult) (now : Time) : ResolvedSubject × Decision :=
  let authentication := authenticated.getD default
  let subject := unresolvedSubject request authentication
  if authenticated = none ∨ authentication.subjectID = "" ∨
      authentication.subjectID ≠ request.subject.id then
    (subject, deny .authentication "authentication_required")
  else if classDenied request authentication.credentialClass then
    (subject, deny .authentication "authentication_class_denied")
  else if request.subject.apiTokenRef ≠ "" then
    resolveAPIToken state request authentication now
  else
    let principal := state.principals.find request.subject.id
    let subject := { subject with principal := principal.getD default }
    if principal = none ∨ (principal.getD default).id ≠ request.subject.id then
      (subject, deny .unknownPrincipal "fail_closed")
    else (subject, default)

/-! ## Evaluation -/

def resolveTarget (state : PolicyState) (target : TargetRef) :
    Except PolicyError (Tenant × Project) := do
  let _ ← require .unknownTenant ((state.organizations.find target.orgID).filter
    fun organization => organization.id = target.orgID)
  let tenant ← require .unknownTenant ((state.tenants.find target.tenantID).filter
    fun tenant => tenant.id = target.tenantID && tenant.orgID = target.orgID)
  let project ← require .unknownProject ((state.projects.find target.projectID).filter
    fun project => project.id = target.projectID && project.tenantID = target.tenantID &&
      project.orgID = target.orgID)
  return (tenant, project)

def isSpace (char : Char) : Bool :=
  char.val ∈ ([0x09, 0x0A, 0x0B, 0x0C, 0x0D, 0x20, 0x85, 0xA0, 0x1680, 0x2028, 0x2029, 0x202F,
    0x205F, 0x3000] : List UInt32) || (0x2000 ≤ char.val && char.val ≤ 0x200A)

/-- A text of which `strings.TrimSpace` leaves nothing. -/
def blank (text : String) : Bool := text.toList.all isSpace

def evaluateBreakGlass (request : AuthorizationRequest) (subject : ResolvedSubject) : Decision :=
  if blank request.context.reason then deny .reasonRequired "break_glass_reason_required"
  else if blank request.context.ticketRef then deny .ticketRequired "break_glass_ticket_required"
  else if !roleAllows .tenantRecover request.target subject.principal.memberships then
    deny .roleDenied "role_denied"
  else allow "break_glass"

def evaluateSupportGrant (state : PolicyState) (request : AuthorizationRequest)
    (subject : ResolvedSubject) (now : Time) : Decision :=
  match (state.supportGrants.find request.supportGrantRef).filter fun grant =>
      grant.reference = request.supportGrantRef && grant.subjectID = subject.principal.id with
  | none => deny .supportGrant "support_grant_denied"
  | some grant =>
    if !subject.principal.support then deny .supportGrant "support_grant_denied"
    else if blank request.context.ticketRef ∨ request.context.ticketRef ≠ grant.ticketRef then
      deny .ticketRequired "support_ticket_required"
    else if blank request.context.reason ∨ blank grant.reason then
      deny .reasonRequired "support_reason_required"
    else if grant.expiresAt = 0 ∨ ¬now < grant.expiresAt then
      deny .supportGrant "support_grant_denied"
    else if grant.tenantID ≠ request.target.tenantID ∨
        grant.projectID ≠ request.target.projectID then
      deny .crossTenant "cross_tenant_denied"
    else if !actionAllowed grant.actions request.action then
      deny .supportGrant "support_grant_denied"
    else allow "support_grant"

def evaluateAPIToken (request : AuthorizationRequest) (token : APIToken) (now : Time) :
    Option PolicyError :=
  if token.revokedAt = 0 ∧ token.expiresAt ≠ 0 ∧ now < token.expiresAt then
    if token.tenantID ≠ request.target.tenantID ∨ token.projectID ≠ request.target.projectID then
      some .crossTenant
    else if token.secretHashRef = "" ∨ !actionAllowed token.scopes request.action then
      some .tokenScope
    else none
  else if token.revokedAt ≠ 0 then some .tokenRevoked
  else some .tokenExpired

/-- The loop of `removingLastOwner` with its maps of identities and owners. An entry whose
identity is not its reference, or is not new, ends the loop. -/
def countOwners (project : Project) :
    List ((_ : String) × Principal) → List String → List String → Option (List String)
  | [], _, owners => some owners
  | ⟨reference, principal⟩ :: rest, identities, owners =>
    if reference = "" ∨ principal.id = "" ∨ reference ≠ principal.id then none
    else if principal.id ∈ identities then none
    else countOwners project rest (principal.id :: identities)
      (if principalOwns principal project then owners.insert principal.id else owners)

def removingLastOwner (state : PolicyState) (targetPrincipal : String) (project : Project) :
    Bool :=
  if targetPrincipal = "" then true
  else match countOwners project state.principals.entries [] [] with
    | none => true
    | some owners => targetPrincipal ∉ owners || owners.length ≤ 1

/-- The owner-removal checks of `evaluate`. -/
def ownerRemovalDenied (state : PolicyState) (request : AuthorizationRequest)
    (project : Project) : Option Decision :=
  if request.action = .ownerRemove then
    match (state.principals.find request.context.targetPrincipal).filter fun principal =>
        principal.id = request.context.targetPrincipal && principalOwns principal project with
    | none => some (deny .targetPrincipal "owner_target_denied")
    | some _ =>
      if removingLastOwner state request.context.targetPrincipal project then
        some (deny .lastOwner "last_owner_guard")
      else none
  else none

/-- The credential paths at the end of `evaluate`. -/
def evaluatePath (state : PolicyState) (request : AuthorizationRequest)
    (subject : ResolvedSubject) (now : Time) : Decision :=
  if request.breakGlass then evaluateBreakGlass request subject
  else if request.supportGrantRef ≠ "" then evaluateSupportGrant state request subject now
  else if request.subject.apiTokenRef ≠ "" then
    match evaluateAPIToken request subject.apiGrant now with
    | some err => deny err "api_token_denied"
    | none => allow "api_token_scope"
  else if !hasTenantAccess request.target subject.principal.memberships then
    deny .crossTenant "cross_tenant_denied"
  else if !roleAllows request.action request.target subject.principal.memberships then
    deny .roleDenied "role_denied"
  else allow (ruleForRole request.action request.target subject.principal.memberships)

def evaluate (state : PolicyState) (request : AuthorizationRequest) (subject : ResolvedSubject)
    (now : Time) : Decision :=
  if !knownAction request.action then deny .unknownAction "fail_closed"
  else
    let assurance := evaluateAssurance request subject.authnClass subject.mfa subject.session
    if assurance.err ≠ none then assurance
    else if request.action = .tenantRecover ∧ ¬request.breakGlass then
      deny .breakGlass "break_glass_required"
    else match resolveTarget state request.target with
      | .error err => deny err "fail_closed"
      | .ok (tenant, project) =>
        if !targetWithinProjectScope request.target project request.action then
          deny .objectScope "object_scope_denied"
        else match lifecycleAllows tenant.state request.action with
          | some err => deny err "tenant_lifecycle_write_denied"
          | none =>
            match ownerRemovalDenied state request project with
            | some denied => denied
            | none => evaluatePath state request subject now

/-! ## The recorded decision -/

/-- The event that `audit` appends. -/
def auditEvent (state : PolicyState) (request : AuthorizationRequest) (subject : ResolvedSubject)
    (decision : Decision) (now : Time) : AuditEvent where
  actor := if subject.actor = "" then request.subject.id else subject.actor
  representedSubject := subject.represented
  action := request.action
  target := request.target
  reason := request.context.reason
  ticketRef := request.context.ticketRef
  correlationID := request.context.correlationID
  result := if decision.allowed then .allow else .deny
  policyRule := decision.policyRule
  timestamp := now
  error := match decision.err with
    | some err => err.text
    | none => ""
  breakGlass := request.breakGlass
  supportGrantRef := request.supportGrantRef
  apiTokenRef := request.subject.apiTokenRef
  targetPrincipal := request.context.targetPrincipal
  targetLifecycle := match state.tenants.find request.target.tenantID with
    | some tenant => tenant.state
    | none => default
  targetNamespace := request.target.namespaceName
  targetResource := request.target.resource
  targetResourceName := request.target.name
  targetOrganization := request.target.orgID
  targetTenant := request.target.tenantID
  targetProject := request.target.projectID
  credentialClass := decision.credentialClass
  mfa := decision.mfa
  session := decision.session
  proof := decision.proof

def auditDenied (decision : Decision) (err : PolicyError) : Decision :=
  { decision with allowed := false, err := some err, policyRule := "audit_required" }

def audit (policy : Policy) (answers : Answers) (request : AuthorizationRequest)
    (subject : ResolvedSubject) (decision : Decision) : Decision :=
  if !policy.config.durableAuditSink ∨
      !policy.config.allowEphemeralAudit ∧ !answers.durable then
    auditDenied decision .auditRequired
  else if !answers.ready then auditDenied decision .auditRequired
  else if !answers.append
      (auditEvent policy.toPolicyState request subject decision answers.now) then
    auditDenied decision .auditAppend
  else decision

def requireFactors (request : AuthorizationRequest) (subject : ResolvedSubject) :
    ResolvedSubject :=
  let mfa := normalizedMFA request subject.authnClass subject.mfa
  { subject with
    mfa := if principalRequiresMFA subject.principal then { mfa with required := true } else mfa }

/-- The part of `AuthorizeContext` before the audit: the subject and the decision about it. -/
def decideRequest (policy : Policy) (answers : Answers) (request : AuthorizationRequest) :
    ResolvedSubject × Decision :=
  let resolved := resolveSubject policy.toPolicyState request
    (authenticate policy.config answers) answers.now
  let subject := requireFactors request resolved.1
  let decision :=
    if resolved.2.err = none then evaluate policy.toPolicyState request subject answers.now
    else resolved.2
  (subject, { decision with
    credentialClass := subject.authnClass
    mfa := subject.mfa
    session := subject.session
    proof := subject.proof })

def authorizeContext (policy : Policy) (answers : Answers) (request : AuthorizationRequest) :
    Decision :=
  let decided := decideRequest policy answers request
  audit policy answers request decided.1 decided.2

/-! ## Construction -/

structure Startup where
  (context loader durable auditReady : Bool)
  loaderReady : Except String Unit
  loaded : Except String PolicyState

/-- `NewPolicyFromState`. Cloning a map of values changes nothing. -/
def newPolicyFromState (startup : Startup) (config : PolicyConfig) : Except String Policy := do
  ensure "iam: policy state loader is required" (startup.context && startup.loader)
  ensure "iam: authentication verifier is required" config.authenticationVerifier
  ensure "iam: authentication proof bounds are invalid"
    !(config.proofMaxAge ≤ 0 || config.proofMaxAge > maxConfiguredProofAge ||
      config.proofSkew < 0 || config.proofSkew > maxConfiguredProofSkew)
  ensure PolicyError.auditRequired.text
    !(!config.durableAuditSink || !startup.durable || config.allowEphemeralAudit)
  ensure ("iam: audit dependency is unavailable: " ++ PolicyError.auditRequired.text)
    startup.auditReady
  startup.loaderReady.mapError fun err => "iam: policy state dependency is unavailable: " ++ err
  let state ← startup.loaded.mapError fun err => "iam: load policy state: " ++ err
  validatePolicyState state
  return { state with config := config }

end CloudRing.Iam
