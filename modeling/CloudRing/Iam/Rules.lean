import CloudRing.Iam.Directory

/-!
# Assurance, lifecycle and role rules

The requests and proofs of `types.go` and the rules of `rules.go`.
-/

namespace CloudRing.Iam

/-! ## Authentication evidence -/

inductive CredentialClass where
  | interactiveSession
  | shortLivedAPIToken
  | supportGrant
  | breakGlass
  | unknown (name : String)
  deriving DecidableEq, Repr

instance : Inhabited CredentialClass := ⟨.unknown ""⟩

inductive MFAMethodClass where
  | noMethod
  | totp
  | webAuthn
  | hardwareKey
  | externalIDP
  | unknown (name : String)
  deriving DecidableEq, Repr

instance : Inhabited MFAMethodClass := ⟨.unknown ""⟩

structure MFAAssurance where
  required : Bool
  satisfied : Bool
  methodClass : MFAMethodClass
  deriving DecidableEq, Repr, Inhabited

inductive SessionState where
  | fresh
  | stale
  | absent
  | revoked
  | unknown (name : String)
  deriving DecidableEq, Repr

instance : Inhabited SessionState := ⟨.unknown ""⟩

structure SessionAssurance where
  state : SessionState
  maxAgeSeconds : Int
  reauthenticationRequired : Bool
  deriving DecidableEq, Repr, Inhabited

structure AuthenticationProof where
  verifiedAt : Time
  expiresAt : Time
  deriving DecidableEq, Repr, Inhabited

structure AuthenticationResult where
  (subjectID apiTokenRef : String)
  credentialClass : CredentialClass
  mfa : MFAAssurance
  session : SessionAssurance
  proof : AuthenticationProof
  deriving DecidableEq, Repr, Inhabited

/-! ## Requests and decisions -/

structure PrincipalRef where
  (id apiTokenRef : String)
  deriving DecidableEq, Repr

structure TargetRef where
  (orgID tenantID projectID namespaceName resource name : String)
  deriving DecidableEq, Repr

/-- `RequestContext`, without the time that is never trusted. -/
structure RequestContext where
  (ticketRef correlationID reason targetPrincipal : String)
  deriving DecidableEq, Repr

structure AuthorizationRequest where
  subject : PrincipalRef
  action : Action
  target : TargetRef
  context : RequestContext
  supportGrantRef : String
  breakGlass : Bool
  deriving DecidableEq, Repr

/-- The errors of `types.go`, and the one that wraps a failed append. -/
inductive PolicyError where
  | unknownPrincipal
  | unknownAction
  | unknownTenant
  | unknownProject
  | crossTenant
  | objectScope
  | tenantSuspended
  | tenantDeleting
  | tenantState
  | lastOwner
  | reasonRequired
  | ticketRequired
  | auditRequired
  | auditAppend
  | tokenExpired
  | tokenRevoked
  | tokenScope
  | supportGrant
  | roleDenied
  | authentication
  | mfaRequired
  | sessionAssurance
  | breakGlass
  | targetPrincipal
  deriving DecidableEq, Repr

/-- `Error`. -/
def PolicyError.text : PolicyError → String
  | unknownPrincipal => "iam: unknown principal"
  | unknownAction => "iam: unknown action"
  | unknownTenant => "iam: unknown tenant"
  | unknownProject => "iam: unknown project"
  | crossTenant => "iam: cross-tenant access denied"
  | objectScope => "iam: object scope denied"
  | tenantSuspended => "iam: tenant suspended"
  | tenantDeleting => "iam: tenant deleting"
  | tenantState => "iam: invalid tenant lifecycle state"
  | lastOwner => "iam: last owner removal denied"
  | reasonRequired => "iam: explicit reason required"
  | ticketRequired => "iam: support ticket reference required"
  | auditRequired => "iam: durable audit required"
  | auditAppend => "append audit event: iam: durable audit required"
  | tokenExpired => "iam: api token expired"
  | tokenRevoked => "iam: api token revoked"
  | tokenScope => "iam: api token scope denied"
  | supportGrant => "iam: support grant denied"
  | roleDenied => "iam: role denied"
  | authentication => "iam: trusted authentication evidence required"
  | mfaRequired => "iam: multi-factor assurance required"
  | sessionAssurance => "iam: fresh session assurance required"
  | breakGlass => "iam: break-glass context required"
  | targetPrincipal => "iam: target principal is not an owner of the project"

structure Decision where
  allowed : Bool
  err : Option PolicyError
  policyRule : String
  credentialClass : CredentialClass
  mfa : MFAAssurance
  session : SessionAssurance
  proof : AuthenticationProof
  deriving DecidableEq, Repr, Inhabited

def allow (rule : String) : Decision := { (default : Decision) with
  allowed := true, policyRule := rule }

def deny (err : PolicyError) (rule : String) : Decision := { (default : Decision) with
  err := some err, policyRule := rule }

@[simp] theorem allow_allowed (rule : String) : (allow rule).allowed = true := rfl

@[simp] theorem allow_err (rule : String) : (allow rule).err = none := rfl

@[simp] theorem deny_allowed (err : PolicyError) (rule : String) :
    (deny err rule).allowed = false := rfl

@[simp] theorem deny_err (err : PolicyError) (rule : String) : (deny err rule).err = some err := rfl

@[simp] theorem default_err : (default : Decision).err = none := rfl

@[simp] theorem guarded_allowed {denied : Prop} [Decidable denied] {err : PolicyError}
    {rule : String} {decision : Decision} :
    (if denied then deny err rule else decision).allowed = true ↔
      ¬denied ∧ decision.allowed = true := by
  by_cases holds : denied <;> simp [holds]

@[simp] theorem guarded_err {denied : Prop} [Decidable denied] {err : PolicyError} {rule : String}
    {decision : Decision} :
    (if denied then deny err rule else decision).err = none ↔ ¬denied ∧ decision.err = none := by
  by_cases holds : denied <;> simp [holds]

/-! ## Multi-factor and session assurance -/

def principalRequiresMFA (principal : Principal) : Bool :=
  principal.support ||
    principal.memberships.any fun membership => membership.role = .platformAdmin

def knownSatisfiedMFAMethod : MFAMethodClass → Bool
  | .totp | .webAuthn | .hardwareKey | .externalIDP => true
  | .noMethod | .unknown _ => false

def normalizedMFA (request : AuthorizationRequest) (credential : CredentialClass)
    (mfa : MFAAssurance) : MFAAssurance :=
  if credential ≠ .shortLivedAPIToken ∧
      (request.action ≠ .projectRead ∨ request.supportGrantRef ≠ "" ∨ request.breakGlass) then
    { mfa with required := true }
  else mfa

/-- `evaluateAssurance`, on the fields of the resolved subject that it reads. -/
def evaluateAssurance (request : AuthorizationRequest) (authnClass : CredentialClass)
    (subjectMFA : MFAAssurance) (session : SessionAssurance) : Decision :=
  let mfa := normalizedMFA request authnClass subjectMFA
  if mfa.required ∧ (¬mfa.satisfied ∨ ¬knownSatisfiedMFAMethod mfa.methodClass) then
    deny .mfaRequired "mfa_required"
  else if authnClass = .shortLivedAPIToken then
    if session.state ≠ .absent ∨ session.maxAgeSeconds ≠ 0 ∨ session.reauthenticationRequired then
      deny .sessionAssurance "session_assurance_denied"
    else default
  else if session.state ≠ .fresh ∨ session.maxAgeSeconds ≤ 0 ∨
      session.reauthenticationRequired then
    deny .sessionAssurance "session_assurance_denied"
  else default

/-! ## Lifecycle, scope and roles -/

def lifecycleAllows (state : TenantState) (action : Action) : Option PolicyError :=
  match state with
  | .active => none
  | .suspended =>
    if action = .tenantExport ∨ action = .tenantRecover ∨ action = .projectRead then none
    else some .tenantSuspended
  | .deleting =>
    if action = .tenantExport ∨ action = .projectRead then none else some .tenantDeleting
  | .recovering =>
    if action = .tenantRecover ∨ action = .projectRead then none else some .tenantSuspended
  | .exporting =>
    if action = .tenantExport ∨ action = .projectRead then none else some .tenantSuspended
  | .unknown _ => some .tenantState

def actionAllowed : List Action → Action → Bool
  | [], _ => false
  | action :: rest, want => if action = want then true else actionAllowed rest want

@[simp] theorem actionAllowed_iff {actions : List Action} {want : Action} :
    actionAllowed actions want = true ↔ want ∈ actions := by
  induction actions with
  | nil => simp [actionAllowed]
  | cons action rest ih =>
    by_cases same : action = want
    · simp [actionAllowed, same]
    · simp [actionAllowed, same, ih, Ne.symm same]

def targetWithinProjectScope (target : TargetRef) (project : Project) (action : Action) : Bool :=
  if target.namespaceName = "" then false
  else if project.namespaceName ≠ "" ∧ target.namespaceName = project.namespaceName then true
  else project.scopes.any fun scope =>
    scope.namespaceName = target.namespaceName && actionAllowed scope.actions action

def membershipRoleAllows (role : Role) (action : Action) : Bool :=
  match role with
  | .owner => action = .projectRead || action = .projectWrite || action = .projectManage ||
    action = .ownerRemove
  | .tenantAdmin => action = .projectRead || action = .projectWrite || action = .projectManage
  | .tenantViewer => action = .projectRead
  | .support => action = .projectRead
  | .platformAdmin => true
  | .unknown _ => false

def Membership.covers (membership : Membership) (target : TargetRef) : Bool :=
  membership.orgID = target.orgID && membership.tenantID = target.tenantID &&
    (membership.projectID = "" || membership.projectID = target.projectID)

/-- The loop of `hasTenantAccess` over the memberships. -/
def hasTenantAccess (target : TargetRef) : List Membership → Bool
  | [] => false
  | membership :: rest =>
    if membership.role = .platformAdmin then true
    else if membership.covers target then true
    else hasTenantAccess target rest

/-- The loop of `roleAllows` over the memberships. -/
def roleAllows (action : Action) (target : TargetRef) : List Membership → Bool
  | [] => false
  | membership :: rest =>
    if membership.role = .platformAdmin then true
    else if !membership.covers target then roleAllows action target rest
    else if membershipRoleAllows membership.role action then true
    else roleAllows action target rest

/-- The loop of `ruleForRole` over the memberships. -/
def ruleForRole (action : Action) (target : TargetRef) : List Membership → String
  | [] => "role_denied"
  | membership :: rest =>
    if membership.role = .platformAdmin then "platform_admin_lifecycle"
    else if !membership.covers target then ruleForRole action target rest
    else if membership.role = .tenantAdmin ∧ action = .projectManage then
      "tenant_admin_project_manage"
    else if membershipRoleAllows membership.role action then membership.role.text
    else ruleForRole action target rest

def sameProject (membership : Membership) (project : Project) : Bool :=
  membership.orgID = project.orgID && membership.tenantID = project.tenantID &&
    membership.projectID = project.id

def principalOwns (principal : Principal) (project : Project) : Bool :=
  principal.memberships.any fun membership =>
    membership.role = .owner && sameProject membership project

/-! ## What the loops decide -/

variable {memberships : List Membership} {target : TargetRef}

theorem roleAllows_iff {action : Action} :
    roleAllows action target memberships = true ↔
      ∃ membership ∈ memberships, membership.role = .platformAdmin ∨
        membership.covers target = true ∧ membershipRoleAllows membership.role action = true := by
  induction memberships with
  | nil => simp [roleAllows]
  | cons membership rest ih =>
    simp only [roleAllows, List.exists_mem_cons_iff, ← ih]
    by_cases admin : membership.role = .platformAdmin
    · simp [admin]
    · cases covered : membership.covers target <;>
        cases allows : membershipRoleAllows membership.role action <;> simp [admin]

theorem roleAllows_recover :
    roleAllows .tenantRecover target memberships = true ↔
      ∃ membership ∈ memberships, membership.role = .platformAdmin := by
  rw [roleAllows_iff]
  refine exists_congr fun membership => and_congr_right fun _ => ?_
  cases role : membership.role <;> simp [membershipRoleAllows]

theorem hasTenantAccess_of_roleAllows {action : Action}
    (allows : roleAllows action target memberships = true) :
    hasTenantAccess target memberships = true := by
  induction memberships with
  | nil => cases allows
  | cons membership rest ih =>
    simp only [roleAllows] at allows
    simp only [hasTenantAccess]
    by_cases admin : membership.role = .platformAdmin
    · simp [admin]
    · cases covered : membership.covers target
      · simp only [admin, covered, Bool.not_false, if_true, if_false] at allows ⊢
        exact ih allows
      · simp [admin]

/-! ## The memberships that a decision reads -/

def relevant (target : TargetRef) (memberships : List Membership) : List Membership :=
  memberships.filter fun membership =>
    membership.tenantID = target.tenantID || membership.role = .platformAdmin

theorem loop_relevant {β : Type} {loop : List Membership → β}
    (skips : ∀ membership rest, ¬membership.tenantID = target.tenantID →
      ¬membership.role = .platformAdmin → loop (membership :: rest) = loop rest)
    (step : ∀ membership left right, loop left = loop right →
      loop (membership :: left) = loop (membership :: right))
    (memberships : List Membership) : loop (relevant target memberships) = loop memberships := by
  induction memberships with
  | nil => rfl
  | cons membership rest ih =>
    by_cases kept : membership.tenantID = target.tenantID ∨ membership.role = .platformAdmin
    · have head : relevant target (membership :: rest) = membership :: relevant target rest := by
        simp [relevant, kept]
      rw [head]
      exact step membership _ _ ih
    · obtain ⟨other, ordinary⟩ := not_or.mp kept
      have head : relevant target (membership :: rest) = relevant target rest := by
        simp [relevant, other, ordinary]
      rw [head, ih, skips membership rest other ordinary]

end CloudRing.Iam
