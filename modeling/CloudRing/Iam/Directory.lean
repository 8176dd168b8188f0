import CloudRing.Library.Check
import Mathlib.Data.List.AList

/-!
# The role and scope directory

The records of `types.go` and the validation of a loaded directory in `state_loader.go`.
-/

namespace CloudRing.Iam

open Library

abbrev Time := Int

abbrev Directory (α : Type) := AList fun _ : String => α

def Directory.find {α : Type} (directory : Directory α) (reference : String) : Option α :=
  directory.lookup reference

/-! ## Enumerations -/

inductive Action where
  | projectRead
  | projectWrite
  | projectManage
  | ownerRemove
  | tenantExport
  | tenantRecover
  | unknown (name : String)
  deriving DecidableEq, Repr

inductive Role where
  | owner
  | tenantAdmin
  | tenantViewer
  | support
  | platformAdmin
  | unknown (name : String)
  deriving DecidableEq, Repr

def Role.text : Role → String
  | owner => "owner"
  | tenantAdmin => "tenant_admin"
  | tenantViewer => "tenant_viewer"
  | support => "support"
  | platformAdmin => "platform_admin"
  | unknown name => name

inductive TenantState where
  | active
  | suspended
  | deleting
  | recovering
  | exporting
  | unknown (name : String)
  deriving DecidableEq, Repr

instance : Inhabited TenantState := ⟨.unknown ""⟩

/-! ## Records -/

structure Organization where
  id : String
  deriving DecidableEq, Repr, Inhabited

structure Tenant where
  (id orgID : String)
  state : TenantState
  deriving DecidableEq, Repr, Inhabited

structure NamespaceScope where
  namespaceName : String
  actions : List Action
  deriving DecidableEq, Repr, Inhabited

structure Project where
  (id tenantID orgID namespaceName : String)
  scopes : List NamespaceScope
  deriving DecidableEq, Repr, Inhabited

structure Membership where
  (orgID tenantID projectID : String)
  role : Role
  deriving DecidableEq, Repr

structure Principal where
  id : String
  memberships : List Membership
  support : Bool
  deriving DecidableEq, Repr, Inhabited

structure APIToken where
  (reference subjectID secretHashRef tenantID projectID : String)
  scopes : List Action
  expiresAt : Time
  revokedAt : Time
  deriving DecidableEq, Repr, Inhabited

structure SupportGrant where
  (reference subjectID tenantID projectID : String)
  actions : List Action
  (ticketRef reason : String)
  expiresAt : Time
  deriving DecidableEq, Repr, Inhabited

structure PolicyState where
  organizations : Directory Organization
  tenants : Directory Tenant
  projects : Directory Project
  principals : Directory Principal
  apiTokens : Directory APIToken
  supportGrants : Directory SupportGrant

/-! ## Validation -/

def knownAction : Action → Bool
  | .unknown _ => false
  | _ => true

def knownTenantState : TenantState → Bool
  | .unknown _ => false
  | _ => true

def knownRole : Role → Bool
  | .unknown _ => false
  | _ => true

namespace PolicyState

variable (state : PolicyState)

def validateOrganization (entry : (_ : String) × Organization) : Except String Unit :=
  ensure "iam: organization reference mismatch" !(entry.1 = "" || entry.2.id ≠ entry.1)

def validateTenant (entry : (_ : String) × Tenant) : Except String Unit := do
  ensure "iam: tenant reference mismatch"
    !(entry.1 = "" || entry.2.id ≠ entry.1 || entry.2.orgID = "")
  ensure "iam: tenant organization or lifecycle is invalid"
    !((state.organizations.find entry.2.orgID).isNone || !knownTenantState entry.2.state)

def validateScope (scope : NamespaceScope) : Except String Unit := do
  ensure "iam: project namespace scope is invalid"
    !(scope.namespaceName = "" || scope.actions.length = 0)
  forEach (fun action =>
    ensure "iam: project namespace scope contains an unknown action" (knownAction action))
    scope.actions

def validateProject (entry : (_ : String) × Project) : Except String Unit := do
  let tenant := state.tenants.find entry.2.tenantID
  ensure "iam: project reference or tenant boundary is invalid"
    !(entry.1 = "" || entry.2.id ≠ entry.1 || tenant.isNone || entry.2.orgID = "" ||
      (tenant.getD default).orgID ≠ entry.2.orgID || entry.2.namespaceName = "")
  forEach validateScope entry.2.scopes

def validateMembership (membership : Membership) : Except String Unit := do
  let tenant := state.tenants.find membership.tenantID
  ensure "iam: principal membership boundary is invalid"
    !(tenant.isNone || (tenant.getD default).orgID ≠ membership.orgID ||
      !knownRole membership.role)
  let project := state.projects.find membership.projectID
  ensure "iam: principal project membership is invalid"
    !(membership.projectID ≠ "" && (project.isNone ||
      (project.getD default).tenantID ≠ membership.tenantID ||
      (project.getD default).orgID ≠ membership.orgID))

def validatePrincipal (entry : (_ : String) × Principal) : Except String Unit := do
  ensure "iam: principal reference mismatch" !(entry.1 = "" || entry.2.id ≠ entry.1)
  forEach state.validateMembership entry.2.memberships

def validateAPIToken (entry : (_ : String) × APIToken) : Except String Unit := do
  let project := state.projects.find entry.2.projectID
  ensure "iam: api token reference or scope is invalid"
    !(entry.1 = "" || entry.2.reference ≠ entry.1 || entry.2.secretHashRef = "" ||
      ((state.principals.find entry.2.subjectID).getD default).id ≠ entry.2.subjectID ||
      project.isNone || (project.getD default).tenantID ≠ entry.2.tenantID ||
      entry.2.scopes.length = 0)
  forEach (fun action => ensure "iam: api token contains an unknown action" (knownAction action))
    entry.2.scopes

def validateSupportGrant (entry : (_ : String) × SupportGrant) : Except String Unit := do
  let project := state.projects.find entry.2.projectID
  ensure "iam: support grant reference or scope is invalid"
    !(entry.1 = "" || entry.2.reference ≠ entry.1 ||
      ((state.principals.find entry.2.subjectID).getD default).id ≠ entry.2.subjectID ||
      project.isNone || (project.getD default).tenantID ≠ entry.2.tenantID ||
      entry.2.actions.length = 0)
  forEach (fun action =>
    ensure "iam: support grant contains an unknown action" (knownAction action))
    entry.2.actions

end PolicyState

def validatePolicyState (state : PolicyState) : Except String Unit := do
  ensure "iam: policy state requires organizations, tenants, projects, and principals"
    !(state.organizations.entries.length = 0 || state.tenants.entries.length = 0 ||
      state.projects.entries.length = 0 || state.principals.entries.length = 0)
  forEach PolicyState.validateOrganization state.organizations.entries
  forEach state.validateTenant state.tenants.entries
  forEach state.validateProject state.projects.entries
  forEach state.validatePrincipal state.principals.entries
  forEach state.validateAPIToken state.apiTokens.entries
  forEach state.validateSupportGrant state.supportGrants.entries

/-- What decisions use of an accepted directory: references are the identities of the records
they lead to, and no namespace is empty. -/
structure PolicyState.Valid (state : PolicyState) : Prop where
  organization : ∀ reference organization, state.organizations.find reference =
    some organization → organization.id = reference
  tenant : ∀ reference tenant, state.tenants.find reference = some tenant →
    tenant.id = reference
  project : ∀ reference project, state.projects.find reference = some project →
    project.id = reference ∧ project.namespaceName ≠ "" ∧
      ∀ scope ∈ project.scopes, scope.namespaceName ≠ ""
  principal : ∀ reference principal, state.principals.find reference = some principal →
    reference ≠ "" ∧ principal.id = reference
  apiToken : ∀ reference token, state.apiTokens.find reference = some token →
    token.reference = reference ∧ token.secretHashRef ≠ ""
  supportGrant : ∀ reference grant, state.supportGrants.find reference = some grant →
    grant.reference = reference

theorem Directory.find_eq_some {α : Type} {directory : Directory α} {reference : String}
    {record : α} :
    directory.find reference = some record ↔
      (⟨reference, record⟩ : (_ : String) × α) ∈ directory.entries :=
  AList.mem_lookup_iff

section Checks

variable {state : PolicyState} {reference : String}

theorem validateOrganization_ok {organization : Organization}
    (passed : PolicyState.validateOrganization ⟨reference, organization⟩ = .ok ()) :
    reference ≠ "" ∧ organization.id = reference := by
  simpa [PolicyState.validateOrganization] using passed

theorem validateTenant_ok {tenant : Tenant}
    (passed : state.validateTenant ⟨reference, tenant⟩ = .ok ()) :
    (reference ≠ "" ∧ tenant.id = reference ∧ tenant.orgID ≠ "") ∧
      ∃ organization, state.organizations.find tenant.orgID = some organization := by
  simp only [PolicyState.validateTenant, check_bind, ensure_ok] at passed
  cases found : state.organizations.find tenant.orgID with
  | none => simp [found] at passed
  | some organization => exact ⟨by simpa [and_assoc] using passed.1, organization, rfl⟩

theorem validateProject_ok {project : Project}
    (passed : state.validateProject ⟨reference, project⟩ = .ok ()) :
    (reference ≠ "" ∧ project.id = reference ∧ project.namespaceName ≠ "") ∧
      (∀ scope ∈ project.scopes, scope.namespaceName ≠ "") ∧
      ∃ tenant, state.tenants.find project.tenantID = some tenant ∧
        tenant.orgID = project.orgID := by
  simp only [PolicyState.validateProject, check_bind, ensure_ok, forEach_ok] at passed
  have scopes : ∀ scope ∈ project.scopes, scope.namespaceName ≠ "" := by
    intro scope member
    have checked := passed.2 scope member
    simp only [PolicyState.validateScope, check_bind, ensure_ok, Bool.not_eq_true',
      Bool.or_eq_false_iff, decide_eq_false_iff_not] at checked
    exact checked.1.1
  cases found : state.tenants.find project.tenantID with
  | none => simp [found] at passed
  | some tenant =>
    have fields := passed.1
    simp [found] at fields
    exact ⟨⟨fields.1.1.1.1, fields.1.1.1.2, fields.2⟩, scopes, tenant, rfl, fields.1.2⟩

theorem validateMembership_ok {membership : Membership}
    (passed : state.validateMembership membership = .ok ()) :
    (∃ tenant, state.tenants.find membership.tenantID = some tenant ∧
      tenant.orgID = membership.orgID) ∧
    (membership.projectID ≠ "" → ∃ project,
      state.projects.find membership.projectID = some project ∧
        project.tenantID = membership.tenantID ∧ project.orgID = membership.orgID) := by
  simp only [PolicyState.validateMembership, check_bind, ensure_ok] at passed
  constructor
  · cases found : state.tenants.find membership.tenantID with
    | none => simp [found] at passed
    | some tenant =>
      simp [found] at passed
      exact ⟨tenant, rfl, passed.1.1⟩
  · intro named
    cases found : state.projects.find membership.projectID with
    | none => simp [found, named] at passed
    | some project =>
      simp [found, named] at passed
      exact ⟨project, rfl, passed.2⟩

theorem validatePrincipal_ok {principal : Principal}
    (passed : state.validatePrincipal ⟨reference, principal⟩ = .ok ()) :
    (reference ≠ "" ∧ principal.id = reference) ∧
      ∀ membership ∈ principal.memberships, state.validateMembership membership = .ok () := by
  simpa [PolicyState.validatePrincipal, check_bind, forEach_ok] using passed

/-- What is checked of the subject and of the project of a token or a grant. A subject that no
principal has is taken for the principal with the empty identity. -/
def PolicyState.Bound (state : PolicyState) (subjectID projectID tenantID : String) : Prop :=
  ((state.principals.find subjectID).getD default).id = subjectID ∧
    ∃ project, state.projects.find projectID = some project ∧ project.tenantID = tenantID

theorem validateAPIToken_ok {token : APIToken}
    (passed : state.validateAPIToken ⟨reference, token⟩ = .ok ()) :
    (token.reference = reference ∧ token.secretHashRef ≠ "") ∧
      state.Bound token.subjectID token.projectID token.tenantID := by
  simp only [PolicyState.validateAPIToken, check_bind, ensure_ok] at passed
  cases found : state.projects.find token.projectID with
  | none => simp [found] at passed
  | some project =>
    have fields := passed.1
    simp [found] at fields
    exact ⟨⟨fields.1.1.1.1.2, fields.1.1.1.2⟩, fields.1.1.2, project, found, fields.1.2⟩

theorem validateSupportGrant_ok {grant : SupportGrant}
    (passed : state.validateSupportGrant ⟨reference, grant⟩ = .ok ()) :
    grant.reference = reference ∧ state.Bound grant.subjectID grant.projectID grant.tenantID := by
  simp only [PolicyState.validateSupportGrant, check_bind, ensure_ok] at passed
  cases found : state.projects.find grant.projectID with
  | none => simp [found] at passed
  | some project =>
    have fields := passed.1
    simp [found] at fields
    exact ⟨fields.1.1.1.2, fields.1.1.2, project, found, fields.1.2⟩

end Checks

/-- What `validatePolicyState` has checked of every record that a reference leads to. -/
theorem validatePolicyState_checked {state : PolicyState}
    (accepted : validatePolicyState state = .ok ()) :
    (∀ reference organization, state.organizations.find reference = some organization →
      PolicyState.validateOrganization ⟨reference, organization⟩ = .ok ()) ∧
    (∀ reference tenant, state.tenants.find reference = some tenant →
      state.validateTenant ⟨reference, tenant⟩ = .ok ()) ∧
    (∀ reference project, state.projects.find reference = some project →
      state.validateProject ⟨reference, project⟩ = .ok ()) ∧
    (∀ reference principal, state.principals.find reference = some principal →
      state.validatePrincipal ⟨reference, principal⟩ = .ok ()) ∧
    (∀ reference token, state.apiTokens.find reference = some token →
      state.validateAPIToken ⟨reference, token⟩ = .ok ()) ∧
    ∀ reference grant, state.supportGrants.find reference = some grant →
      state.validateSupportGrant ⟨reference, grant⟩ = .ok () := by
  simp only [validatePolicyState, check_bind, forEach_ok] at accepted
  simp only [Directory.find_eq_some]
  obtain ⟨-, organizations, tenants, projects, principals, apiTokens, supportGrants⟩ := accepted
  exact ⟨fun _ _ => organizations _, fun _ _ => tenants _, fun _ _ => projects _,
    fun _ _ => principals _, fun _ _ => apiTokens _, fun _ _ => supportGrants _⟩

theorem validatePolicyState_valid {state : PolicyState}
    (accepted : validatePolicyState state = .ok ()) : state.Valid := by
  obtain ⟨organizations, tenants, projects, principals, apiTokens, supportGrants⟩ :=
    validatePolicyState_checked accepted
  constructor
  · intro reference organization found
    exact (validateOrganization_ok (organizations _ _ found)).2
  · intro reference tenant found
    exact (validateTenant_ok (tenants _ _ found)).1.2.1
  · intro reference project found
    obtain ⟨⟨-, same, named⟩, scopes, -⟩ := validateProject_ok (projects _ _ found)
    exact ⟨same, named, scopes⟩
  · intro reference principal found
    exact (validatePrincipal_ok (principals _ _ found)).1
  · intro reference token found
    exact (validateAPIToken_ok (apiTokens _ _ found)).1
  · intro reference grant found
    exact (validateSupportGrant_ok (supportGrants _ _ found)).1

end CloudRing.Iam
