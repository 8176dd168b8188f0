import CloudRing.Iam.Grants

/-!
# References and owners

An accepted directory is closed under its references, except that the subject of an API token or of
a support grant may be the empty name.
-/

namespace CloudRing.Iam

open Library

/-! ## References -/

namespace PolicyState

variable (state : PolicyState)

def Inside (orgID tenantID : String) : Prop :=
  orgID ≠ "" ∧ tenantID ≠ "" ∧
    (∃ organization, state.organizations.find orgID = some organization) ∧
    ∃ tenant, state.tenants.find tenantID = some tenant ∧ tenant.orgID = orgID

def Granted (subjectID projectID tenantID : String) : Prop :=
  subjectID ≠ "" ∧ (∃ principal, state.principals.find subjectID = some principal) ∧
    projectID ≠ "" ∧ ∃ project, state.projects.find projectID = some project ∧
      project.tenantID = tenantID ∧ state.Inside project.orgID tenantID

structure Resolved : Prop where
  tenants : ∀ reference tenant, state.tenants.find reference = some tenant →
    tenant.orgID ≠ "" ∧
      ∃ organization, state.organizations.find tenant.orgID = some organization
  projects : ∀ reference project, state.projects.find reference = some project →
    state.Inside project.orgID project.tenantID
  memberships : ∀ reference principal, state.principals.find reference = some principal →
    ∀ membership ∈ principal.memberships, state.Inside membership.orgID membership.tenantID ∧
      (membership.projectID ≠ "" → ∃ project,
        state.projects.find membership.projectID = some project ∧
          project.tenantID = membership.tenantID ∧ project.orgID = membership.orgID)
  apiTokens : ∀ reference token, state.apiTokens.find reference = some token →
    state.Granted token.subjectID token.projectID token.tenantID
  supportGrants : ∀ reference grant, state.supportGrants.find reference = some grant →
    state.Granted grant.subjectID grant.projectID grant.tenantID

end PolicyState

section References

variable {state : PolicyState} (accepted : validatePolicyState state = .ok ())

include accepted

theorem inside_of_tenant {orgID tenantID : String} {tenant : Tenant}
    (found : state.tenants.find tenantID = some tenant) (same : tenant.orgID = orgID) :
    state.Inside orgID tenantID := by
  obtain ⟨⟨named, -, owned⟩, organization⟩ :=
    validateTenant_ok ((validatePolicyState_checked accepted).2.1 _ _ found)
  rw [same] at owned organization
  exact ⟨owned, named, organization, tenant, found, same⟩

theorem project_inside {projectID : String} {project : Project}
    (found : state.projects.find projectID = some project) :
    projectID ≠ "" ∧ state.Inside project.orgID project.tenantID := by
  obtain ⟨⟨named, -, -⟩, -, tenant, known, same⟩ :=
    validateProject_ok ((validatePolicyState_checked accepted).2.2.1 _ _ found)
  exact ⟨named, inside_of_tenant accepted known same⟩

theorem granted_iff {subjectID projectID tenantID : String}
    (bound : state.Bound subjectID projectID tenantID) :
    state.Granted subjectID projectID tenantID ↔ subjectID ≠ "" := by
  constructor
  · exact fun granted => granted.1
  · intro named
    obtain ⟨subject, project, found, rfl⟩ := bound
    obtain ⟨stored, inside⟩ := project_inside accepted found
    have known : ∃ principal, state.principals.find subjectID = some principal := by
      cases known : state.principals.find subjectID with
      | some principal => exact ⟨principal, rfl⟩
      | none =>
        rw [known] at subject
        exact absurd subject.symm named
    exact ⟨named, known, stored, project, found, rfl, inside⟩

/-- In an accepted directory every reference resolves exactly when no API token and no support
grant has an empty subject. -/
theorem validatePolicyState_resolved_iff :
    state.Resolved ↔
      (∀ reference token, state.apiTokens.find reference = some token → token.subjectID ≠ "") ∧
        ∀ reference grant, state.supportGrants.find reference = some grant →
          grant.subjectID ≠ "" := by
  obtain ⟨-, tenants, -, principals, apiTokens, supportGrants⟩ :=
    validatePolicyState_checked accepted
  constructor
  · intro resolved
    exact ⟨fun _ _ found => (resolved.apiTokens _ _ found).1,
      fun _ _ found => (resolved.supportGrants _ _ found).1⟩
  · rintro ⟨tokenSubjects, grantSubjects⟩
    constructor
    · intro reference tenant found
      obtain ⟨⟨-, -, owned⟩, organization⟩ := validateTenant_ok (tenants _ _ found)
      exact ⟨owned, organization⟩
    · intro reference project found
      exact (project_inside accepted found).2
    · intro reference principal found membership member
      have passed := (validatePrincipal_ok (principals _ _ found)).2 membership member
      obtain ⟨⟨tenant, known, same⟩, project⟩ := validateMembership_ok passed
      exact ⟨inside_of_tenant accepted known same, project⟩
    · intro reference token found
      have bound := (validateAPIToken_ok (apiTokens _ _ found)).2
      exact (granted_iff accepted bound).mpr (tokenSubjects _ _ found)
    · intro reference grant found
      have bound := (validateSupportGrant_ok (supportGrants _ _ found)).2
      exact (granted_iff accepted bound).mpr (grantSubjects _ _ found)

end References

def tokenState (subjectID : String) : PolicyState :=
  { sampleState with
    apiTokens := AList.singleton "deploy"
      ⟨"deploy", subjectID, "vault", "shop", "web", [.projectWrite], 100, 0⟩ }

theorem validatePolicyState_resolved_root :
    validatePolicyState (tokenState "root") = .ok () ∧ (tokenState "root").Resolved := by
  have accepted : validatePolicyState (tokenState "root") = .ok () := by decide
  have named : ∀ reference token, (tokenState "root").apiTokens.find reference = some token →
      token.subjectID ≠ "" := by
    intro reference token found
    obtain rfl : token = ⟨"deploy", "root", "vault", "shop", "web", [.projectWrite], 100, 0⟩ := by
      have listed := Directory.find_eq_some.mp found
      simp [tokenState] at listed
      exact listed.2
    decide
  refine ⟨accepted, (validatePolicyState_resolved_iff accepted).mpr ⟨named, ?_⟩⟩
  intro reference grant found
  exact absurd (Directory.find_eq_some.mp found) (List.not_mem_nil)

/-- A directory is accepted with an API token whose subject is the empty name. -/
theorem validatePolicyState_unnamed_subject :
    validatePolicyState (tokenState "") = .ok () ∧ ¬(tokenState "").Resolved ∧
      (tokenState "").principals.find "" = none := by
  refine ⟨by decide, fun resolved => ?_, by decide⟩
  exact (resolved.apiTokens "deploy" _ rfl).1 rfl

/-! ## The last owner -/

variable {project : Project} {state : PolicyState}

theorem countOwners_identified {entries : List ((_ : String) × Principal)}
    {identities owners found : List String}
    (counted : countOwners project entries identities owners = some found) :
    ∀ entry ∈ entries, entry.1 ≠ "" ∧ entry.2.id = entry.1 := by
  induction entries generalizing identities owners with
  | nil => simp
  | cons first rest ih =>
    obtain ⟨reference, principal⟩ := first
    rw [countOwners] at counted
    split at counted
    · contradiction
    · rename_i formed
      split at counted
      · contradiction
      · simp only [not_or, ne_eq, not_not] at formed
        exact List.forall_mem_cons.mpr ⟨⟨formed.1, formed.2.2.symm⟩, ih counted⟩

theorem removingLastOwner_identified {target : String}
    (kept : removingLastOwner state target project = false) (reference : String)
    (principal : Principal) (found : state.principals.find reference = some principal) :
    reference ≠ "" ∧ principal.id = reference := by
  unfold removingLastOwner at kept
  split at kept
  · contradiction
  · cases counted : countOwners project state.principals.entries [] [] with
    | none => simp [counted] at kept
    | some owners =>
      exact countOwners_identified counted ⟨reference, principal⟩
        (Directory.find_eq_some.mp found)

theorem ownerRemovalDenied_none {request : AuthorizationRequest}
    (removes : request.action = .ownerRemove)
    (passed : ownerRemovalDenied state request project = none) :
    removingLastOwner state request.context.targetPrincipal project = false := by
  rw [ownerRemovalDenied, if_pos removes] at passed
  split at passed
  · contradiction
  · split at passed
    · contradiction
    · rename_i kept
      exact Bool.eq_false_iff.mpr kept

theorem authorizeContext_evaluated {policy : Policy} {answers : Answers}
    {request : AuthorizationRequest}
    (allowed : (authorizeContext policy answers request).allowed = true) :
    ∃ subject, (evaluate policy.toPolicyState request subject answers.now).allowed = true := by
  have decided : (decideRequest policy answers request).2.allowed = true := by
    unfold authorizeContext audit at allowed
    dsimp only at allowed
    split at allowed
    · exact absurd allowed (by simp [auditDenied])
    · split at allowed
      · exact absurd allowed (by simp [auditDenied])
      · split at allowed
        · exact absurd allowed (by simp [auditDenied])
        · exact allowed
  simp only [decideRequest] at decided
  split at decided
  · exact ⟨_, decided⟩
  · rw [resolveSubject_allowed] at decided
    contradiction

theorem resolveTarget_project {target : TargetRef} {tenant : Tenant}
    (resolved : resolveTarget state target = .ok (tenant, project)) :
    state.projects.find target.projectID = some project ∧ project.id = target.projectID := by
  simp only [resolveTarget, bind_ok, require_ok, Option.filter_eq_some_iff, Bool.and_eq_true,
    decide_eq_true_eq, pure, Except.pure, Except.ok.injEq, Prod.mk.injEq] at resolved
  obtain ⟨-, -, -, -, _, ⟨found, ⟨same, -⟩, -⟩, -, rfl⟩ := resolved
  exact ⟨found, same⟩

/-- Whatever the directory is and on whatever path a removal of an owner is allowed, its target
owns the target project, and so does a principal with another identity. -/
theorem authorizeContext_keeps_owner (policy : Policy) (answers : Answers)
    (request : AuthorizationRequest) (removes : request.action = .ownerRemove)
    (allowed : (authorizeContext policy answers request).allowed = true) :
    ∃ project owner reference other,
      policy.projects.find request.target.projectID = some project ∧
      project.id = request.target.projectID ∧
      policy.principals.find request.context.targetPrincipal = some owner ∧
      owner.id = request.context.targetPrincipal ∧ principalOwns owner project = true ∧
      policy.principals.find reference = some other ∧ other.id ≠ owner.id ∧
      principalOwns other project = true := by
  obtain ⟨subject, evaluated⟩ := authorizeContext_evaluated allowed
  obtain ⟨-, -, -, tenant, project, target, -, -, passed, -⟩ := evaluate_allowed.mp evaluated
  have kept := ownerRemovalDenied_none removes passed
  have identified := removingLastOwner_identified kept
  obtain ⟨⟨owner, known, owns⟩, reference, different, other, there, also⟩ :=
    (removingLastOwner_iff identified).mp kept
  have ownerID := (identified _ _ known).2
  have otherID := (identified _ _ there).2
  refine ⟨project, owner, reference, other, (resolveTarget_project target).1,
    (resolveTarget_project target).2, known, ownerID, owns, there, ?_, also⟩
  rw [ownerID, otherID]
  exact different

def ownersPolicy : Policy :=
  let owner (name : String) : Principal :=
    ⟨name, [⟨"acme", "shop", "web", .owner⟩, ⟨"acme", "shop", "", .platformAdmin⟩], false⟩
  { samplePolicy with
    principals := (AList.singleton "root" (owner "root")).insert "ana" (owner "ana") }

theorem authorizeContext_keeps_owner_sample :
    let request : AuthorizationRequest := { sampleRequest "" with
      action := .ownerRemove
      context := ⟨"T-1", "c-1", "incident", "ana"⟩ }
    (authorizeContext ownersPolicy sampleAnswers request).allowed = true ∧
      ∃ project owner reference other, ownersPolicy.projects.find "web" = some project ∧
        project.id = "web" ∧ ownersPolicy.principals.find "ana" = some owner ∧
        owner.id = "ana" ∧ principalOwns owner project = true ∧
        ownersPolicy.principals.find reference = some other ∧ other.id ≠ owner.id ∧
        principalOwns other project = true := by
  intro request
  have allowed : (authorizeContext ownersPolicy sampleAnswers request).allowed = true := by
    decide +kernel
  exact ⟨allowed, authorizeContext_keeps_owner ownersPolicy sampleAnswers request rfl allowed⟩

end CloudRing.Iam
