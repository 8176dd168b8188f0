import CloudRing.Iam.Grants

/-!
# What a decision cannot depend on

Two directories agree for a request when they have the same target, named token and grant, owners of
the target project, and subject and target principals up to memberships in other tenants.
-/

namespace CloudRing.Iam

structure SameFor (target : TargetRef) (left right : Principal) : Prop where
  id : left.id = right.id
  support : left.support = right.support
  memberships : relevant target left.memberships = relevant target right.memberships

structure Agree (request : AuthorizationRequest) (left right : PolicyState) : Prop where
  organization : left.organizations.find request.target.orgID =
    right.organizations.find request.target.orgID
  tenant : left.tenants.find request.target.tenantID = right.tenants.find request.target.tenantID
  project : left.projects.find request.target.projectID =
    right.projects.find request.target.projectID
  apiToken : left.apiTokens.find request.subject.apiTokenRef =
    right.apiTokens.find request.subject.apiTokenRef
  supportGrant : left.supportGrants.find request.supportGrantRef =
    right.supportGrants.find request.supportGrantRef
  owners : ∀ project, left.projects.find request.target.projectID = some project →
    ∀ name, left.Owner project name ↔ right.Owner project name
  subject : Option.Rel (SameFor request.target) (left.principals.find request.subject.id)
    (right.principals.find request.subject.id)
  targetPrincipal : Option.Rel (SameFor request.target)
    (left.principals.find request.context.targetPrincipal)
    (right.principals.find request.context.targetPrincipal)

structure Alike (target : TargetRef) (left right : ResolvedSubject) : Prop where
  principal : SameFor target left.principal right.principal
  apiGrant : left.apiGrant = right.apiGrant
  authnClass : left.authnClass = right.authnClass
  mfa : left.mfa = right.mfa
  session : left.session = right.session

namespace SameFor

variable {target : TargetRef} {left right : Principal} (same : SameFor target left right)

include same

theorem loop_eq {β : Type} (loop : List Membership → β)
    (skips : ∀ membership rest, ¬membership.tenantID = target.tenantID →
      ¬membership.role = .platformAdmin → loop (membership :: rest) = loop rest)
    (step : ∀ membership first second, loop first = loop second →
      loop (membership :: first) = loop (membership :: second)) :
    loop left.memberships = loop right.memberships := by
  rw [← loop_relevant skips step, same.memberships, loop_relevant skips step]

theorem any_eq {test : Membership → Bool}
    (only : ∀ membership, test membership = true → membership.tenantID = target.tenantID ∨
      membership.role = .platformAdmin) :
    left.memberships.any test = right.memberships.any test := by
  refine same.loop_eq (·.any test) (fun membership rest other ordinary => ?_)
    fun membership _ _ alike => ?_
  · have failed := mt (only membership) (not_or.mpr ⟨other, ordinary⟩)
    simp [failed]
  · simp only [List.any_cons, alike]

theorem principalRequiresMFA_eq : principalRequiresMFA left = principalRequiresMFA right := by
  rw [principalRequiresMFA, principalRequiresMFA, same.support,
    same.any_eq fun _ passed => .inr (of_decide_eq_true passed)]

theorem hasTenantAccess_eq :
    hasTenantAccess target left.memberships = hasTenantAccess target right.memberships := by
  refine same.loop_eq _ (fun membership rest other ordinary => ?_) fun membership _ _ alike => ?_
  · simp [hasTenantAccess, ordinary, Membership.covers, other]
  · simp only [hasTenantAccess, alike]

theorem roleAllows_eq (action : Action) :
    roleAllows action target left.memberships = roleAllows action target right.memberships := by
  refine same.loop_eq _ (fun membership rest other ordinary => ?_) fun membership _ _ alike => ?_
  · simp [roleAllows, ordinary, Membership.covers, other]
  · simp only [roleAllows, alike]

theorem ruleForRole_eq (action : Action) :
    ruleForRole action target left.memberships = ruleForRole action target right.memberships := by
  refine same.loop_eq _ (fun membership rest other ordinary => ?_) fun membership _ _ alike => ?_
  · simp [ruleForRole, ordinary, Membership.covers, other]
  · simp only [ruleForRole, alike]

theorem principalOwns_eq {project : Project} (inside : project.tenantID = target.tenantID) :
    principalOwns left project = principalOwns right project := by
  refine same.any_eq fun membership passed => .inl ?_
  simp only [sameProject, Bool.and_eq_true, decide_eq_true_eq] at passed
  exact passed.2.1.2.trans inside

end SameFor

section Decision

variable {request : AuthorizationRequest} {left right : PolicyState} {now : Time}

theorem resolveAPIToken_agree (agree : Agree request left right) {result : AuthenticationResult}
    (same : result.subjectID = request.subject.id) :
    (resolveAPIToken left request result now).2 = (resolveAPIToken right request result now).2 ∧
      ((resolveAPIToken left request result now).2.err = none →
        Alike request.target (resolveAPIToken left request result now).1
          (resolveAPIToken right request result now).1) := by
  unfold resolveAPIToken
  rw [agree.apiToken]
  by_cases refused : result.credentialClass ≠ .shortLivedAPIToken ∨
    result.apiTokenRef ≠ request.subject.apiTokenRef
  · simp [refused]
  · simp only [if_neg refused]
    cases found : (right.apiTokens.find request.subject.apiTokenRef).filter fun apiGrant =>
        apiGrant.reference = request.subject.apiTokenRef &&
          apiGrant.subjectID = result.subjectID with
    | none => simp
    | some apiGrant =>
      have issued : apiGrant.subjectID = request.subject.id := by
        have checked := (Option.filter_eq_some_iff.mp found).2
        simp only [Bool.and_eq_true, decide_eq_true_eq] at checked
        exact checked.2.trans same
      have subject := agree.subject
      rw [← issued] at subject
      simp only
      generalize left.principals.find apiGrant.subjectID = leftFound at subject ⊢
      generalize right.principals.find apiGrant.subjectID = rightFound at subject ⊢
      cases subject with
      | none => simp
      | @some leftPrincipal rightPrincipal alike =>
        by_cases identity : rightPrincipal.id = apiGrant.subjectID
        · simp only [Option.filter, alike.id, identity, decide_true, if_true]
          split
          · simp
          · split
            · simp
            · exact ⟨rfl, fun _ => ⟨alike, rfl, rfl, rfl, rfl⟩⟩
        · simp [Option.filter, alike.id, identity]

theorem resolveSubject_agree (agree : Agree request left right)
    (authenticated : Option AuthenticationResult) :
    (resolveSubject left request authenticated now).2 =
        (resolveSubject right request authenticated now).2 ∧
      ((resolveSubject left request authenticated now).2.err = none →
        Alike request.target (resolveSubject left request authenticated now).1
          (resolveSubject right request authenticated now).1) := by
  cases authenticated with
  | none => simp [resolveSubject]
  | some result =>
    by_cases stops : result.subjectID = "" ∨ result.subjectID ≠ request.subject.id
    · simp [resolveSubject, stops]
    · obtain ⟨named, same⟩ := not_or.mp stops
      have same := not_not.mp same
      cases fits : classDenied request result.credentialClass with
      | true => simp [resolveSubject, stops, fits]
      | false =>
        rw [resolveSubject_fits named same fits, resolveSubject_fits named same fits]
        by_cases present : request.subject.apiTokenRef = ""
        · simp only [present, ne_eq, not_true_eq_false, if_false]
          have subject := agree.subject
          generalize left.principals.find request.subject.id = leftFound at subject ⊢
          generalize right.principals.find request.subject.id = rightFound at subject ⊢
          cases subject with
          | none => simp
          | some alike =>
            simp only [Option.getD_some, alike.id, reduceCtorEq, false_or]
            exact ⟨trivial, fun _ => ⟨alike, rfl, rfl, rfl, rfl⟩⟩
        · rw [if_pos present, if_pos present]
          exact resolveAPIToken_agree agree same

theorem resolveTarget_agree (agree : Agree request left right) :
    resolveTarget left request.target = resolveTarget right request.target := by
  rw [resolveTarget, resolveTarget, agree.organization, agree.tenant, agree.project]

theorem ownerRemovalDenied_agree (leftValid : left.Valid) (rightValid : right.Valid)
    (agree : Agree request left right) {project : Project}
    (found : left.projects.find request.target.projectID = some project)
    (inside : project.tenantID = request.target.tenantID) :
    ownerRemovalDenied left request project = ownerRemovalDenied right request project := by
  have last : removingLastOwner left request.context.targetPrincipal project =
      removingLastOwner right request.context.targetPrincipal project := by
    rw [Bool.eq_iff_iff, ← not_iff_not, Bool.not_eq_true, Bool.not_eq_true,
      removingLastOwner_iff leftValid.principal, removingLastOwner_iff rightValid.principal]
    simp only [agree.owners project found]
  have target := agree.targetPrincipal
  unfold ownerRemovalDenied
  rw [last]
  generalize left.principals.find request.context.targetPrincipal = leftFound at target ⊢
  generalize right.principals.find request.context.targetPrincipal = rightFound at target ⊢
  cases target with
  | none => rfl
  | @some leftPrincipal rightPrincipal alike =>
    simp only [Option.filter, alike.id, alike.principalOwns_eq inside]
    by_cases checked : (rightPrincipal.id = request.context.targetPrincipal &&
      principalOwns rightPrincipal project) = true
    · rw [if_pos checked, if_pos checked]
    · rw [if_neg checked, if_neg checked]

variable {leftSubject rightSubject : ResolvedSubject}

theorem evaluatePath_agree (agree : Agree request left right)
    (alike : Alike request.target leftSubject rightSubject) :
    evaluatePath left request leftSubject now = evaluatePath right request rightSubject now := by
  have principal := alike.principal
  unfold evaluatePath evaluateBreakGlass evaluateSupportGrant
  rw [agree.supportGrant, alike.apiGrant, principal.id, principal.support,
    principal.hasTenantAccess_eq, principal.roleAllows_eq, principal.roleAllows_eq,
    principal.ruleForRole_eq]

theorem evaluate_agree (leftValid : left.Valid) (rightValid : right.Valid)
    (agree : Agree request left right)
    (alike : Alike request.target leftSubject rightSubject) :
    evaluate left request leftSubject now = evaluate right request rightSubject now := by
  unfold evaluate
  rw [alike.authnClass, alike.mfa, alike.session, ← resolveTarget_agree agree,
    evaluatePath_agree agree alike]
  cases target : resolveTarget left request.target with
  | error err => rfl
  | ok found =>
    obtain ⟨tenant, project⟩ := found
    obtain ⟨-, -, -, projects, inside, -⟩ := (resolveTarget_ok leftValid).mp target
    simp only [ownerRemovalDenied_agree leftValid rightValid agree projects inside]

theorem requireFactors_alike {target : TargetRef} (alike : Alike target leftSubject rightSubject) :
    Alike target (requireFactors request leftSubject) (requireFactors request rightSubject) := by
  refine ⟨alike.principal, alike.apiGrant, alike.authnClass, ?_, alike.session⟩
  simp only [requireFactors, alike.principal.principalRequiresMFA_eq, alike.authnClass, alike.mfa]

end Decision

structure Records (config : PolicyConfig) (answers : Answers) : Prop where
  sink : config.durableAuditSink = true
  durable : config.allowEphemeralAudit = true ∨ answers.durable = true
  ready : answers.ready = true
  append : ∀ event, answers.append event = true

theorem Records.audit_eq {config : PolicyConfig} {answers : Answers}
    (records : Records config answers) (state : PolicyState) (request : AuthorizationRequest)
    (subject : ResolvedSubject) (decision : Decision) :
    audit ⟨state, config⟩ answers request subject decision = decision := by
  unfold audit
  rcases records.durable with durable | durable <;>
    simp [records.sink, durable, records.ready, records.append]

/-- Directories that agree for a request decide it alike. -/
theorem authorizeContext_agree {config : PolicyConfig} {left right : PolicyState}
    {request : AuthorizationRequest} {leftAnswers rightAnswers : Answers}
    (leftAccepted : validatePolicyState left = .ok ())
    (rightAccepted : validatePolicyState right = .ok ()) (agree : Agree request left right)
    (clock : leftAnswers.now = rightAnswers.now)
    (verifier : leftAnswers.authentication = rightAnswers.authentication)
    (leftRecords : Records config leftAnswers) (rightRecords : Records config rightAnswers) :
    (authorizeContext ⟨left, config⟩ leftAnswers request).allowed =
        (authorizeContext ⟨right, config⟩ rightAnswers request).allowed ∧
      (authorizeContext ⟨left, config⟩ leftAnswers request).err =
        (authorizeContext ⟨right, config⟩ rightAnswers request).err ∧
      (authorizeContext ⟨left, config⟩ leftAnswers request).policyRule =
        (authorizeContext ⟨right, config⟩ rightAnswers request).policyRule := by
  have leftValid := validatePolicyState_valid leftAccepted
  have rightValid := validatePolicyState_valid rightAccepted
  have authenticated : authenticate config leftAnswers = authenticate config rightAnswers := by
    rw [authenticate, authenticate, clock, verifier]
  simp only [authorizeContext, leftRecords.audit_eq, rightRecords.audit_eq, decideRequest,
    authenticated, clock]
  obtain ⟨decision, alike⟩ := resolveSubject_agree agree (authenticate config rightAnswers)
  rw [decision] at alike ⊢
  by_cases resolved : (resolveSubject right request (authenticate config rightAnswers)
      rightAnswers.now).2.err = none
  · rw [if_pos resolved, if_pos resolved,
      evaluate_agree leftValid rightValid agree (requireFactors_alike (alike resolved))]
    exact ⟨rfl, rfl, rfl⟩
  · rw [if_neg resolved, if_neg resolved]
    exact ⟨rfl, rfl, rfl⟩

def shopState : PolicyState where
  organizations := AList.singleton "acme" ⟨"acme"⟩
  tenants := AList.singleton "shop" ⟨"shop", "acme", .active⟩
  projects := AList.singleton "web" ⟨"web", "shop", "acme", "web", []⟩
  principals := AList.singleton "ann" ⟨"ann", [⟨"acme", "shop", "", .tenantAdmin⟩], false⟩
  apiTokens := ∅
  supportGrants := ∅

def bankState : PolicyState where
  organizations := AList.singleton "acme" ⟨"acme"⟩
  tenants := (AList.singleton "shop" ⟨"shop", "acme", .active⟩).insert "bank"
    ⟨"bank", "acme", .suspended⟩
  projects := AList.singleton "web" ⟨"web", "shop", "acme", "web", []⟩
  principals := AList.singleton "ann"
    ⟨"ann", [⟨"acme", "bank", "", .owner⟩, ⟨"acme", "shop", "", .tenantAdmin⟩], false⟩
  apiTokens := ∅
  supportGrants := ∅

def sessionAnswers : Answers where
  now := 10
  authentication := some
    { subjectID := "ann"
      apiTokenRef := ""
      credentialClass := .interactiveSession
      mfa := ⟨false, true, .webAuthn⟩
      session := ⟨.fresh, 600, false⟩
      proof := ⟨5, 50⟩ }
  durable := true
  ready := true
  append := fun _ => true

def manageRequest : AuthorizationRequest where
  subject := ⟨"ann", ""⟩
  action := .projectManage
  target := ⟨"acme", "shop", "web", "web", "deployment", "front"⟩
  context := ⟨"", "c-2", "", ""⟩
  supportGrantRef := ""
  breakGlass := false

theorem shopState_agree : Agree manageRequest shopState bankState where
  organization := rfl
  tenant := rfl
  project := rfl
  apiToken := rfl
  supportGrant := rfl
  owners := by
    intro project found name
    cases found
    simp [PolicyState.Owner, Directory.find_eq_some, shopState, bankState,
      principalOwns, sameProject]
  subject := .some ⟨rfl, rfl, rfl⟩
  targetPrincipal := .none

theorem sessionAnswers_records : Records sampleConfig sessionAnswers :=
  ⟨rfl, .inr rfl, rfl, fun _ => rfl⟩

/-- The administrator may manage the project whether or not there is a bank. -/
theorem authorizeContext_agree_sample :
    (authorizeContext ⟨shopState, sampleConfig⟩ sessionAnswers manageRequest).policyRule =
        "tenant_admin_project_manage" ∧
      (authorizeContext ⟨shopState, sampleConfig⟩ sessionAnswers manageRequest).allowed =
        (authorizeContext ⟨bankState, sampleConfig⟩ sessionAnswers manageRequest).allowed ∧
      (authorizeContext ⟨shopState, sampleConfig⟩ sessionAnswers manageRequest).err =
        (authorizeContext ⟨bankState, sampleConfig⟩ sessionAnswers manageRequest).err ∧
      (authorizeContext ⟨shopState, sampleConfig⟩ sessionAnswers manageRequest).policyRule =
        (authorizeContext ⟨bankState, sampleConfig⟩ sessionAnswers manageRequest).policyRule :=
  ⟨by decide, authorizeContext_agree rfl rfl shopState_agree rfl rfl sessionAnswers_records
    sessionAnswers_records⟩

end CloudRing.Iam
