import CloudRing.Iam.Policy

/-!
# When a request is allowed

`Permitted` states in one place what the cascade of early exits in `AuthorizeContext` amounts to.
-/

namespace CloudRing.Iam

open Library

/-! ## The conditions -/

def Principal.PlatformAdmin (principal : Principal) : Prop :=
  ∃ membership ∈ principal.memberships, membership.role = .platformAdmin

/-- Several factors are required: by the proof, by the principal, or by any request with another
credential than an API token that is not a plain read. -/
def FactorsRequired (request : AuthorizationRequest) (result : AuthenticationResult)
    (principal : Principal) : Prop :=
  result.mfa.required = true ∨ principal.support = true ∨ principal.PlatformAdmin ∨
    result.credentialClass ≠ .shortLivedAPIToken ∧
      ¬(request.action = .projectRead ∧ request.supportGrantRef = "" ∧
        request.breakGlass = false)

def SessionAssured (result : AuthenticationResult) : Prop :=
  result.session.reauthenticationRequired = false ∧
    if result.credentialClass = .shortLivedAPIToken then
      result.session.state = .absent ∧ result.session.maxAgeSeconds = 0
    else result.session.state = .fresh ∧ 0 < result.session.maxAgeSeconds

def InScope (target : TargetRef) (project : Project) (action : Action) : Prop :=
  target.namespaceName = project.namespaceName ∨
    ∃ scope ∈ project.scopes, scope.namespaceName = target.namespaceName ∧ action ∈ scope.actions

def PolicyState.Owner (state : PolicyState) (project : Project) (name : String) : Prop :=
  ∃ principal, state.principals.find name = some principal ∧
    principalOwns principal project = true

def BreakGlassGrants (request : AuthorizationRequest) (result : AuthenticationResult)
    (principal : Principal) : Prop :=
  result.credentialClass = .breakGlass ∧ principal.PlatformAdmin ∧
    blank request.context.reason = false ∧ blank request.context.ticketRef = false

/-- The path of a support grant: it was given to this principal of support for the target's
project, the action and the ticket, and it is unexpired. -/
def SupportGrants (state : PolicyState) (now : Time) (request : AuthorizationRequest)
    (result : AuthenticationResult) (principal : Principal) : Prop :=
  result.credentialClass = .supportGrant ∧ principal.support = true ∧
    blank request.context.ticketRef = false ∧ blank request.context.reason = false ∧
      ∃ grant, state.supportGrants.find request.supportGrantRef = some grant ∧
        grant.subjectID = principal.id ∧ request.context.ticketRef = grant.ticketRef ∧
        blank grant.reason = false ∧ grant.expiresAt ≠ 0 ∧ now < grant.expiresAt ∧
        grant.tenantID = request.target.tenantID ∧ grant.projectID = request.target.projectID ∧
        request.action ∈ grant.actions

/-- The path of an API token: the presented token was issued to the subject for the target's
project and the action, and it is neither revoked nor expired. -/
def APITokenGrants (state : PolicyState) (now : Time) (request : AuthorizationRequest)
    (result : AuthenticationResult) : Prop :=
  result.credentialClass = .shortLivedAPIToken ∧
    result.apiTokenRef = request.subject.apiTokenRef ∧
      ∃ token, state.apiTokens.find request.subject.apiTokenRef = some token ∧
        token.subjectID = request.subject.id ∧ token.revokedAt = 0 ∧ token.expiresAt ≠ 0 ∧
        now < token.expiresAt ∧ token.tenantID = request.target.tenantID ∧
        token.projectID = request.target.projectID ∧ request.action ∈ token.scopes

def RoleGrants (request : AuthorizationRequest) (result : AuthenticationResult)
    (principal : Principal) : Prop :=
  result.credentialClass = .interactiveSession ∧
    ∃ membership ∈ principal.memberships, membership.role = .platformAdmin ∨
      membership.covers request.target = true ∧
        membershipRoleAllows membership.role request.action = true

def PathGrants (state : PolicyState) (now : Time) (request : AuthorizationRequest)
    (result : AuthenticationResult) (principal : Principal) : Prop :=
  if request.breakGlass then BreakGlassGrants request result principal
  else if request.supportGrantRef ≠ "" then SupportGrants state now request result principal
  else if request.subject.apiTokenRef ≠ "" then APITokenGrants state now request result
  else RoleGrants request result principal

def PathsApart (request : AuthorizationRequest) : Prop :=
  request.subject.apiTokenRef ≠ "" →
    request.breakGlass = false ∧ request.supportGrantRef = ""

structure Permitted (policy : Policy) (answers : Answers) (request : AuthorizationRequest)
    (result : AuthenticationResult) (principal : Principal) (tenant : Tenant)
    (project : Project) : Prop where
  verified : answers.authentication = some result
  proof : validateAuthenticationProof policy.config result answers.now = none
  named : result.subjectID ≠ ""
  subject : result.subjectID = request.subject.id
  known : policy.principals.find request.subject.id = some principal
  action : knownAction request.action = true
  organization : policy.organizations.find request.target.orgID ≠ none
  tenantExists : policy.tenants.find request.target.tenantID = some tenant
  tenantInside : tenant.orgID = request.target.orgID
  projectExists : policy.projects.find request.target.projectID = some project
  projectInside : project.tenantID = request.target.tenantID ∧
    project.orgID = request.target.orgID
  inScope : InScope request.target project request.action
  lifecycle : lifecycleAllows tenant.state request.action = none
  factors : FactorsRequired request result principal →
    result.mfa.satisfied = true ∧ knownSatisfiedMFAMethod result.mfa.methodClass = true
  session : SessionAssured result
  recovery : request.action = .tenantRecover → request.breakGlass = true
  ownership : request.action = .ownerRemove →
    policy.Owner project request.context.targetPrincipal ∧
      ∃ other, other ≠ request.context.targetPrincipal ∧ policy.Owner project other
  path : PathGrants policy.toPolicyState answers.now request result principal

def Recorded (policy : Policy) (answers : Answers) (request : AuthorizationRequest) : Prop :=
  answers.durable = true ∧ answers.ready = true ∧
    answers.append (auditEvent policy.toPolicyState request
      (decideRequest policy answers request).1 (decideRequest policy answers request).2
      answers.now) = true

/-! ## What the functions decide -/

section Functions

variable {state : PolicyState} {request : AuthorizationRequest} {now : Time}

theorem newPolicyFromState_ok {startup : Startup} {config : PolicyConfig} {policy : Policy}
    (built : newPolicyFromState startup config = .ok policy) :
    policy.toPolicyState.Valid ∧ policy.config.authenticationVerifier = true ∧
      policy.config.durableAuditSink = true ∧ policy.config.allowEphemeralAudit = false := by
  simp only [newPolicyFromState, check_bind, ensure_ok] at built
  obtain ⟨-, verifier, -, sink, -, rest⟩ := built
  cases ready : startup.loaderReady with
  | error err => simp [ready, Except.mapError, bind, Except.bind] at rest
  | ok _ =>
    cases loaded : startup.loaded with
    | error err => simp [ready, loaded, Except.mapError, bind, Except.bind] at rest
    | ok state =>
      have checked : (validatePolicyState state >>= fun _ =>
          (Except.ok { state with config := config } : Except String Policy)) = .ok policy := by
        simpa [ready, loaded, Except.mapError, bind, Except.bind, pure, Except.pure] using rest
      obtain ⟨accepted, made⟩ := check_bind.mp checked
      cases made
      simp only [Bool.not_eq_true', Bool.or_eq_false_iff, Bool.not_eq_false'] at sink
      exact ⟨validatePolicyState_valid accepted, verifier, sink.1.1, sink.2⟩

variable {authnClass : CredentialClass} {mfa : MFAAssurance} {principal : Principal}
  {project : Project} {result : AuthenticationResult} {subject : ResolvedSubject} {token : APIToken}

theorem resolveTarget_ok (valid : state.Valid) {target : TargetRef} {tenant : Tenant} :
    resolveTarget state target = .ok (tenant, project) ↔
      state.organizations.find target.orgID ≠ none ∧
      state.tenants.find target.tenantID = some tenant ∧ tenant.orgID = target.orgID ∧
      state.projects.find target.projectID = some project ∧
      project.tenantID = target.tenantID ∧ project.orgID = target.orgID := by
  simp only [resolveTarget, bind_ok, require_ok, Option.filter_eq_some_iff, Bool.and_eq_true,
    decide_eq_true_eq, pure, Except.pure, Except.ok.injEq, Prod.mk.injEq]
  constructor
  · rintro ⟨organization, ⟨found, -⟩, _, ⟨tenants, -, tenantInside⟩, _,
      ⟨projects, ⟨-, nested⟩, projectInside⟩, rfl, rfl⟩
    exact ⟨by simp [found], tenants, tenantInside, projects, nested, projectInside⟩
  · rintro ⟨organizations, tenants, tenantInside, projects, nested, projectInside⟩
    obtain ⟨organization, found⟩ := Option.ne_none_iff_exists'.mp organizations
    exact ⟨organization, ⟨found, valid.organization _ _ found⟩, tenant,
      ⟨tenants, valid.tenant _ _ tenants, tenantInside⟩, project,
      ⟨projects, ⟨(valid.project _ _ projects).1, nested⟩, projectInside⟩, rfl, rfl⟩

theorem targetWithinProjectScope_iff {target : TargetRef} {action : Action}
    (own : project.namespaceName ≠ "")
    (further : ∀ scope ∈ project.scopes, scope.namespaceName ≠ "") :
    targetWithinProjectScope target project action = true ↔ InScope target project action := by
  unfold targetWithinProjectScope InScope
  by_cases empty : target.namespaceName = ""
  · simp only [empty, if_true, Bool.false_eq_true, false_iff, not_or, not_exists, not_and]
    exact ⟨Ne.symm own, fun scope member same => absurd same (further scope member)⟩
  · by_cases same : target.namespaceName = project.namespaceName
    · simp [same, own]
    · simp [empty, same]

@[simp] theorem normalizedMFA_kept :
    (normalizedMFA request authnClass mfa).satisfied = mfa.satisfied ∧
      (normalizedMFA request authnClass mfa).methodClass = mfa.methodClass := by
  unfold normalizedMFA
  split <;> exact ⟨rfl, rfl⟩

theorem normalizedMFA_required :
    (normalizedMFA request authnClass mfa).required = true ↔
      mfa.required = true ∨ authnClass ≠ .shortLivedAPIToken ∧
        ¬(request.action = .projectRead ∧ request.supportGrantRef = "" ∧
          request.breakGlass = false) := by
  have other : (request.action ≠ .projectRead ∨ request.supportGrantRef ≠ "" ∨
      request.breakGlass = true) ↔ ¬(request.action = .projectRead ∧
        request.supportGrantRef = "" ∧ request.breakGlass = false) := by
    simp only [not_and_or, Bool.not_eq_false, ne_eq]
  rw [← other, normalizedMFA]
  split
  · rename_i required
    simp [required]
  · rename_i plain
    simp [plain]

theorem evaluateAssurance_iff {session : SessionAssurance} :
    (evaluateAssurance request authnClass mfa session).err = none ↔
      ((normalizedMFA request authnClass mfa).required = true → mfa.satisfied = true ∧
        knownSatisfiedMFAMethod mfa.methodClass = true) ∧
      session.reauthenticationRequired = false ∧
        if authnClass = .shortLivedAPIToken then session.state = .absent ∧ session.maxAgeSeconds = 0
        else session.state = .fresh ∧ 0 < session.maxAgeSeconds := by
  simp only [evaluateAssurance, guarded_err, normalizedMFA_kept, not_and, not_or, not_not]
  apply and_congr_right
  intro _
  by_cases token : authnClass = .shortLivedAPIToken
  · simp only [token, if_true, guarded_err, default_err, and_true, not_or, not_not,
      Bool.not_eq_true]
    tauto
  · simp only [token, if_false, guarded_err, default_err, and_true, not_or, not_not, Int.not_le,
      Bool.not_eq_true]
    tauto

/-! ### The subject -/

structure TokenUsable (state : PolicyState) (request : AuthorizationRequest)
    (result : AuthenticationResult) (now : Time) (token : APIToken) : Prop where
  credential : result.credentialClass = .shortLivedAPIToken
  presented : result.apiTokenRef = request.subject.apiTokenRef
  found : state.apiTokens.find request.subject.apiTokenRef = some token
  issued : token.subjectID = request.subject.id
  unrevoked : token.revokedAt = 0
  expires : token.expiresAt ≠ 0
  unexpired : now < token.expiresAt

/-- What `resolveSubject` requires of an authentication result. The token is the one that the
request names, if it names one. -/
structure Identified (state : PolicyState) (request : AuthorizationRequest)
    (result : AuthenticationResult) (now : Time) (principal : Principal) (token : APIToken) :
    Prop where
  named : result.subjectID ≠ ""
  same : result.subjectID = request.subject.id
  known : state.principals.find request.subject.id = some principal
  fits : classDenied request result.credentialClass = false
  usable : request.subject.apiTokenRef ≠ "" → TokenUsable state request result now token

def resolvedSubject (request : AuthorizationRequest) (result : AuthenticationResult)
    (principal : Principal) (token : APIToken) : ResolvedSubject :=
  if request.subject.apiTokenRef ≠ "" then
    { unresolvedSubject request result with
      principal := principal
      actor := "api-grant:" ++ token.reference
      represented := token.subjectID
      apiGrant := token }
  else { unresolvedSubject request result with principal := principal }

theorem resolveSubject_allowed (authenticated : Option AuthenticationResult) :
    (resolveSubject state request authenticated now).2.allowed = false := by
  unfold resolveSubject resolveAPIToken
  dsimp only
  repeat' split
  all_goals rfl

theorem resolveAPIToken_usable (valid : state.Valid) (same : result.subjectID = request.subject.id)
    (named : request.subject.apiTokenRef ≠ "")
    (known : state.principals.find request.subject.id = some principal)
    (usable : TokenUsable state request result now token) :
    resolveAPIToken state request result now =
      (resolvedSubject request result principal token, default) := by
  have reference := (valid.apiToken _ _ usable.found).1
  have identity := (valid.principal _ _ known).2
  simp [resolveAPIToken, resolvedSubject, named, usable.credential, usable.presented, usable.found,
    Option.filter, reference, usable.issued, same, known, identity, usable.unrevoked,
    usable.expires, usable.unexpired]

theorem resolveAPIToken_resolved (same : result.subjectID = request.subject.id)
    (resolved : (resolveAPIToken state request result now).2.err = none) :
    ∃ principal token, state.principals.find request.subject.id = some principal ∧
      TokenUsable state request result now token := by
  unfold resolveAPIToken at resolved
  split at resolved
  · cases resolved
  · rename_i presented
    obtain ⟨credential, reference⟩ := not_or.mp presented
    split at resolved
    · cases resolved
    · rename_i token found
      obtain ⟨tokens, checked⟩ := Option.filter_eq_some_iff.mp found
      simp only [Bool.and_eq_true, decide_eq_true_eq] at checked
      have issued := checked.2.trans same
      split at resolved
      · cases resolved
      · rename_i principal found
        obtain ⟨known, -⟩ := Option.filter_eq_some_iff.mp found
        rw [issued] at known
        split at resolved
        · cases resolved
        · rename_i unrevoked
          split at resolved
          · cases resolved
          · rename_i current
            obtain ⟨expires, unexpired⟩ := not_or.mp current
            exact ⟨principal, token, known, not_not.mp credential, not_not.mp reference, tokens,
              issued, not_not.mp unrevoked, expires, not_not.mp unexpired⟩

theorem resolveSubject_fits (named : result.subjectID ≠ "")
    (same : result.subjectID = request.subject.id)
    (fits : classDenied request result.credentialClass = false) :
    resolveSubject state request (some result) now =
      if request.subject.apiTokenRef ≠ "" then resolveAPIToken state request result now
      else ({ unresolvedSubject request result with
          principal := (state.principals.find request.subject.id).getD default },
        if state.principals.find request.subject.id = none ∨
            ((state.principals.find request.subject.id).getD default).id ≠ request.subject.id then
          deny .unknownPrincipal "fail_closed"
        else default) := by
  have proceeds : ¬((some result : Option AuthenticationResult) = none ∨ result.subjectID = "" ∨
      result.subjectID ≠ request.subject.id) := by
    simp only [reduceCtorEq, false_or, not_or, not_not]
    exact ⟨named, same⟩
  simp only [resolveSubject, Option.getD_some, if_neg proceeds, fits, Bool.false_eq_true, if_false]
  split
  · rfl
  · split <;> rfl

theorem resolveSubject_identified (valid : state.Valid)
    (identified : Identified state request result now principal token) :
    resolveSubject state request (some result) now =
      (resolvedSubject request result principal token, default) := by
  rw [resolveSubject_fits identified.named identified.same identified.fits]
  by_cases present : request.subject.apiTokenRef = ""
  · have identity := (valid.principal _ _ identified.known).2
    simp [resolvedSubject, present, identified.known, identity]
  · rw [if_pos present]
    exact resolveAPIToken_usable valid identified.same present identified.known
      (identified.usable present)

theorem resolveSubject_resolved {authenticated : Option AuthenticationResult}
    (resolved : (resolveSubject state request authenticated now).2.err = none) :
    ∃ result principal token, authenticated = some result ∧
      Identified state request result now principal token := by
  cases authenticated with
  | none => simp [resolveSubject] at resolved
  | some result =>
    by_cases stops : result.subjectID = "" ∨ result.subjectID ≠ request.subject.id
    · simp [resolveSubject, stops] at resolved
    · obtain ⟨named, same⟩ := not_or.mp stops
      have same := not_not.mp same
      cases fits : classDenied request result.credentialClass with
      | true => simp [resolveSubject, stops, fits] at resolved
      | false =>
        rw [resolveSubject_fits named same fits] at resolved
        by_cases present : request.subject.apiTokenRef = ""
        · simp only [present, ne_eq, not_true_eq_false, if_false, guarded_err, not_or] at resolved
          obtain ⟨principal, known⟩ := Option.ne_none_iff_exists'.mp resolved.1.1
          exact ⟨result, principal, default, rfl, named, same, known, fits,
            fun named => absurd present named⟩
        · rw [if_pos present] at resolved
          obtain ⟨principal, token, known, usable⟩ :=
            resolveAPIToken_resolved same resolved
          exact ⟨result, principal, token, rfl, named, same, known, fits, fun _ => usable⟩

/-! ### Owners -/

theorem countOwners_spec (project : Project) (entries : List ((_ : String) × Principal))
    (identities owners : List String)
    (identity : ∀ entry ∈ entries, entry.1 ≠ "" ∧ entry.2.id = entry.1)
    (distinct : (entries.map Sigma.fst).Nodup)
    (fresh : ∀ entry ∈ entries, entry.1 ∉ identities) (once : owners.Nodup) :
    ∃ found, countOwners project entries identities owners = some found ∧ found.Nodup ∧
      ∀ name, name ∈ found ↔ name ∈ owners ∨
        ∃ principal, (⟨name, principal⟩ : (_ : String) × Principal) ∈ entries ∧
          principalOwns principal project = true := by
  induction entries generalizing identities owners with
  | nil => exact ⟨owners, rfl, once, by simp⟩
  | cons entry rest ih =>
    obtain ⟨reference, principal⟩ := entry
    obtain ⟨named, same⟩ := identity _ List.mem_cons_self
    obtain ⟨new, distinct⟩ := List.nodup_cons.mp distinct
    have unseen := fresh _ List.mem_cons_self
    simp only at named same unseen new
    have step : countOwners project (⟨reference, principal⟩ :: rest) identities owners =
        countOwners project rest (reference :: identities)
          (if principalOwns principal project then owners.insert reference else owners) := by
      simp [countOwners, same, named, unseen]
    rw [step]
    have later : ∀ entry ∈ rest, entry.1 ∉ reference :: identities := by
      intro entry member listed
      rcases List.mem_cons.mp listed with rfl | seen
      · exact new (List.mem_map_of_mem member)
      · exact fresh entry (List.mem_cons_of_mem _ member) seen
    obtain ⟨found, counted, single, members⟩ := ih (reference :: identities)
      (if principalOwns principal project then owners.insert reference else owners)
      (fun entry member => identity entry (List.mem_cons_of_mem _ member)) distinct later
      (by split; exacts [once.insert, once])
    refine ⟨found, counted, single, fun name => ?_⟩
    rw [members name]
    simp only [List.mem_cons, Sigma.mk.injEq, heq_eq_eq, or_and_right, exists_or, and_assoc,
      exists_and_left, exists_eq_left, ← or_assoc]
    apply or_congr_left
    cases principalOwns principal project <;> simp [List.mem_insert_iff, or_comm]

theorem exists_other_iff {names : List String} (once : names.Nodup) {target : String}
    (member : target ∈ names) : ¬names.length ≤ 1 ↔ ∃ other ∈ names, other ≠ target := by
  match names, once, member with
  | [only], _, member => simp_all
  | first :: next :: rest, once, _ =>
    simp only [List.length_cons, not_le]
    have different : first ≠ next := by
      intro same
      simp [same] at once
    by_cases same : first = target
    · exact ⟨fun _ => ⟨next, by simp, fun other => different (same.trans other.symm)⟩,
        fun _ => by omega⟩
    · exact ⟨fun _ => ⟨first, by simp, same⟩, fun _ => by omega⟩

theorem removingLastOwner_iff (identified : ∀ reference principal,
      state.principals.find reference = some principal →
        reference ≠ "" ∧ principal.id = reference) {target : String} :
    removingLastOwner state target project = false ↔
      state.Owner project target ∧ ∃ other, other ≠ target ∧ state.Owner project other := by
  have identity : ∀ entry ∈ state.principals.entries, entry.1 ≠ "" ∧ entry.2.id = entry.1 :=
    fun entry member => identified _ _ (Directory.find_eq_some.mpr member)
  obtain ⟨owners, counted, once, members⟩ := countOwners_spec project state.principals.entries
    [] [] identity state.principals.nodupKeys (by simp) List.nodup_nil
  have owner : ∀ name, name ∈ owners ↔ state.Owner project name := by
    intro name
    rw [members name]
    simp only [List.not_mem_nil, false_or, PolicyState.Owner, Directory.find_eq_some]
  have unnamed : target = "" → ¬state.Owner project target := by
    rintro rfl ⟨principal, known, -⟩
    exact (identified _ _ known).1 rfl
  by_cases empty : target = ""
  · simp only [removingLastOwner, if_pos empty, Bool.true_eq_false, false_iff]
    exact fun owned => unnamed empty owned.1
  · simp only [removingLastOwner, empty, counted, if_false, Bool.or_eq_false_iff,
      decide_eq_false_iff_not, not_not]
    constructor
    · rintro ⟨member, more⟩
      obtain ⟨other, listed, different⟩ := (exists_other_iff once member).mp more
      exact ⟨(owner target).mp member, other, different, (owner other).mp listed⟩
    · rintro ⟨member, other, different, listed⟩
      have member := (owner target).mpr member
      exact ⟨member, (exists_other_iff once member).mpr ⟨other, (owner other).mpr listed,
        different⟩⟩

theorem ownerRemovalDenied_iff (valid : state.Valid) :
    ownerRemovalDenied state request project = none ↔
      (request.action = .ownerRemove → state.Owner project request.context.targetPrincipal ∧
        ∃ other, other ≠ request.context.targetPrincipal ∧ state.Owner project other) := by
  unfold ownerRemovalDenied
  by_cases removes : request.action = .ownerRemove
  · simp only [removes, if_true, true_implies]
    cases known : state.principals.find request.context.targetPrincipal with
    | none => simp [PolicyState.Owner, known]
    | some principal =>
      have identity := (valid.principal _ _ known).2
      cases owns : principalOwns principal project with
      | false => simp [Option.filter, identity, owns, PolicyState.Owner, known]
      | true =>
        rw [← removingLastOwner_iff valid.principal]
        simp [Option.filter, identity, owns]
  · simp [removes]

theorem ownerRemovalDenied_denies {decision : Decision}
    (denied : ownerRemovalDenied state request project = some decision) :
    decision.allowed = false := by
  unfold ownerRemovalDenied at denied
  repeat' split at denied
  all_goals cases denied
  all_goals rfl

/-! ### The evaluation -/

theorem evaluateAssurance_allowed {session : SessionAssurance} :
    (evaluateAssurance request authnClass mfa session).allowed = false := by
  unfold evaluateAssurance
  dsimp only
  repeat' split
  all_goals rfl

theorem evaluate_allowed :
    (evaluate state request subject now).allowed = true ↔
      knownAction request.action = true ∧
      (evaluateAssurance request subject.authnClass subject.mfa subject.session).err = none ∧
      (request.action = .tenantRecover → request.breakGlass = true) ∧
      ∃ tenant project, resolveTarget state request.target = .ok (tenant, project) ∧
        targetWithinProjectScope request.target project request.action = true ∧
        lifecycleAllows tenant.state request.action = none ∧
        ownerRemovalDenied state request project = none ∧
        (evaluatePath state request subject now).allowed = true := by
  simp only [evaluate, guarded_allowed, Bool.not_eq_true', Bool.not_eq_false]
  apply and_congr_right
  intro _
  by_cases assured :
    (evaluateAssurance request subject.authnClass subject.mfa subject.session).err = none
  · simp only [assured, ne_eq, not_true_eq_false, if_false, guarded_allowed, true_and, not_and,
      not_not]
    apply and_congr_right
    intro _
    cases target : resolveTarget state request.target with
    | error err => simp
    | ok found =>
      obtain ⟨tenant, project⟩ := found
      simp only [guarded_allowed, Except.ok.injEq, Prod.mk.injEq]
      constructor
      · rintro ⟨within, rest⟩
        cases lifecycle : lifecycleAllows tenant.state request.action with
        | some err => simp [lifecycle] at rest
        | none =>
          cases removal : ownerRemovalDenied state request project with
          | some denied =>
            simp [lifecycle, removal, ownerRemovalDenied_denies removal] at rest
          | none =>
            simp only [lifecycle, removal] at rest
            exact ⟨tenant, project, ⟨rfl, rfl⟩, by simpa using within, lifecycle, removal, rest⟩
      · rintro ⟨_, _, ⟨rfl, rfl⟩, within, lifecycle, removal, path⟩
        simp [within, lifecycle, removal, path]
  · simp [assured, evaluateAssurance_allowed]

theorem evaluateBreakGlass_allowed :
    (evaluateBreakGlass request subject).allowed = true ↔
      subject.principal.PlatformAdmin ∧ blank request.context.reason = false ∧
        blank request.context.ticketRef = false := by
  simp only [evaluateBreakGlass, guarded_allowed, allow_allowed, and_true, Bool.not_eq_true,
    Bool.not_eq_true', Bool.not_eq_false, roleAllows_recover]
  rw [Principal.PlatformAdmin]
  tauto

theorem evaluateSupportGrant_allowed (valid : state.Valid) :
    (evaluateSupportGrant state request subject now).allowed = true ↔
      subject.principal.support = true ∧ blank request.context.ticketRef = false ∧
      blank request.context.reason = false ∧
      ∃ grant, state.supportGrants.find request.supportGrantRef = some grant ∧
        grant.subjectID = subject.principal.id ∧ request.context.ticketRef = grant.ticketRef ∧
        blank grant.reason = false ∧ grant.expiresAt ≠ 0 ∧ now < grant.expiresAt ∧
        grant.tenantID = request.target.tenantID ∧ grant.projectID = request.target.projectID ∧
        request.action ∈ grant.actions := by
  cases found : state.supportGrants.find request.supportGrantRef with
  | none => simp [evaluateSupportGrant, found]
  | some grant =>
    have reference := valid.supportGrant _ _ found
    by_cases given : grant.subjectID = subject.principal.id
    · simp only [evaluateSupportGrant, found, Option.filter, reference, given, decide_true,
        Bool.and_self, if_true, guarded_allowed, allow_allowed, and_true, not_or, not_not,
        Bool.not_eq_true, Bool.not_eq_true', Bool.not_eq_false, actionAllowed_iff,
        Option.some.injEq, exists_eq_left', true_and]
      tauto
    · simp [evaluateSupportGrant, found, Option.filter, reference, given]

theorem evaluateAPIToken_none (secret : token.secretHashRef ≠ "") :
    evaluateAPIToken request token now = none ↔
      token.revokedAt = 0 ∧ token.expiresAt ≠ 0 ∧ now < token.expiresAt ∧
      token.tenantID = request.target.tenantID ∧ token.projectID = request.target.projectID ∧
      request.action ∈ token.scopes := by
  unfold evaluateAPIToken
  by_cases current : token.revokedAt = 0 ∧ token.expiresAt ≠ 0 ∧ now < token.expiresAt
  · by_cases elsewhere : token.tenantID ≠ request.target.tenantID ∨
      token.projectID ≠ request.target.projectID
    · rw [if_pos current, if_pos elsewhere]
      simp only [reduceCtorEq, false_iff]
      tauto
    · rw [if_pos current, if_neg elsewhere]
      obtain ⟨tenant, project⟩ := not_or.mp elsewhere
      simp [secret, current, not_not.mp tenant, not_not.mp project]
  · rw [if_neg current]
    have refused : ¬(if token.revokedAt ≠ 0 then some PolicyError.tokenRevoked
        else some .tokenExpired) = none := by
      split <;> simp
    simp only [refused, false_iff]
    tauto

theorem evaluateRole_allowed {memberships : List Membership} {rule : String} :
    (if !hasTenantAccess request.target memberships then deny .crossTenant "cross_tenant_denied"
      else if !roleAllows request.action request.target memberships then
        deny .roleDenied "role_denied"
      else allow rule).allowed = true ↔
      ∃ membership ∈ memberships, membership.role = .platformAdmin ∨
        membership.covers request.target = true ∧
          membershipRoleAllows membership.role request.action = true := by
  simp only [guarded_allowed, allow_allowed, and_true, Bool.not_eq_true', Bool.not_eq_false,
    ← roleAllows_iff]
  exact ⟨fun allowed => allowed.2, fun allows => ⟨hasTenantAccess_of_roleAllows allows, allows⟩⟩

theorem evaluatePath_allowed (valid : state.Valid)
    (identified : Identified state request result now principal token)
    (samePrincipal : subject.principal = principal)
    (sameToken : request.subject.apiTokenRef ≠ "" → subject.apiGrant = token) :
    (evaluatePath state request subject now).allowed = true ↔
      PathGrants state now request result principal := by
  have fits := identified.fits
  unfold evaluatePath PathGrants
  unfold classDenied at fits
  by_cases breaks : request.breakGlass = true
  · simp only [breaks, if_true, decide_eq_false_iff_not, ne_eq, not_not] at fits ⊢
    rw [evaluateBreakGlass_allowed, samePrincipal]
    simp [BreakGlassGrants, fits]
  · simp only [breaks, Bool.false_eq_true, if_false] at fits ⊢
    by_cases supported : request.supportGrantRef = ""
    · simp only [supported, ne_eq, not_true_eq_false, if_false] at fits ⊢
      by_cases present : request.subject.apiTokenRef = ""
      · simp only [present, not_true_eq_false, if_false, decide_true, Bool.true_and,
          decide_eq_false_iff_not, not_not] at fits ⊢
        rw [evaluateRole_allowed, samePrincipal]
        simp [RoleGrants, fits]
      · have usable := identified.usable present
        have secret := (valid.apiToken _ _ usable.found).2
        rw [if_pos present, if_pos present, sameToken present]
        trans evaluateAPIToken request token now = none
        · cases evaluateAPIToken request token now <;> simp
        rw [evaluateAPIToken_none secret]
        constructor
        · rintro ⟨unrevoked, expires, unexpired, tenant, project, action⟩
          exact ⟨usable.credential, usable.presented, token, usable.found, usable.issued, unrevoked,
            expires, unexpired, tenant, project, action⟩
        · rintro ⟨-, -, other, found, -, granted⟩
          exact (Option.some.inj (found.symm.trans usable.found)) ▸ granted
    · simp only [supported, ne_eq, not_false_eq_true, if_true, decide_eq_false_iff_not,
        not_not] at fits ⊢
      rw [evaluateSupportGrant_allowed valid, samePrincipal]
      simp [SupportGrants, fits]

/-! ### The whole call -/

theorem authenticate_iff {config : PolicyConfig} {answers : Answers}
    (verifier : config.authenticationVerifier = true) :
    authenticate config answers = some result ↔
      answers.authentication = some result ∧
        validateAuthenticationProof config result answers.now = none := by
  cases given : answers.authentication with
  | none => simp [authenticate, verifier, given]
  | some other =>
    cases checked : validateAuthenticationProof config other answers.now with
    | none =>
      simp only [authenticate, verifier, given, checked, Bool.not_true, Bool.false_eq_true,
        if_false, Option.some.injEq]
      exact ⟨fun same => ⟨same, same ▸ checked⟩, fun same => same.1⟩
    | some err =>
      simp only [authenticate, verifier, given, checked, Bool.not_true, Bool.false_eq_true,
        if_false, reduceCtorEq, Option.some.injEq, false_iff]
      rintro ⟨rfl, valid⟩
      simp [valid] at checked

theorem audit_allowed {policy : Policy} {answers : Answers}
    {decision : Decision} (sink : policy.config.durableAuditSink = true)
    (lasting : policy.config.allowEphemeralAudit = false) :
    (audit policy answers request subject decision).allowed = true ↔
      decision.allowed = true ∧ answers.durable = true ∧ answers.ready = true ∧
        answers.append (auditEvent policy.toPolicyState request subject decision answers.now) =
          true := by
  unfold audit
  cases durable : answers.durable
  · simp [sink, lasting, auditDenied]
  · cases ready : answers.ready
    · simp [sink, auditDenied]
    · cases appended : answers.append
        (auditEvent policy.toPolicyState request subject decision answers.now)
      · simp [sink, auditDenied]
      · simp [sink]

@[simp] theorem resolvedSubject_kept :
    (resolvedSubject request result principal token).principal = principal ∧
      (resolvedSubject request result principal token).authnClass = result.credentialClass ∧
      (resolvedSubject request result principal token).mfa = result.mfa ∧
      (resolvedSubject request result principal token).session = result.session := by
  unfold resolvedSubject
  split <;> exact ⟨rfl, rfl, rfl, rfl⟩

theorem resolvedSubject_apiGrant (present : request.subject.apiTokenRef ≠ "") :
    (resolvedSubject request result principal token).apiGrant = token := by
  simp [resolvedSubject, present]

theorem requireFactors_required :
    (normalizedMFA request subject.authnClass (requireFactors request subject).mfa).required =
        true ↔
      subject.mfa.required = true ∨ principalRequiresMFA subject.principal = true ∨
        subject.authnClass ≠ .shortLivedAPIToken ∧
          ¬(request.action = .projectRead ∧ request.supportGrantRef = "" ∧
            request.breakGlass = false) := by
  rw [normalizedMFA_required]
  unfold requireFactors
  dsimp only
  split
  · rename_i required
    simp [required]
  · rename_i free
    rw [normalizedMFA_required]
    simp only [free]
    tauto

theorem principalRequiresMFA_iff :
    principalRequiresMFA principal = true ↔ principal.support = true ∨ principal.PlatformAdmin := by
  simp [principalRequiresMFA, Principal.PlatformAdmin]

theorem assurance_iff :
    (evaluateAssurance request
        (requireFactors request (resolvedSubject request result principal token)).authnClass
        (requireFactors request (resolvedSubject request result principal token)).mfa
        (requireFactors request (resolvedSubject request result principal token)).session).err =
        none ↔
      (FactorsRequired request result principal → result.mfa.satisfied = true ∧
        knownSatisfiedMFAMethod result.mfa.methodClass = true) ∧ SessionAssured result := by
  let subject := resolvedSubject request result principal token
  have required : (normalizedMFA request subject.authnClass
      (requireFactors request subject).mfa).required = true ↔
      FactorsRequired request result principal := by
    rw [requireFactors_required, principalRequiresMFA_iff, or_assoc]
    simp only [subject, resolvedSubject_kept, FactorsRequired]
  have kept : (requireFactors request subject).mfa.satisfied = result.mfa.satisfied ∧
      (requireFactors request subject).mfa.methodClass = result.mfa.methodClass := by
    simp only [requireFactors, subject]
    split <;> simp
  rw [evaluateAssurance_iff, SessionAssured, ← required]
  simp only [subject] at kept ⊢
  rw [kept.1, kept.2]
  simp [requireFactors]

end Functions

variable {answers : Answers} {policy : Policy} {principal : Principal}
  {request : AuthorizationRequest} {result : AuthenticationResult}

theorem decideRequest_allowed (valid : policy.toPolicyState.Valid) :
    (decideRequest policy answers request).2.allowed = true ↔
      ∃ result principal token, authenticate policy.config answers = some result ∧
        Identified policy.toPolicyState request result answers.now principal token ∧
        (evaluate policy.toPolicyState request
          (requireFactors request (resolvedSubject request result principal token))
          answers.now).allowed = true := by
  simp only [decideRequest]
  constructor
  · intro allowed
    by_cases resolved : (resolveSubject policy.toPolicyState request
        (authenticate policy.config answers) answers.now).2.err = none
    · obtain ⟨result, principal, token, authenticated, identified⟩ :=
        resolveSubject_resolved resolved
      rw [if_pos resolved, authenticated, resolveSubject_identified valid identified] at allowed
      exact ⟨result, principal, token, authenticated, identified, allowed⟩
    · rw [if_neg resolved, resolveSubject_allowed] at allowed
      cases allowed
  · rintro ⟨result, principal, token, authenticated, identified, allowed⟩
    rw [authenticated, resolveSubject_identified valid identified]
    simpa using allowed

theorem classDenied_false {state : PolicyState} {now : Time}
    (grants : PathGrants state now request result principal) :
    classDenied request result.credentialClass = false := by
  unfold PathGrants at grants
  unfold classDenied
  split at grants
  · rename_i breaks
    simp [breaks, grants.1]
  · rename_i keeps
    split at grants
    · rename_i supported
      simp [keeps, supported, grants.1]
    · rename_i unsupported
      split at grants
      · rename_i present
        simp [keeps, unsupported, present]
      · simp [keeps, unsupported, grants.1]

theorem Identified.pathsApart {state : PolicyState} {now : Time} {token : APIToken}
    (identified : Identified state request result now principal token) : PathsApart request := by
  intro present
  have fits := identified.fits
  unfold classDenied at fits
  rw [(identified.usable present).credential] at fits
  by_cases breaks : request.breakGlass = true
  · simp [breaks] at fits
  · by_cases supported : request.supportGrantRef = ""
    · exact ⟨Bool.eq_false_iff.mpr breaks, supported⟩
    · simp [breaks, supported] at fits

theorem Permitted.identified {tenant : Tenant} {project : Project}
    (permitted : Permitted policy answers request result principal tenant project)
    (apart : PathsApart request) :
    ∃ token, Identified policy.toPolicyState request result answers.now principal token := by
  have fits := classDenied_false permitted.path
  by_cases present : request.subject.apiTokenRef = ""
  · exact ⟨default, permitted.named, permitted.subject, permitted.known, fits,
      fun named => absurd present named⟩
  · obtain ⟨keeps, unsupported⟩ := apart present
    have path := permitted.path
    simp only [PathGrants, keeps, unsupported, present, Bool.false_eq_true, if_false, ne_eq,
      not_true_eq_false, not_false_eq_true, if_true] at path
    obtain ⟨credential, presented, token, found, issued, unrevoked, expires, unexpired, -⟩ := path
    exact ⟨token, permitted.named, permitted.subject, permitted.known, fits,
      fun _ => ⟨credential, presented, found, issued, unrevoked, expires, unexpired⟩⟩

theorem decideRequest_permitted (valid : policy.toPolicyState.Valid)
    (verifier : policy.config.authenticationVerifier = true) :
    (decideRequest policy answers request).2.allowed = true ↔
      PathsApart request ∧ ∃ result principal tenant project,
        Permitted policy answers request result principal tenant project := by
  rw [decideRequest_allowed valid]
  constructor
  · rintro ⟨result, principal, token, authenticated, identified, allowed⟩
    obtain ⟨verified, proof⟩ := (authenticate_iff verifier).mp authenticated
    obtain ⟨action, assured, recovery, tenant, project, target, within, lifecycle, removal, path⟩ :=
      evaluate_allowed.mp allowed
    obtain ⟨organization, tenants, tenantInside, projects, projectInside⟩ :=
      (resolveTarget_ok valid).mp target
    obtain ⟨-, own, further⟩ := valid.project _ _ projects
    obtain ⟨factors, session⟩ := assurance_iff.mp assured
    have grants := (evaluatePath_allowed valid identified (by simp [requireFactors])
      fun present => by simp [requireFactors, resolvedSubject_apiGrant present]).mp path
    exact ⟨identified.pathsApart, result, principal, tenant, project, verified, proof,
      identified.named, identified.same, identified.known, action, organization, tenants,
      tenantInside, projects, projectInside, (targetWithinProjectScope_iff own further).mp within,
      lifecycle, factors, session, recovery, (ownerRemovalDenied_iff valid).mp removal, grants⟩
  · rintro ⟨apart, result, principal, tenant, project, permitted⟩
    obtain ⟨token, identified⟩ := permitted.identified apart
    obtain ⟨-, own, further⟩ := valid.project _ _ permitted.projectExists
    refine ⟨result, principal, token,
      (authenticate_iff verifier).mpr ⟨permitted.verified, permitted.proof⟩, identified,
      evaluate_allowed.mpr ⟨permitted.action, assurance_iff.mpr ⟨permitted.factors,
        permitted.session⟩, permitted.recovery, tenant, project, ?_,
        (targetWithinProjectScope_iff own further).mpr permitted.inScope, permitted.lifecycle,
        (ownerRemovalDenied_iff valid).mpr permitted.ownership, ?_⟩⟩
    · exact (resolveTarget_ok valid).mpr ⟨permitted.organization, permitted.tenantExists,
        permitted.tenantInside, permitted.projectExists, permitted.projectInside⟩
    · exact (evaluatePath_allowed valid identified (by simp [requireFactors])
        fun present => by simp [requireFactors, resolvedSubject_apiGrant present]).mpr
          permitted.path

/-! ## The theorem -/

/-- A request is allowed exactly when it is permitted and its decision is recorded, unless it names
an API token together with another path. -/
theorem authorizeContext_allowed_iff {startup : Startup} {config : PolicyConfig} {policy : Policy}
    (built : newPolicyFromState startup config = .ok policy) (answers : Answers)
    (request : AuthorizationRequest) :
    (authorizeContext policy answers request).allowed = true ↔
      PathsApart request ∧
      (∃ result principal tenant project,
        Permitted policy answers request result principal tenant project) ∧
      Recorded policy answers request := by
  obtain ⟨valid, verifier, sink, lasting⟩ := newPolicyFromState_ok built
  rw [authorizeContext, audit_allowed sink lasting, decideRequest_permitted valid verifier,
    and_assoc]
  rfl

def sampleState : PolicyState where
  organizations := AList.singleton "acme" ⟨"acme"⟩
  tenants := AList.singleton "shop" ⟨"shop", "acme", .active⟩
  projects := AList.singleton "web" ⟨"web", "shop", "acme", "web", []⟩
  principals := AList.singleton "root"
    ⟨"root", [⟨"acme", "shop", "", .platformAdmin⟩], false⟩
  apiTokens := AList.singleton "deploy"
    ⟨"deploy", "root", "vault", "shop", "web", [.projectWrite], 100, 0⟩
  supportGrants := ∅

def sampleConfig : PolicyConfig where
  authenticationVerifier := true
  durableAuditSink := true
  proofMaxAge := 3600 * second
  proofSkew := 0
  allowEphemeralAudit := false

def samplePolicy : Policy := { sampleState with config := sampleConfig }

def sampleStartup : Startup where
  context := true
  loader := true
  durable := true
  auditReady := true
  loaderReady := .ok ()
  loaded := .ok sampleState

def sampleResult : AuthenticationResult where
  subjectID := "root"
  apiTokenRef := ""
  credentialClass := .breakGlass
  mfa := ⟨true, true, .totp⟩
  session := ⟨.fresh, 600, false⟩
  proof := ⟨5, 50⟩

def sampleAnswers : Answers where
  now := 10
  authentication := some sampleResult
  durable := true
  ready := true
  append := fun _ => true

def sampleRequest (apiTokenRef : String) : AuthorizationRequest where
  subject := ⟨"root", apiTokenRef⟩
  action := .projectWrite
  target := ⟨"acme", "shop", "web", "web", "deployment", "front"⟩
  context := ⟨"T-1", "c-1", "incident", ""⟩
  supportGrantRef := ""
  breakGlass := true

theorem samplePolicy_built : newPolicyFromState sampleStartup sampleConfig = .ok samplePolicy := by
  rfl

/-- The administrator's request is allowed, and so it is permitted and recorded. -/
theorem authorizeContext_allowed_sample :
    (authorizeContext samplePolicy sampleAnswers (sampleRequest "")).allowed = true ∧
      PathsApart (sampleRequest "") ∧
      (∃ result principal tenant project,
        Permitted samplePolicy sampleAnswers (sampleRequest "") result principal tenant project) ∧
      Recorded samplePolicy sampleAnswers (sampleRequest "") := by
  have allowed :
      (authorizeContext samplePolicy sampleAnswers (sampleRequest "")).allowed = true := by
    decide
  exact ⟨allowed, (authorizeContext_allowed_iff samplePolicy_built _ _).mp allowed⟩

/-- The same request is permitted and recorded, yet refused, when it also names an API token. -/
theorem authorizeContext_denies_named_token :
    newPolicyFromState sampleStartup sampleConfig = .ok samplePolicy ∧
      (∃ result principal tenant project,
        Permitted samplePolicy sampleAnswers (sampleRequest "deploy") result principal tenant
          project) ∧
      Recorded samplePolicy sampleAnswers (sampleRequest "deploy") ∧
      (authorizeContext samplePolicy sampleAnswers (sampleRequest "deploy")).allowed = false := by
  refine ⟨samplePolicy_built, ?_, ⟨rfl, rfl, rfl⟩, by decide⟩
  refine ⟨sampleResult, ⟨"root", [⟨"acme", "shop", "", .platformAdmin⟩], false⟩,
    ⟨"shop", "acme", .active⟩, ⟨"web", "shop", "acme", "web", []⟩, ?_⟩
  exact
    { verified := rfl
      proof := by decide
      named := by decide
      subject := rfl
      known := rfl
      action := rfl
      organization := by decide
      tenantExists := rfl
      tenantInside := rfl
      projectExists := rfl
      projectInside := ⟨rfl, rfl⟩
      inScope := .inl rfl
      lifecycle := rfl
      factors := fun _ => ⟨rfl, rfl⟩
      session := ⟨rfl, rfl, by decide⟩
      recovery := fun recovers => by cases recovers
      ownership := fun removes => by cases removes
      path := ⟨rfl, ⟨_, List.mem_singleton_self _, rfl⟩, by decide, by decide⟩ }

end CloudRing.Iam
