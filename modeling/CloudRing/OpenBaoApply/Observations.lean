import CloudRing.OpenBaoApply.Accounts

/-!
# The observations of an execution

The parts of `Execute` that only look: which calls they make, whatever they are answered, and
what their results say about the log.
-/

namespace CloudRing.OpenBaoApply

open Library Library.Program OpenBaoAuth
open OpenBaoBootstrap (Place)

def readable : List Place :=
  [.authMount, .authConfig, .role, .kvMount, .policy, .managementPolicy, .metadata, .data]

/-- The calls of an observation: reads of the objects, the list of roles, and the state of the
guard and its contexts. -/
def Call.observes (request : Request) (token : Credential) : Call → Prop
  | .read credential path => credential = token ∧ ∃ place ∈ readable, path = request.at place
  | .list credential path => credential = token ∧ path = request.at .roles
  | .guardState | .contextErr _ => True
  | _ => False

theorem Call.quiet_of_observes {request : Request} {token : Credential} {call : Call}
    (observes : call.observes request token) : call.quiet = true := by
  unfold Call.observes at observes
  split at observes
  · rfl
  · rfl
  · rfl
  · rfl
  · exact observes.elim

/-! ## Which calls they make -/

theorem cancelled_uses (scope : Scope) : (cancelled scope).Uses (·.idle = true) := by
  cases scope with
  | detached => exact uses_pure false
  | operation | cleanup => exact (uses_request _).mpr rfl

theorem healthy_uses : healthy.Uses (·.idle = true) := by
  refine uses_bind ((uses_request _).mpr rfl) fun guard => ?_
  cases guard.lost with
  | true => exact uses_pure false
  | false => exact uses_bind (cancelled_uses .cleanup) fun _ => uses_pure _

theorem abandon_uses : abandon.Uses (·.idle = true) :=
  uses_bind ((uses_request _).mpr rfl) fun _ => uses_pure _

section Uses

variable (request : Request) (token : Credential)

theorem read_uses (place : Place) (member : place ∈ readable) :
    (ask (.read token (request.at place))).Uses (·.observes request token) :=
  (uses_request _).mpr ⟨rfl, place, member, rfl⟩

theorem list_uses : (ask (.list token (request.at .roles))).Uses (·.observes request token) :=
  (uses_request _).mpr ⟨rfl, rfl⟩

theorem healthy_observes : healthy.Uses (·.observes request token) := by
  refine uses_bind ((uses_request _).mpr trivial) fun guard => ?_
  cases guard.lost with
  | true => exact uses_pure false
  | false => exact uses_bind ((uses_request _).mpr trivial) fun _ => uses_pure _

theorem allAbsent_uses {calls : List (String × Bool)}
    (observed : ∀ entry ∈ calls,
      if entry.2 then entry.1 = request.at .roles
      else ∃ place ∈ readable, entry.1 = request.at place) :
    (allAbsent token calls).Uses (·.observes request token) := by
  induction calls with
  | nil => exact uses_pure true
  | cons entry calls ih =>
    obtain ⟨path, isList⟩ := entry
    have first := observed (path, isList) (by simp)
    have rest := ih fun other member => observed other (List.mem_cons_of_mem _ member)
    have goesOn : ∀ result : ReadResult,
        (if result.found then pure false else allAbsent token calls : Action Bool).Uses
          (·.observes request token) := by
      intro result
      split
      · exact uses_pure false
      · exact rest
    cases isList with
    | true | false =>
      exact uses_bind ((uses_request _).mpr ⟨rfl, first⟩) fun
        | .error _ => trivial
        | .ok result => goesOn result

variable (session : Session)

theorem capturePreState_uses :
    (capturePreState session).Uses (·.observes session.request session.token) := by
  have reads := read_uses session.request session.token
  have lists := list_uses session.request session.token
  refine uses_bind (reads .authMount (by decide)) fun | .error _ => trivial | .ok mount => ?_
  refine uses_bind (reads .authConfig (by decide)) fun | .error _ => trivial | .ok config => ?_
  refine uses_bind lists fun | .error _ => trivial | .ok roles => ?_
  refine uses_bind (reads .kvMount (by decide)) fun | .error _ => trivial | .ok kvMount => ?_
  refine uses_bind (reads .policy (by decide)) fun | .error _ => trivial | .ok policy => ?_
  refine uses_bind (reads .role (by decide)) fun | .error _ => trivial | .ok role => ?_
  refine uses_bind (reads .metadata (by decide)) fun | .error _ => trivial | .ok metadata => ?_
  cases found : metadata.found with
  | false => simp [found]
  | true =>
    simp only [found, Bool.not_true, Bool.false_eq_true, if_false]
    exact uses_bind (reads .data (by decide)) fun | .error _ => trivial | .ok seed => trivial

theorem completePreStateUnchanged_uses (prior : PreState) :
    (completePreStateUnchanged session prior).Uses
      (·.observes session.request session.token) :=
  uses_bind (capturePreState_uses session) fun | none => trivial | some _ => trivial

theorem mountPrestateStillAbsent_uses :
    (mountPrestateStillAbsent session).Uses (·.observes session.request session.token) := by
  have reads := read_uses session.request session.token
  refine uses_bind (allAbsent_uses session.request session.token ?_) fun
    | false => trivial
    | true => uses_bind (reads .kvMount (by decide)) fun | .error _ => trivial | .ok _ => trivial
  simp only [List.forall_mem_cons, Bool.false_eq_true, if_false, if_true]
  exact ⟨⟨.authMount, by decide, rfl⟩, ⟨.authConfig, by decide, rfl⟩, rfl,
    ⟨.policy, by decide, rfl⟩, ⟨.role, by decide, rfl⟩, ⟨.metadata, by decide, rfl⟩, by simp⟩

theorem authMountStillOwned_uses (plan : Plan) (mutations : MutationState) :
    (authMountStillOwned session plan mutations).Uses
      (·.observes session.request session.token) := by
  have reads := read_uses session.request session.token
  have lists := list_uses session.request session.token
  refine uses_bind (reads .authMount (by decide)) fun mount => ?_
  refine uses_bind (reads .authConfig (by decide)) fun config => ?_
  refine uses_bind lists fun roles => ?_
  refine uses_bind (reads .kvMount (by decide)) fun kvMount => ?_
  split <;> exact uses_pure _

theorem kvV2MountStillOwned_uses (mutations : MutationState) :
    (kvV2MountStillOwned session mutations).Uses (·.observes session.request session.token) := by
  have reads := read_uses session.request session.token
  unfold kvV2MountStillOwned
  split
  · exact uses_pure true
  · exact uses_bind (reads .kvMount (by decide)) fun _ => uses_pure _

theorem unchangedBeforeWrite_uses (place : Place) (member : place ∈ readable)
    (prior : ReadResult) :
    (unchangedBeforeWrite session (session.request.at place) prior).Uses
      (·.observes session.request session.token) :=
  uses_bind (read_uses session.request session.token place member) fun
    | .error _ | .ok _ => trivial

theorem readyToWrite_uses (plan : Plan) (mutations : MutationState) (place : Place)
    (member : place ∈ readable) (prior : ReadResult) :
    (readyToWrite session plan mutations (session.request.at place) prior).Uses
      (·.observes session.request session.token) :=
  uses_bind (healthy_observes session.request session.token) fun
    | false => trivial
    | true => uses_bind (authMountStillOwned_uses session plan mutations) fun
      | false => trivial
      | true => unchangedBeforeWrite_uses session place member prior

end Uses

/-! ## What their results say -/

structure Captured (request : Request) (state : PreState) (log : History) : Prop where
  mount : Seen request .authMount state.mount log
  config : Seen request .authConfig state.config log
  kvMount : Seen request .kvMount state.kvMount log
  policy : Seen request .policy state.policy log
  role : Seen request .role state.role log
  metadata : Seen request .metadata state.metadata log
  seed : state.metadata.found = true → Seen request .data state.seed log

structure CapturedFirst (request : Request) (state : PreState) (log : History) : Prop where
  mount : firstRead (request.at .authMount) log = some (.ok state.mount)
  policy : firstRead (request.at .policy) log = some (.ok state.policy)
  role : firstRead (request.at .role) log = some (.ok state.role)

theorem CapturedFirst.kept {allowed : Call → Prop} {request : Request} {state : PreState}
    {log later : History}
    (extension : Extends allowed log later) (first : CapturedFirst request state log) :
    CapturedFirst request state later :=
  ⟨firstRead_kept extension first.mount, firstRead_kept extension first.policy,
    firstRead_kept extension first.role⟩

def Unread (request : Request) (log : History) : Prop :=
  ∀ place ∈ removable, firstRead (request.at place) log = none

section Results

variable {admits : Admits} {log : History} (session : Session)

theorem capturePreState_spec (accepted : session.request.Accepted) :
    (capturePreState session).wp (recording admits) (fun result later =>
      result.elim True fun state =>
        Captured session.request state later ∧
        (Unread session.request log → CapturedFirst session.request state later) ∧
        (firstFound (session.request.at .kvMount) log = none → state.kvMount.found = false →
          firstFound (session.request.at .kvMount) later = none)) log := by
  unfold capturePreState
  simp only [mountPath_eq, configPath_eq, rolesPath_eq, kvMountPath_eq, policyPath_eq,
    rolePath_eq, metadataPath_eq, dataPath_eq]
  refine wp_asked fun | .error _, _, _ => trivial | .ok mount, _, _ => ?_
  refine wp_asked fun | .error _, _, _ => trivial | .ok config, _, _ => ?_
  refine wp_asked fun | .error _, _, _ => trivial | .ok roles, _, _ => ?_
  refine wp_asked fun | .error _, _, _ => trivial | .ok kvMount, _, _ => ?_
  refine wp_asked fun | .error _, _, _ => trivial | .ok policy, _, _ => ?_
  refine wp_asked fun | .error _, _, _ => trivial | .ok role, _, _ => ?_
  refine wp_asked fun | .error _, _, _ => trivial | .ok metadata, _, _ => ?_
  cases found : metadata.found with
  | false =>
    simp only [found, Bool.not_false, if_true]
    refine ⟨?_, ?_, ?_⟩
    · constructor <;> simp [Seen, Event.reads, Event.disturbs, found]
    · intro unread
      have mountUnread := unread .authMount (by decide)
      have policyUnread := unread .policy (by decide)
      have roleUnread := unread .role (by decide)
      constructor <;> simp [firstRead, Event.reads, accepted.at_inj, *]
    · intro unfound (absent : kvMount.found = false)
      simp [firstFound, Event.reads, accepted.at_inj, unfound, absent]
  | true =>
    simp only [found, Bool.not_true, Bool.false_eq_true, if_false]
    refine wp_asked fun answer _ _ => ?_
    rcases answer with _ | seed
    · trivial
    refine ⟨?_, ?_, ?_⟩
    · constructor <;> simp [Seen, Event.reads, Event.disturbs]
    · intro unread
      have mountUnread := unread .authMount (by decide)
      have policyUnread := unread .policy (by decide)
      have roleUnread := unread .role (by decide)
      constructor <;> simp [firstRead, Event.reads, accepted.at_inj, *]
    · intro unfound (absent : kvMount.found = false)
      simp [firstFound, Event.reads, accepted.at_inj, unfound, absent]

theorem completePreStateUnchanged_spec (accepted : session.request.Accepted)
    (prior : PreState) :
    (completePreStateUnchanged session prior).wp (recording admits) (fun unchanged later =>
      unchanged = true → prior.kvMount.found = false →
        firstFound (session.request.at .kvMount) log = none →
        firstFound (session.request.at .kvMount) later = none) log := by
  refine wp_then (capturePreState_spec session accepted) fun
    | none, later, _ => ?_
    | some current, later, ⟨_, _, unfound⟩ => ?_
  · intro impossible
    exact absurd impossible nofun
  · intro unchanged absent before
    simp only [Bool.and_eq_true] at unchanged
    have same : equalReadResult current.kvMount prior.kvMount = true := unchanged.1.1.1.1.2
    simp only [equalReadResult, absent, Bool.and_eq_true, decide_eq_true_eq] at same
    exact unfound before same.1.1

theorem kvV2MountStillOwned_spec (accepted : session.request.Accepted)
    {mutations : MutationState} (created : mutations.kvMountCreated = true) :
    (kvV2MountStillOwned session mutations).wp (recording admits) (fun owned later =>
      (∃ answer, lastRead (session.request.at .kvMount) later = some answer ∧
        ownedKVMount answer mutations.kvMountUUID mutations.kvMountAccessor = owned) ∧
      lastRead (session.request.at .authMount) later =
        lastRead (session.request.at .authMount) log) log := by
  unfold kvV2MountStillOwned
  simp only [created, kvMountPath_eq]
  refine wp_asked fun answer _ _ => ?_
  have elsewhere : session.request.at .kvMount ≠ session.request.at .authMount := by
    rw [Ne, accepted.at_inj]
    decide
  exact ⟨⟨answer, by simp [lastRead, Event.reads], rfl⟩, by simp [lastRead, Event.reads, elsewhere]⟩

end Results

end CloudRing.OpenBaoApply
