import CloudRing.OpenBaoApply.Authorization
import CloudRing.OpenBaoApply.Mounts

/-!
# The run of an execution

The remaining stages of `Execute`, and the whole of it: whatever the clients answer, an execution
of an accepted request ends in the `Outcome` that its report owes.
-/

namespace CloudRing.OpenBaoApply

open Library Library.Program OpenBaoAuth
open OpenBaoBootstrap (Place)

section Objects

variable [TimeFormat] {admits : Admits} {honest : Prop} {session : Session} {request : Request}
  {token : String} {state : PreState} {mutations : MutationState} {places : List Place}
  {log : History}

theorem Ready.also (place : Place) (target : place ∈ targets)
    (ready : Ready honest request token state mutations places log)
    (mounted : state.mount.found = true) :
    Ready honest request token state mutations (place :: places) log :=
  ready.add place (ready.whole mounted place target)

theorem Ready.fails {gate : String} (session : Session) (accepted : session.request.Accepted)
    (managed : session.token = .management token)
    (ready : Ready honest session.request token state mutations places log) :
    (failAfterMutation session (desiredPlan session.request.contract) mutations gate).wp
      (recording admits) (Outcome honest session.request) log :=
  failAfterMutationWithCleanup_spec accepted managed ready.mounted
    fun honestly _ => ready.held honestly

theorem Ready.holds {gate : String} (session : Session) (accepted : session.request.Accepted)
    (ready : Ready honest session.request token state mutations places log)
    (unmounted : state.mount.found = false) (attempt : Attempt) :
    (holdForManualInspection session mutations gate true).wp (recording admits)
      (Outcome honest session.request) (attempt.after session.request log) :=
  ready.mounted.hold accepted (ready.made unmounted) (attempt.extends session.request log)
    (Attempt.justified_after ready.mounted.progress.justified)

variable (sound : HonestIf honest admits)

include sound

theorem attemptReady_spec {β : Type} {place readback : Place} {object gate : String}
    {body : Json} {prior : ReadResult} {rest : ReadResult × ReadResult → Stage β}
    {goes : β → History → Prop} (accepted : session.request.Accepted)
    (managed : session.token = .management token) (target : place ∈ targets)
    (looked : readback ∈ readable) (unmounted : state.mount.found = false)
    (ready : Ready honest session.request token state mutations places log)
    (onward : ∀ (attempt : Attempt) (first : History) (result current : ReadResult),
      Ready honest session.request token state mutations places first →
      attempt.place = place → attempt.readback = readback → attempt.Made result current →
      wpExit (recording admits) (rest (result, current)) goes (Outcome honest session.request)
        (attempt.after session.request first)) :
    wpExit (recording admits)
      (do
        let go ← readyToWrite session (desiredPlan session.request.contract) mutations
          (session.request.at readback) prior
        require go
          (failAfterMutation session (desiredPlan session.request.contract) mutations gate)
        let replies ← createObject session mutations object (session.request.at place)
          (session.request.at readback) body
          (failAfterMutation session (desiredPlan session.request.contract) mutations)
        rest replies)
      goes (Outcome honest session.request) log := by
  refine wpExit_run (wp_extends (readyToWrite_uses session _ mutations readback looked prior))
    fun go first observed => ?_
  have readyFirst := ready.kept accepted (observed.mono fun _ => Call.quiet_of_observes)
  refine wpExit_unless (fun _ => readyFirst.fails session accepted managed) fun _ => ?_
  refine wpExit_then (createMounted_spec sound accepted managed target readyFirst.mounted
    (readyFirst.made unmounted) readyFirst.held) fun
      ⟨result, current⟩ _ ⟨attempt, here, there, made, later⟩ => ?_
  subst later
  exact onward attempt first result current readyFirst here there made

variable (session : Session) (accepted : session.request.Accepted)
  (managed : session.token = .management token)

include accepted managed

theorem policyStage_spec (valid : Validated session.request state)
    (untouched : ∀ place ∈ places, touches .policy place = false ∧ place ≠ .data)
    (ready : Ready honest session.request token state mutations places log) :
    wpExit (recording admits)
      (policyStage session (desiredPlan session.request.contract) state mutations)
      (fun mutations later =>
        Ready honest session.request token state mutations (.policy :: places) later)
      (Outcome honest session.request) log := by
  unfold policyStage
  rw [valid.together.1]
  simp only [policyPath_eq]
  cases unmounted : state.mount.found with
  | true => exact ready.also .policy (by decide) unmounted
  | false =>
    simp only [Bool.false_eq_true, if_false]
    refine attemptReady_spec sound accepted managed (by decide) (by decide) unmounted ready ?_
    rintro ⟨⟩ first result policy readyFirst rfl rfl made
    refine wpExit_unless (fun _ => readyFirst.holds session accepted unmounted _)
      fun exact => ?_
    refine wpExit_unless (fun _ => readyFirst.holds session accepted unmounted _)
      fun version => (wpExit_pure _).mpr ?_
    have progress := readyFirst.mounted.progress
    have fresh := made.fresh rfl readyFirst.first.policy (valid.together.1.trans unmounted) exact
    refine Ready.add .policy (readyFirst.advance accepted (by simp [targets]) untouched unmounted ?_
      (readyFirst.made unmounted)) ⟨policy, Attempt.seen_after _ first made.reading, exact⟩
    refine progress.advance accepted (fun other _ => ?_) ?_ (fun _ _ => ?_)
      (forall_removable.mpr ⟨?_, fun _ => ⟨policy, fresh, ?_⟩, ?_⟩)
      fun sent => (progress.sent sent).kept (Attempt.extends _ session.request first)
    · cases other <;> simp [MutationState.created]
    · simp [targets, MutationState.created]
    · rfl
    · exact progress.records _ .authMount (by decide) fun _ => rfl
    · simpa [recordedAs] using version
    · exact progress.records _ .role (by decide) fun _ => rfl

theorem roleStage_spec (valid : Validated session.request state)
    (untouched : ∀ place ∈ places, touches .role place = false ∧ place ≠ .data)
    (ready : Ready honest session.request token state mutations places log) :
    wpExit (recording admits)
      (roleStage session (desiredPlan session.request.contract) state mutations)
      (fun mutations later =>
        Ready honest session.request token state mutations (.role :: places) later)
      (Outcome honest session.request) log := by
  unfold roleStage
  rw [valid.together.2.1]
  simp only [rolePath_eq]
  cases unmounted : state.mount.found with
  | true => exact ready.also .role (by decide) unmounted
  | false =>
    simp only [Bool.false_eq_true, if_false]
    refine attemptReady_spec sound accepted managed (by decide) (by decide) unmounted ready ?_
    rintro ⟨⟩ first result role readyFirst rfl rfl made
    refine wpExit_unless (fun _ => readyFirst.holds session accepted unmounted _)
      fun exact => (wpExit_pure _).mpr ?_
    have progress := readyFirst.mounted.progress
    have fresh := made.fresh rfl readyFirst.first.role (valid.together.2.1.trans unmounted) exact
    refine Ready.add .role (readyFirst.advance accepted (by simp [targets]) untouched unmounted ?_
      (readyFirst.made unmounted)) ⟨role, Attempt.seen_after _ first made.reading, exact⟩
    refine progress.advance accepted (fun other _ => ?_) ?_ (fun _ _ => ?_)
      (forall_removable.mpr ⟨?_, ?_, fun _ => ⟨role, fresh, rfl⟩⟩)
      fun sent => (progress.sent sent).kept (Attempt.extends _ session.request first)
    · cases other <;> simp [MutationState.created]
    · simp [targets, MutationState.created]
    · rfl
    · exact progress.records _ .authMount (by decide) fun _ => rfl
    · exact progress.records _ .policy (by decide) fun _ => rfl

theorem seedStage_spec (valid : Validated session.request state)
    (untouched : ∀ place ∈ places, touches .data place = false ∧ place ≠ .data)
    (ready : Ready honest session.request token state mutations places log) :
    wpExit (recording admits)
      (seedStage session (desiredPlan session.request.contract) state mutations)
      (fun mutations later =>
        Ready honest session.request token state mutations (.data :: places) later)
      (Outcome honest session.request) log := by
  unfold seedStage
  rw [valid.together.2.2]
  simp only [metadataPath_eq, dataPath_eq]
  cases unmounted : state.mount.found with
  | true => exact ready.also .data (by decide) unmounted
  | false =>
    simp only [Bool.false_eq_true, if_false]
    refine attemptReady_spec sound accepted managed (by decide) (by decide) unmounted ready
      fun attempt first written metadata readyFirst place readback made => ?_
    have progress := readyFirst.mounted.progress
    have drifted : ∀ answer noticed, (holdForManualInspection session mutations
        "seed-create-drifted" true).wp (recording admits) (Outcome honest session.request)
        (⟨.read session.token (session.request.at .data), answer, noticed⟩ ::
          attempt.after session.request first) := fun _ _ =>
      readyFirst.mounted.hold accepted (readyFirst.made unmounted)
        ((attempt.extends session.request first).cons trivial)
        ((Attempt.justified_after progress.justified).cons nofun)
    refine wpExit_asked fun
      | .error _, _, _ => (wpExit_leave _).mpr (drifted _ _)
      | .ok seed, noticed, _ => ?_
    dsimp only
    split
    · exact (wpExit_leave _).mpr (drifted _ _)
    · rename_i createdAt exact
      refine wpExit_unless (fun _ => drifted _ _) fun _ => (wpExit_pure _).mpr ?_
      have metadataSeen := Attempt.seen_after session.request first made.reading
      rw [readback] at metadataSeen
      refine Ready.add .data (Ready.kept accepted ((Extends.refl _ _).cons rfl)
        (readyFirst.advance accepted (by rw [place]; decide) (by rwa [place]) unmounted ?_
          (readyFirst.made unmounted)))
        ⟨metadata, seed, createdAt, .inr ⟨rfl, metadataSeen⟩, .inl (by simp [Event.reads]), exact⟩
      refine progress.advance accepted (fun other _ => ?_) ?_ (fun _ _ => ?_)
        (forall_removable.mpr ⟨?_, ?_, ?_⟩)
        fun sent => (progress.sent sent).kept (attempt.extends session.request first)
      · cases other <;> simp [MutationState.created]
      · simp [targets, MutationState.created]
      · rw [place]
        rfl
      · exact progress.records _ .authMount (by decide) fun _ => rfl
      · exact progress.records _ .policy (by decide) fun _ => rfl
      · exact progress.records _ .role (by decide) fun _ => rfl

theorem concludeStage_spec (serviceAccountUID : String)
    (everything : ∀ target ∈ targets, target ∈ places)
    (ready : Ready honest session.request token state mutations places log) :
    (concludeStage session (desiredPlan session.request.contract) mutations
      serviceAccountUID).wp (recording admits) (Outcome honest session.request) log := by
  refine wp_then (verifyWorkloadAuthorization_spec sound accepted serviceAccountUID ready.held)
    fun decided first kept => ?_
  obtain ⟨sparing, held⟩ := kept
  rcases decided with _ | ⟨gate, safe⟩
  rotate_left
  · exact failAfterMutationWithCleanup_spec accepted managed (ready.mounted.kept accepted sparing)
      fun honestly certain => held honestly (by simpa [cleanupSafe] using certain)
  have mounted := ready.mounted.kept accepted sparing
  refine wp_then (revokeAndProve_spec accepted .cleanup session.token) fun
    revoked second ended => ?_
  obtain ⟨ending, tokens, -⟩ := ended
  have sparingSecond := ending.mono fun _ => Call.sparing_of_ending
  have mountedSecond := mounted.kept accepted sparingSecond
  cases revoked with
  | false => exact abandonWith_spec accepted mountedSecond.progress.justified mountedSecond.counted
  | true =>
    refine wp_then (@release_spec _ session.request _ _) fun released last closed => ?_
    obtain ⟨closing, freed⟩ := closed
    rcases released
    · exact .closed accepted closing mountedSecond.progress.justified mountedSecond.counted
    have sparingLast := closing.mono fun _ closes =>
      Call.sparing_of_ending (Call.ending_of_closing closes)
    exact
      { justified := mountedSecond.progress.justified.kept sparingLast
        counted := mountedSecond.counted.kept accepted closing
        blocked := by rintro - ⟨⟩
        rolledBack := by rintro - ⟨⟩
        applied := fun honestly _ => by
          refine ⟨fun target member => ?_, ?_, freed rfl⟩
          · exact (((ready.standing target (everything target member)).kept accepted
              sparing).kept accepted sparingSecond).kept accepted sparingLast
          · rw [outstanding_kept (closing.mono fun _ => Call.tokenless_of_closing), tokens, managed]
            exact (held honestly rfl).cleared }

theorem mutationStages_spec (serviceAccountUID : String)
    (prepared : Prepared session.request token state log) :
    wpExit (recording admits)
      (mutationStages session (desiredPlan session.request.contract) state serviceAccountUID)
      (Outcome honest session.request) (Outcome honest session.request) log := by
  let opened := session.complete "kv-v2-mount-ready"
  let mounted := opened.complete "dedicated-auth-mount-ready"
  let policed := mounted.complete "acl-policy-ready"
  let assigned := policed.complete "workload-role-ready"
  let seeded := assigned.complete "kv-v2-seed-ready"
  unfold mutationStages
  refine wpExit_then (kvMountStage_spec sound session accepted managed prepared) ?_
  intro mutations first kvReady
  refine wpExit_then (authMountStage_spec sound opened accepted managed kvReady) ?_
  intro mutations second mountReady
  refine wpExit_then (policyStage_spec sound mounted accepted managed prepared.valid (by decide)
    mountReady) ?_
  intro mutations third policyReady
  refine wpExit_then (roleStage_spec sound policed accepted managed prepared.valid (by decide)
    policyReady) ?_
  intro mutations fourth roleReady
  refine wpExit_then (seedStage_spec sound assigned accepted managed prepared.valid (by decide)
    roleReady) ?_
  intro mutations fifth seedReady
  exact (wpExit_lift _).mpr
    (concludeStage_spec sound seeded accepted managed serviceAccountUID (by decide) seedReady)

theorem applyStages_spec (serviceAccountUID : String)
    (calm : Calm session.request token log) (unlooked : Unlooked session.request log) :
    wpExit (recording admits) (applyStages session serviceAccountUID)
      (Outcome honest session.request) (Outcome honest session.request) log := by
  unfold applyStages
  generalize privileged : session.complete "management-token-least-privilege" = started
  have request : started.request = session.request := by rw [← privileged, Session.complete_request]
  have token : started.token = session.token := by rw [← privileged, Session.complete_token]
  refine wpExit_then (privilegeStage_spec session accepted managed calm unlooked) ?_
  intro _ first looked
  rw [← request] at accepted looked ⊢
  rw [← token] at managed
  dsimp only
  rw [preStateStage_eq accepted.contract]
  refine wpExit_then (captureStage_spec started accepted managed looked.1 looked.2) ?_
  rintro ⟨_, state, _⟩ second ⟨rfl, rfl, prepared⟩
  exact mutationStages_spec sound
    ((started.complete "complete-prestate-captured").complete "prestate-allows-mutation")
    accepted managed serviceAccountUID prepared

end Objects

/-! ## Before the management token -/

section Start

theorem distinctAccounts_uses (workload : WorkloadIdentity) (identities : List WorkloadIdentity)
    (seenUIDs : List String) (positiveUID : String) :
    (distinctAccounts workload identities seenUIDs positiveUID).Uses (·.idle = true) := by
  induction identities generalizing seenUIDs positiveUID with
  | nil => exact uses_pure _
  | cons identity identities ih =>
    refine uses_bind ((uses_request _).mpr rfl) fun | .error _ => trivial | .ok uid => ?_
    dsimp only
    split
    · exact uses_pure _
    · exact ih _ _

theorem reviewAll_uses (expected : Bool) (accesses : List ResourceAccess) :
    (reviewAll expected accesses).Uses (·.idle = true) := by
  induction accesses with
  | nil => exact uses_pure _
  | cons access accesses ih =>
    refine uses_bind ((uses_request _).mpr rfl) fun | .error _ => trivial | .ok allowed => ?_
    dsimp only
    split
    · exact uses_pure _
    · exact ih

theorem verifyKubernetesBoundary_uses (request : Request) :
    (verifyKubernetesBoundary request).Uses (·.idle = true) := by
  refine uses_bind ((uses_request _).mpr rfl) fun | .error _ => trivial | .ok subject => ?_
  dsimp only
  split
  · exact uses_pure _
  refine uses_bind ((uses_request _).mpr rfl) fun | .error _ => trivial | .ok uid => ?_
  dsimp only
  split
  · exact uses_pure _
  refine uses_bind (distinctAccounts_uses _ _ _ _) fun | none => trivial | some positive => ?_
  refine uses_bind (reviewAll_uses _ _) fun | false => trivial | true => ?_
  exact uses_bind (reviewAll_uses _ _) fun | false => trivial | true => uses_pure _

theorem acquireLease_uses (request : Request) (target : LeaseTarget) :
    (acquireLease target).Uses (·.closing request = true) := by
  refine uses_bind ((uses_request _).mpr rfl) fun | .error _ => trivial | .ok current => ?_
  dsimp only
  split
  · exact uses_pure _
  refine uses_bind ((uses_request _).mpr rfl) fun now => ?_
  refine uses_bind ((uses_request _).mpr rfl) fun | .error _ => trivial | .ok updated => ?_
  dsimp only
  split
  · exact uses_pure _
  · exact uses_bind ((uses_request _).mpr rfl) fun _ => uses_pure _

variable {admits : Admits} {honest : Prop} {request : Request} {log later : History}

theorem acquireLease_spec (request : Request) (target : LeaseTarget)
    (untouched : leaseMark log = .untouched) :
    (acquireLease target).wp (recording admits) (fun result later =>
      Extends (fun call => call.closing request = true) log later ∧
      (LeaseHonest later → result = .error false → leaseMark later = .untouched)) log := by
  refine wp_and (wp_extends (acquireLease_uses request target)) ?_
  refine wp_asked fun answer _ _ => ?_
  rcases answer with _ | current
  · exact fun _ _ => untouched
  have read : ∀ noticed, leaseMark
      (⟨.getLease target, .ok current, noticed⟩ :: log) = .untouched := by
    intro noticed
    simp [leaseMark, untouched]
  dsimp only
  split
  · exact fun _ _ => read _
  refine wp_asked fun now _ _ => ?_
  refine wp_asked fun answer effective _ => ?_
  rcases answer with failure | updated
  · intro honest definite
    have rejected : definitelyRejected (.error failure : Answer Lease) = true := by
      have same := Except.error.inj definite
      simpa using same
    obtain rfl : effective = false := honest _ _ _ _ (List.mem_cons_self) rejected
    exact read false
  · dsimp only
    split
    · rintro - ⟨⟩
    · refine wp_asked fun _ _ _ => ?_
      rintro - ⟨⟩

variable [TimeFormat]

structure Pristine (request : Request) (log : History) : Prop where
  justified : Justified request log
  unsent : ∀ target ∈ targets, answers (request.at target) log = []
  tokens : outstanding request log = []
  unproven : proven log = false
  unlooked : Unlooked request log

theorem Pristine.kept (accepted : request.Accepted)
    (extension : Extends (fun call => call.closing request = true) log later)
    (pristine : Pristine request log) : Pristine request later where
  justified := pristine.justified.kept (extension.mono fun _ closes =>
    Call.sparing_of_ending (Call.ending_of_closing closes))
  unsent target member := by
    rw [answers_kept accepted (extension.mono fun _ closes =>
      Call.sparing_of_ending (Call.ending_of_closing closes)) member]
    exact pristine.unsent target member
  tokens := by
    rw [outstanding_kept (extension.mono fun _ => Call.tokenless_of_closing)]
    exact pristine.tokens
  unproven := by
    rw [proven_kept (extension.mono fun _ => Call.tokenless_of_closing)]
    exact pristine.unproven
  unlooked := by
    refine Extends.carries (Unlooked request) (fun event before closes unlooked => ?_) extension
      pristine.unlooked
    refine unlooked.cons fun place _ credential reads => ?_
    have unreading := Call.unreading_of_ending (Call.ending_of_closing closes)
    rw [reads] at unreading
    exact absurd unreading nofun

theorem Pristine.unwritten (pristine : Pristine request log) : ¬ AnyWritten request log := by
  rintro ⟨target, member, effective⟩
  exact absurd ((written_of_unsent (pristine.unsent target member)).symm.trans effective) nofun

theorem Pristine.counted (pristine : Pristine request log) : Counted honest request false log :=
  .covered (fun _ => not_exposed_of_unwritten pristine.unwritten) fun _ _ => pristine.unwritten

theorem Pristine.blocked {gate : String} {completed : List String}
    (pristine : Pristine request log) (free : LeaseHonest log → LeaseFree log) :
    Outcome honest request (fixedReport .blockedPreflight false false gate completed) log where
  justified := pristine.justified
  counted := pristine.counted
  blocked _ _ := ⟨pristine.unwritten, pristine.tokens, free⟩
  rolledBack _ := nofun
  applied _ := nofun

theorem Pristine.refused {wrapping : List UInt8} {failure : Failure} {effective : Bool}
    (pristine : Pristine request log) :
    Pristine request (⟨.unwrap wrapping, .error failure, effective⟩ :: log) where
  justified := pristine.justified.cons nofun
  unsent := pristine.unsent
  tokens := pristine.tokens
  unproven := pristine.unproven
  unlooked := pristine.unlooked.cons nofun

theorem Pristine.unwrapped {wrapping : List UInt8} {token : String} {effective : Bool}
    (pristine : Pristine request log) :
    Calm request token (⟨.unwrap wrapping, .ok token, effective⟩ :: log) where
  justified := pristine.justified.cons nofun
  unsent := pristine.unsent
  held := by simp [Held, outstanding, pristine.tokens]
  unproven := pristine.unproven

theorem execute_spec
    (sound : HonestIf honest admits)
    (accepted : request.Accepted) :
    (execute request).wp (recording admits) (Outcome honest request) [] := by
  have start : Pristine request [] :=
    ⟨trivial, fun _ _ => rfl, rfl, rfl, fun _ _ => rfl, rfl⟩
  unfold execute
  refine wp_asked fun answer noticed _ => ?_
  have asked : Extends (fun call => call.idle = true) []
      [(⟨.health, answer, noticed⟩ : Event Reply)] := (Extends.refl _ _).cons rfl
  have pristine := start.kept accepted (asked.mono fun _ => Call.closing_of_idle request)
  cases answer with
  | error failure => exact pristine.blocked fun _ => .inl rfl
  | ok =>
    refine wp_then (wp_extends (verifyKubernetesBoundary_uses request)) ?_
    intro boundary first idle
    have pristine := pristine.kept accepted (idle.mono fun _ => Call.closing_of_idle request)
    have untouched : leaseMark first = .untouched :=
      leaseMark_kept ((asked.trans idle).mono fun _ => Call.quiet_of_idle)
    cases boundary with
    | none => exact pristine.blocked fun _ => .inl untouched
    | some serviceAccountUID =>
      refine wp_then (acquireLease_spec request request.lease untouched) fun
        | .error true, second, ⟨closing, _⟩ => ?_
        | .error false, second, ⟨closing, free⟩ => ?_
        | .ok (), second, ⟨closing, _⟩ => ?_
      · have pristine := pristine.kept accepted closing
        exact .held pristine.justified pristine.counted
      · exact (pristine.kept accepted closing).blocked fun lease => .inl (free lease rfl)
      · have pristine := pristine.kept accepted closing
        refine wp_asked fun
          | .error failure, _, _ => ?_
          | .ok token, _, _ => ?_
        · dsimp only
          split
          · exact releaseBlocked_spec accepted _ pristine.refused.justified fun _ =>
              ⟨pristine.unwritten, pristine.tokens⟩
          · exact abandonWith_spec accepted pristine.refused.justified pristine.refused.counted
        · exact wp_finish (applyStages_spec sound _ accepted rfl _ pristine.unwrapped
            (pristine.unlooked.cons nofun))

end Start

end CloudRing.OpenBaoApply
