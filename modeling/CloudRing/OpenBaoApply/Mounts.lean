import CloudRing.OpenBaoApply.Creation

/-!
# The two mounts

The stages that create the KV-v2 mount and the auth mount with its configuration.
-/

namespace CloudRing.OpenBaoApply

open Library Library.Program OpenBaoAuth
open OpenBaoBootstrap (Place)

section Unclear

variable {request : Request} {attempt : Attempt} {log : History}

theorem Attempt.Unclear.kvMount (unclear : attempt.Unclear) (accepted : request.Accepted)
    (place : attempt.place = .kvMount) (readback : attempt.readback = .kvMount) :
    ¬ Exposed request (attempt.after request log) := by
  intro exposed
  obtain ⟨_, answer, -, read, owned⟩ := exposed.owned
  rw [← readback, Attempt.lastRead_after] at read
  obtain rfl := Option.some.inj read
  have answered := exposed.answered attempt.answer
  rw [Attempt.answers_after accepted, if_pos place.symm] at answered
  cases reading : attempt.reading with
  | error failure =>
    rw [reading] at owned
    exact absurd owned nofun
  | ok current =>
    rw [reading] at owned
    have exact : exactKVV2Mount current = true := ((Bool.and_eq_true _ _).mp owned).1
    have failed := (unclear current reading).1 (exactKVV2Mount_found exact)
    exact absurd (failed.symm.trans (answered (by simp))) nofun

theorem Attempt.Unclear.authMount (unclear : attempt.Unclear) (accepted : request.Accepted)
    (place : attempt.place = .authMount) (readback : attempt.readback = .authMount) :
    ¬ Exposed request (attempt.after request log) := by
  intro exposed
  have refused := exposed.refused attempt.answer
  rw [Attempt.answers_after accepted, if_pos place.symm, ← readback,
    Attempt.lastRead_after] at refused
  obtain ⟨rejected, current, read, absent⟩ := refused (by simp)
  have accepting := (unclear current (Option.some.inj read)).2 absent
  exact absurd (accepting.symm.trans rejected) nofun

theorem Attempt.Made.sent {result current : ReadResult} (made : attempt.Made result current)
    (log : History) (accepted : request.Accepted) (place : attempt.place = .authMount) :
    MountSent request (attempt.after request log) := by
  refine ⟨.ok result, ?_, rfl⟩
  rw [Attempt.answers_after accepted, if_pos place.symm, made.answer]
  exact List.mem_cons_self

end Unclear

section Opened

variable [TimeFormat] {admits : Admits} {honest : Prop} {request : Request} {token : String}
  {mutations : MutationState} {log later : History}

structure Opened (honest : Prop) (request : Request) (token : String)
    (mutations : MutationState) (log : History) : Prop where
  progress : Progress honest request mutations log
  held : honest → Held request (· = some token) log
  alone : mutations.mutated = mutations.kvMountCreated
  created : honest → mutations.kvMountCreated = true → KVCreated request mutations log

theorem Opened.kept (accepted : request.Accepted)
    (extension : Extends (fun call => call.quiet = true) log later)
    (opened : Opened honest request token mutations log) :
    Opened honest request token mutations later where
  progress := opened.progress.kept accepted
    (extension.mono fun _ => Call.sparing_of_quiet request)
  held honestly := by
    rw [Held, outstanding_kept (extension.mono fun _ => Call.tokenless_of_quiet)]
    exact opened.held honestly
  alone := opened.alone
  created honestly made := (opened.created honestly made).kept accepted extension

theorem Opened.blocked {gate : String} (session : Session) (accepted : session.request.Accepted)
    (managed : session.token = .management token)
    (opened : Opened honest session.request token mutations log)
    (refused : honest → Refused session.request log) :
    (blockAfterManagement session mutations gate).wp (recording admits)
      (Outcome honest session.request) log := by
  cases made : mutations.kvMountCreated with
  | false =>
    exact blockAfterManagement_fresh accepted managed made opened.progress.justified
      (fun honestly => opened.progress.unwritten honestly (opened.alone.trans made)) opened.held
  | true =>
    exact blockAfterManagement_created accepted managed made opened.progress.justified
      (fun honestly => opened.created honestly made) refused

def LastOwned (request : Request) (mutations : MutationState) (log : History) : Prop :=
  ∃ answer, lastRead (request.at .kvMount) log = some answer ∧
    ownedKVMount answer mutations.kvMountUUID mutations.kvMountAccessor = true

theorem Opened.lost (session : Session) (accepted : session.request.Accepted)
    (opened : Opened honest session.request token mutations log)
    (unsent : answers (session.request.at .authMount) log = [])
    (owned : mutations.kvMountCreated = true → LastOwned session.request mutations log) :
    (leaseLost session).wp (recording admits) (Outcome honest session.request) log := by
  refine abandonWith_spec accepted opened.progress.justified fun honestly => ⟨nofun, ?_⟩
  intro _ effective
  cases made : mutations.kvMountCreated with
  | false =>
    exact absurd effective (opened.progress.unwritten honestly (opened.alone.trans made))
  | true =>
    -- The lease was lost between the two mounts, and the report does not say so.
    obtain ⟨answer, read, recognised⟩ := owned made
    have created := opened.created honestly made
    have refused : Refused session.request log := by
      intro answer member
      rw [unsent] at member
      exact absurd member (List.not_mem_nil)
    exact ⟨created.exposed effective refused read recognised, created.unproven⟩

end Opened

/-! ## The KV-v2 mount -/

section KVMount

variable [TimeFormat] {admits : Admits} {honest : Prop} {session : Session} {request : Request}
  {token : String} {state : PreState} {mutations : MutationState} {log : History}

structure KVReady (honest : Prop) (request : Request) (token : String) (state : PreState)
    (mutations : MutationState) (log : History) : Prop where
  opened : Opened honest request token mutations log
  owned : mutations.kvMountCreated = true → LastOwned request mutations log
  first : CapturedFirst request state log
  standing : Standing request .kvMount log
  whole : state.mount.found = true →
    mutations.mutated = false ∧ ∀ target ∈ targets, Standing request target log
  unsent : answers (request.at .authMount) log = []

theorem Prepared.standing (prepared : Prepared request token state log)
    (mounted : state.mount.found = true) : ∀ target ∈ targets, Standing request target log := by
  obtain ⟨mount, config, policy, role, metadata, createdAt, seed⟩ :=
    prepared.valid.present mounted
  have captured := prepared.captured
  have kvMount := prepared.valid.kvMount (prepared.valid.mounts mounted)
  simp only [targets, List.forall_mem_cons]
  exact ⟨⟨_, captured.kvMount, kvMount⟩, ⟨_, captured.mount, mount⟩, ⟨_, captured.config, config⟩,
    ⟨_, captured.policy, policy⟩, ⟨_, captured.role, role⟩,
    ⟨_, _, createdAt, captured.metadata, captured.seed metadata, seed⟩, by simp⟩

theorem Prepared.kvReady (prepared : Prepared request token state log)
    (found : state.kvMount.found = true) : KVReady honest request token state {} log where
  opened := ⟨prepared.calm.progress, fun _ => prepared.calm.held, rfl, fun _ => nofun⟩
  owned := nofun
  first := prepared.first
  standing := ⟨_, prepared.captured.kvMount, prepared.valid.kvMount found⟩
  whole mounted := ⟨rfl, prepared.standing mounted⟩
  unsent := prepared.calm.unsent .authMount (by decide)

theorem Attempt.Made.kvReady {attempt : Attempt} {result mount : ReadResult}
    (made : attempt.Made result mount) (accepted : request.Accepted)
    (place : attempt.place = .kvMount) (readback : attempt.readback = .kvMount)
    (calm : Calm request token log) (first : CapturedFirst request state log)
    (unfound : firstFound (request.at .kvMount) log = none)
    (unmounted : state.mount.found = false) (exact : exactKVV2Mount mount = true) :
    KVReady honest request token state
      { kvMountCreated := true
        kvMountUUID := textValue mount.fields "uuid"
        kvMountAccessor := textValue mount.fields "accessor"
        mutated := true } (attempt.after request log) := by
  have target : attempt.place ∈ targets := by
    rw [place]
    decide
  have answersNow : answers (request.at .kvMount) (attempt.after request log) = [.ok result] := by
    rw [Attempt.answers_after accepted, if_pos place.symm, calm.unsent .kvMount (by decide),
      made.answer]
  have foundNow : firstFound (request.at .kvMount) (attempt.after request log) = some mount := by
    rw [← readback] at unfound ⊢
    exact Attempt.firstFound_after made.reading made.found unfound
  have readNow : lastRead (request.at .kvMount) (attempt.after request log) =
      some (.ok mount) := by
    rw [← readback, Attempt.lastRead_after, made.reading]
  have created : KVCreated request
      { kvMountCreated := true
        kvMountUUID := textValue mount.fields "uuid"
        kvMountAccessor := textValue mount.fields "accessor"
        mutated := true } (attempt.after request log) := by
    refine ⟨by simp [answersNow, Except.isOk, Except.toBool], ⟨mount, foundNow, rfl, rfl⟩, ?_,
      Attempt.proven_after.trans calm.unproven⟩
    rintro ⟨other, member, effective⟩
    rcases Attempt.written_after accepted effective with ⟨here, -⟩ | earlier
    · rwa [here, place] at effective
    · exact absurd ⟨other, member, earlier⟩ calm.unwritten
  refine ⟨⟨?_, fun _ => Attempt.held_after accepted target calm.held, rfl, fun _ _ => created⟩,
    fun _ => ⟨.ok mount, readNow, by simp [ownedKVMount, sameMount, exact]⟩,
    first.kept (attempt.extends request log), ?_, ?_, ?_⟩
  · refine calm.progress.advance accepted (fun other _ => ?_) rfl (fun _ _ => ?_)
      (forall_removable.mpr (by simp [MutationState.created])) (by simp)
    · cases other <;> rintro ⟨⟩
    · rw [place]
      rfl
  · have seen := Attempt.seen_after request log made.reading
    rw [readback] at seen
    exact ⟨mount, seen, exact⟩
  · exact fun mounted => absurd (unmounted.symm.trans mounted) Bool.false_ne_true
  · rw [Attempt.answers_after accepted, if_neg (by rw [place]; decide)]
    exact calm.unsent .authMount (by decide)

variable (sound : HonestIf honest admits)

include sound

theorem kvMountStage_spec (session : Session) (accepted : session.request.Accepted)
    (managed : session.token = .management token)
    (prepared : Prepared session.request token state log) :
    wpExit (recording admits)
      (kvMountStage session (desiredPlan session.request.contract) state)
      (fun mutations later => KVReady honest session.request token state mutations later)
      (Outcome honest session.request) log := by
  unfold kvMountStage
  simp only [kvMountPath_eq]
  cases found : state.kvMount.found with
  | true => exact prepared.kvReady found
  | false =>
    have unmounted : state.mount.found = false := by
      by_contra mounted
      exact absurd (found.symm.trans (prepared.valid.mounts (by simpa using mounted))) nofun
    simp only [Bool.false_eq_true, if_false]
    refine wpExit_run (wp_extends healthy_uses) fun live first idle => ?_
    have calm := prepared.calm.kept accepted (idle.mono fun _ => Call.quiet_of_idle)
    refine wpExit_unless (fun _ => abandonWith_spec accepted calm.justified calm.counted)
      fun _ => ?_
    refine wpExit_run (wp_and (wp_extends (completePreStateUnchanged_uses session state))
      (completePreStateUnchanged_spec session accepted state)) fun
        unchanged second ⟨looked, unfound⟩ => ?_
    have quiet := looked.mono fun _ => Call.quiet_of_observes
    have calmSecond := calm.kept accepted quiet
    refine wpExit_unless (fun _ => calmSecond.blocked session accepted managed) fun same => ?_
    have unfoundSecond := unfound same found (by
      rw [firstFound_same (idle.mono fun _ idly => ((Bool.and_eq_true _ _).mp idly).2)]
      exact prepared.unfound found)
    refine wpExit_then (createObject_spec (fun attempt place readback unclear => ?_)
      fun attempt place readback refused admitted => ?_) fun
        ⟨result, mount⟩ _ ⟨attempt, place, readback, made, later⟩ => ?_
    · exact holdForManualInspection_spec accepted
        (Attempt.justified_after calmSecond.justified)
        (fun _ => unclear.kvMount accepted place readback) fun _ => nofun
    · have progress := calmSecond.progress.refused sound accepted refused admitted
      have target : attempt.place ∈ targets := by
        rw [place]
        decide
      exact blockAfterManagement_fresh accepted managed rfl progress.justified
        (fun honestly => progress.unwritten honestly rfl)
        fun _ => Attempt.held_after accepted target calmSecond.held
    · subst later
      refine wpExit_unless (fun drifted => ?_) fun exact => ?_
      · refine holdForManualInspection_spec accepted
          (Attempt.justified_after calmSecond.justified) (fun _ exposed => ?_) fun _ => nofun
        obtain ⟨_, answer, -, read, owned⟩ := exposed.owned
        rw [← readback, Attempt.lastRead_after, made.reading] at read
        obtain rfl := Option.some.inj read
        have exactly : exactKVV2Mount mount = true := ((Bool.and_eq_true _ _).mp owned).1
        exact absurd (drifted.symm.trans exactly) nofun
      · exact made.kvReady accepted place readback calmSecond
          ((prepared.first.kept idle).kept looked) unfoundSecond unmounted exact

end KVMount

/-! ## The auth mount -/

section AuthMount

variable [TimeFormat] {admits : Admits} {honest : Prop} {session : Session} {request : Request}
  {token : String} {state : PreState} {mutations after : MutationState} {places : List Place}
  {attempt : Attempt} {log later : History}

structure Ready (honest : Prop) (request : Request) (token : String) (state : PreState)
    (mutations : MutationState) (places : List Place) (log : History) : Prop where
  mounted : Mounted honest request mutations log
  held : honest → Held request (· = some token) log
  first : CapturedFirst request state log
  standing : ∀ place ∈ places, Standing request place log
  whole : state.mount.found = true → ∀ target ∈ targets, Standing request target log
  made : state.mount.found = false → mutations.mountCreated = true

theorem Ready.kept (accepted : request.Accepted)
    (extension : Extends (fun call => call.quiet = true) log later)
    (ready : Ready honest request token state mutations places log) :
    Ready honest request token state mutations places later where
  mounted := ready.mounted.kept accepted (extension.mono fun _ => Call.sparing_of_quiet request)
  held honestly := by
    rw [Held, outstanding_kept (extension.mono fun _ => Call.tokenless_of_quiet)]
    exact ready.held honestly
  first := ready.first.kept extension
  standing place member := (ready.standing place member).kept accepted
    (extension.mono fun _ => Call.sparing_of_quiet request)
  whole mounted target member := (ready.whole mounted target member).kept accepted
    (extension.mono fun _ => Call.sparing_of_quiet request)
  made := ready.made

theorem Ready.asks {call : Call} (accepted : request.Accepted) (quiet : call.quiet = true)
    (ready : Ready honest request token state mutations places log) :
    (ask call).wp (recording admits)
      (fun _ later => Ready honest request token state mutations places later) log :=
  wp_recorded.mpr fun _ _ _ => ready.kept accepted ((Extends.refl _ log).cons quiet)

theorem Ready.add (place : Place) (ready : Ready honest request token state mutations places log)
    (standing : Standing request place log) :
    Ready honest request token state mutations (place :: places) log :=
  { ready with standing := List.forall_mem_cons.mpr ⟨standing, ready.standing⟩ }

theorem Ready.advance (accepted : request.Accepted)
    (ready : Ready honest request token state mutations places log)
    (target : attempt.place ∈ targets)
    (untouched : ∀ place ∈ places, touches attempt.place place = false ∧ place ≠ .data)
    (unmounted : state.mount.found = false)
    (progress : Progress honest request after (attempt.after request log))
    (mounted : after.mountCreated = true) :
    Ready honest request token state after places (attempt.after request log) where
  mounted := ⟨progress, fun _ => mounted⟩
  held honestly := Attempt.held_after accepted target (ready.held honestly)
  first := ready.first.kept (attempt.extends request log)
  standing place member := by
    obtain ⟨apart, notSeed⟩ := untouched place member
    exact Attempt.standing_after accepted apart (fun seed => absurd seed notSeed)
      (ready.standing place member)
  whole found := absurd (unmounted.symm.trans found) nofun
  made _ := mounted

theorem Mounted.hold {gate : String} {allowed : Call → Prop}
    (accepted : session.request.Accepted)
    (mounted : Mounted honest session.request mutations log)
    (made : mutations.mountCreated = true) (extension : Extends allowed log later)
    (justified : Justified session.request later) :
    (holdForManualInspection session mutations gate true).wp (recording admits)
      (Outcome honest session.request) later :=
  holdForManualInspection_spec accepted justified
    (fun _ => not_exposed_of_sent ((mounted.progress.sent made).kept extension)) fun _ => by simp

theorem Opened.mount {result mount : ReadResult} (accepted : request.Accepted)
    (opened : Opened honest request token mutations log) (made : attempt.Made result mount)
    (place : attempt.place = .authMount) (readback : attempt.readback = .authMount)
    (first : CapturedFirst request state log) (unmounted : state.mount.found = false)
    (exact : exactAt request .authMount mount = true)
    (standing : Standing request .kvMount log) :
    Ready honest request token state
      { mutations with
        mountCreated := true
        mountUUID := textValue mount.fields "uuid"
        mountAccessor := textValue mount.fields "accessor"
        mutated := true } [.authMount, .kvMount] (attempt.after request log) := by
  obtain ⟨⟩ := attempt
  obtain rfl := place
  obtain rfl := readback
  have fresh := made.fresh rfl first.mount unmounted exact
  refine ⟨⟨?_, fun _ => rfl⟩,
    fun honestly => Attempt.held_after accepted (by simp [targets]) (opened.held honestly),
    first.kept (Attempt.extends _ request log), ?_, fun mounted => ?_, fun _ => rfl⟩
  · refine opened.progress.advance accepted (fun other _ => ?_) ?_ (fun _ _ => ?_)
      (forall_removable.mpr ⟨fun _ => ⟨mount, fresh, by simp [recordedAs, sameMount]⟩, ?_, ?_⟩)
      fun _ => made.sent log accepted rfl
    · cases other <;> simp [MutationState.created]
    · simp [targets, MutationState.created]
    · rfl
    · exact opened.progress.records _ .policy (by decide) fun _ => rfl
    · exact opened.progress.records _ .role (by decide) fun _ => rfl
  · simp only [List.forall_mem_cons]
    exact ⟨⟨mount, Attempt.seen_after _ log made.reading, exact⟩,
      Attempt.standing_after accepted rfl (fun _ => rfl) standing, by simp⟩
  · exact absurd (unmounted.symm.trans mounted) Bool.false_ne_true

variable (sound : HonestIf honest admits)

include sound

theorem createMounted_spec {object : String} {place readback : Place} {body : Json}
    (accepted : session.request.Accepted) (managed : session.token = .management token)
    (target : place ∈ targets) (mounted : Mounted honest session.request mutations log)
    (made : mutations.mountCreated = true)
    (held : honest → Held session.request (· = some token) log) :
    wpExit (recording admits)
      (createObject session mutations object (session.request.at place)
        (session.request.at readback) body
        (failAfterMutation session (desiredPlan session.request.contract) mutations))
      (Attempted session.request place readback log) (Outcome honest session.request) log := by
  refine createObject_spec (fun attempt _ _ _ => ?_) fun attempt here _ refused admitted => ?_
  · exact mounted.hold accepted made (attempt.extends _ log)
      (Attempt.justified_after mounted.progress.justified)
  · refine failAfterMutationWithCleanup_spec accepted managed
      ⟨mounted.progress.refused sound accepted refused admitted, mounted.mounted⟩ ?_
    exact fun honestly _ => Attempt.held_after accepted (here ▸ target) (held honestly)

theorem configStage_spec (accepted : session.request.Accepted)
    (managed : session.token = .management token) (unmounted : state.mount.found = false)
    (ready : Ready honest session.request token state mutations [.authMount, .kvMount] log) :
    wpExit (recording admits)
      (configStage session (desiredPlan session.request.contract) mutations)
      (fun _ later => Ready honest session.request token state mutations
        [.authConfig, .authMount, .kvMount] later)
      (Outcome honest session.request) log := by
  have made := ready.made unmounted
  unfold configStage
  simp only [configPath_eq, rolesPath_eq]
  refine wpExit_run (ready.asks accepted rfl) fun config first readyFirst => ?_
  refine wpExit_run (readyFirst.asks accepted rfl) fun roles second readySecond => ?_
  refine wpExit_unless (fun _ => ?_) fun _ => ?_
  · exact failAfterMutationWithCleanup_spec accepted managed readySecond.mounted
      fun honestly _ => readySecond.held honestly
  refine wpExit_then (createMounted_spec sound accepted managed (by decide) readySecond.mounted
    made readySecond.held) fun
      ⟨result, written⟩ _ ⟨attempt, place, readback, success, later⟩ => ?_
  subst later
  refine (wpExit_require _ _).mpr ⟨fun exact => ?_, fun _ => ?_⟩
  · have progress : Progress honest session.request mutations
        (attempt.after session.request second) :=
      readySecond.mounted.progress.unchanged accepted fun _ _ => by rwa [place]
    have seen := Attempt.seen_after session.request second success.reading
    rw [readback] at seen
    exact (readySecond.advance accepted (by rw [place]; decide) (by rw [place]; decide) unmounted
      progress made).add .authConfig ⟨written, seen, exact⟩
  · exact readySecond.mounted.hold accepted made (attempt.extends _ second)
      (Attempt.justified_after readySecond.mounted.progress.justified)

theorem Opened.refused (accepted : request.Accepted)
    (opened : Opened honest request token mutations log) (place : attempt.place = .authMount)
    (refused : attempt.Refused)
    (admitted : admits (.write attempt.token (request.at attempt.place) attempt.body)
      attempt.answer attempt.effective) :
    Opened honest request token mutations (attempt.after request log) where
  progress := opened.progress.refused sound accepted refused admitted
  held honestly := Attempt.held_after accepted (by rw [place]; decide) (opened.held honestly)
  alone := opened.alone
  created honestly made := by
    have before := opened.created honestly made
    have ineffective := (sound honestly _ _ _ admitted).2 refused.rejected
    refine ⟨?_, ?_, ?_, Attempt.proven_after.trans before.unproven⟩
    · rw [Attempt.answers_after accepted, if_neg (by rw [place]; decide)]
      exact before.answered
    · obtain ⟨first, found, recorded⟩ := before.found
      exact ⟨first, firstFound_kept (attempt.extends request log) found, recorded⟩
    · rintro ⟨target, member, effective⟩
      rcases Attempt.written_after accepted effective with ⟨-, done⟩ | earlier
      · exact absurd (ineffective.symm.trans done) nofun
      · exact Attempt.written_before (before.only ⟨target, member, earlier⟩)

theorem authMountStage_spec (session : Session) (accepted : session.request.Accepted)
    (managed : session.token = .management token)
    (ready : KVReady honest session.request token state mutations log) :
    wpExit (recording admits)
      (authMountStage session (desiredPlan session.request.contract) state mutations)
      (fun mutations later => Ready honest session.request token state mutations
        [.authConfig, .authMount, .kvMount] later)
      (Outcome honest session.request) log := by
  unfold authMountStage
  simp only [mountPath_eq]
  cases found : state.mount.found with
  | true =>
    obtain ⟨unset, standing⟩ := ready.whole found
    refine ⟨⟨ready.opened.progress, fun set => absurd (unset.symm.trans set) nofun⟩,
      ready.opened.held, ready.first, ?_, fun _ => standing, fun missing => ?_⟩
    · intro place member
      refine standing place ?_
      revert place
      decide
    · exact absurd (found.symm.trans missing) nofun
  | false =>
    simp only [Bool.false_eq_true, if_false]
    refine wpExit_run (wp_extends healthy_uses) fun live first idle => ?_
    have quietFirst := idle.mono fun _ => Call.quiet_of_idle
    have openedFirst := ready.opened.kept accepted quietFirst
    have unsentFirst : answers (session.request.at .authMount) first = [] := by
      rw [answers_kept accepted (quietFirst.mono fun _ => Call.sparing_of_quiet session.request)
        (by decide)]
      exact ready.unsent
    refine wpExit_unless (fun _ => ?_) fun _ => ?_
    · refine openedFirst.lost session accepted unsentFirst fun made => ?_
      rw [LastOwned, lastRead_kept (idle.mono fun _ idly => ((Bool.and_eq_true _ _).mp idly).2)]
      exact ready.owned made
    refine wpExit_run (wp_extends (mountPrestateStillAbsent_uses session)) fun
      absent second looked => ?_
    have quietSecond := looked.mono fun _ => Call.quiet_of_observes
    have openedSecond := openedFirst.kept accepted quietSecond
    have unsentSecond : answers (session.request.at .authMount) second = [] := by
      rw [answers_kept accepted (quietSecond.mono fun _ => Call.sparing_of_quiet session.request)
        (by decide)]
      exact unsentFirst
    refine wpExit_unless (fun _ => ?_) fun _ => ?_
    · refine openedSecond.blocked session accepted managed fun _ answer member => ?_
      rw [unsentSecond] at member
      exact absurd member List.not_mem_nil
    refine wpExit_then (createObject_spec (fun attempt place readback unclear => ?_)
      fun attempt place readback refused admitted => ?_) fun
        ⟨result, mount⟩ _ ⟨attempt, place, readback, made, later⟩ => ?_
    · exact holdForManualInspection_spec accepted
        (Attempt.justified_after openedSecond.progress.justified)
        (fun _ => unclear.authMount accepted place readback) fun _ => by simp
    · refine (openedSecond.refused sound accepted place refused admitted).blocked session accepted
        managed fun _ answer member => ?_
      rw [Attempt.answers_after accepted, if_pos place.symm, unsentSecond,
        List.mem_singleton] at member
      obtain ⟨current, reading, absent⟩ := refused.absent
      refine ⟨member ▸ refused.rejected, current, ?_, absent⟩
      rw [← readback, Attempt.lastRead_after, reading]
    · subst later
      have sent := made.sent second accepted place
      have hold : ∀ gate, (holdForManualInspection session mutations gate true).wp
          (recording admits) (Outcome honest session.request)
          (attempt.after session.request second) := fun gate =>
        holdForManualInspection_spec accepted
          (Attempt.justified_after openedSecond.progress.justified)
          (fun _ => not_exposed_of_sent sent) fun _ => by simp
      refine wpExit_unless (fun _ => hold _) fun exact => ?_
      refine wpExit_unless (fun _ => hold _) fun _ => ?_
      have standing := ((ready.standing.kept accepted
        (quietFirst.mono fun _ => Call.sparing_of_quiet session.request)).kept accepted
          (quietSecond.mono fun _ => Call.sparing_of_quiet session.request))
      refine wpExit_then (configStage_spec sound accepted managed found
        (openedSecond.mount accepted made place readback ((ready.first.kept idle).kept looked)
          found exact standing)) fun _ last complete => complete

end AuthMount

end CloudRing.OpenBaoApply
