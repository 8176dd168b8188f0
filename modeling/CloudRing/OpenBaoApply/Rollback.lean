import CloudRing.OpenBaoApply.Endings

/-!
# Rollback

A rollback deletes only what this run created where it had found nothing, after a last look at it,
and reports success only after each deleted object was read back absent.
-/

namespace CloudRing.OpenBaoApply

open Library Library.Program OpenBaoAuth
open OpenBaoBootstrap (Place)

section Deletions

variable [TimeFormat] {admits : Admits} {request : Request} {token : Credential} {log : History}

def Removes (request : Request) (place : Place) (log : History) (removed : Bool)
    (later : History) : Prop :=
  Extends (fun call => call.undoing = true) log later ∧ Justified request later ∧
    (removed = true → Gone (request.at place) later)

theorem look_spec (accepted : request.Accepted) (place : Place) {middle : History}
    (extension : Extends (fun call => call.undoing = true) log middle)
    (justified : Justified request middle) :
    (ask (.read token (request.at place))).wp (recording admits) (fun answer later =>
      Extends (fun call => call.undoing = true) log later ∧ Justified request later ∧
      lastRead (request.at place) later = some answer ∧
      ∀ other ≠ place, lastRead (request.at other) later = lastRead (request.at other) middle)
      middle := by
  refine wp_recorded.mpr fun answer effective _ => ?_
  refine ⟨extension.cons rfl, justified.cons nofun, by simp [lastRead, Event.reads], ?_⟩
  intro other different
  simp [lastRead, Event.reads, accepted.at_inj, different.symm]

theorem deleteAndReadBack_spec {place : Place} (member : place ∈ removable)
    {created current : ReadResult} {looked : History}
    (extension : Extends (fun call => call.undoing = true) log looked)
    (justified : Justified request looked) (fresh : CreatedFresh request place created log)
    (read : lastRead (request.at place) looked = some (.ok current))
    (exact : exactAt request place current = true)
    (same : sameObject place created current = true) :
    (deleteAndReadBack token (request.at place)).wp (recording admits)
      (Removes request place log) looked := by
  refine wp_asked fun answer effective _ => ?_
  have deleted : Justified request
      (⟨.delete token (request.at place), answer, effective⟩ :: looked) := by
    refine ⟨fun _ path deletion => ?_, justified⟩
    obtain ⟨-, rfl⟩ := Call.delete.inj deletion
    exact ⟨place, member, rfl, created, current, fresh.kept extension, read, exact, same⟩
  refine wp_asked fun
    | .error _, _, _ => ⟨(extension.cons rfl).cons rfl, deleted.cons nofun, nofun⟩
    | .ok after, _, _ => ⟨(extension.cons rfl).cons rfl, deleted.cons nofun, fun absent => ?_⟩
  exact .inl ⟨after, by simp [Event.reads], by simpa using absent⟩

theorem deleteOwned_spec (accepted : request.Accepted) {place : Place}
    (member : place ∈ removable) {owned : ReadResult → Bool} {created : ReadResult}
    (justified : Justified request log) (fresh : CreatedFresh request place created log)
    (identifies : ∀ current, owned current = true →
      exactAt request place current = true ∧ sameObject place created current = true) :
    (deleteOwned token (request.at place) owned).wp (recording admits)
      (Removes request place log) log := by
  refine wp_then (wp_extends (cancelled_uses .cleanup)) fun stopped middle extension => ?_
  have undoing := extension.mono fun _ idle => Call.undoing_of_quiet (Call.quiet_of_idle idle)
  have justifiedThen := justified.kept (extension.mono fun _ idle =>
    Call.sparing_of_quiet request (Call.quiet_of_idle idle))
  cases stopped with
  | true => exact ⟨undoing, justifiedThen, nofun⟩
  | false =>
    refine wp_then (look_spec accepted place undoing justifiedThen) fun
      | .error _, looked, ⟨before, justifiedLast, _⟩ => ⟨before, justifiedLast, nofun⟩
      | .ok current, looked, ⟨before, justifiedLast, read, _⟩ => ?_
    dsimp only
    split
    · exact ⟨before, justifiedLast, nofun⟩
    · rename_i recognised
      obtain ⟨exact, same⟩ := identifies current (by simpa using recognised)
      exact deleteAndReadBack_spec member before justifiedLast fresh read exact same

theorem deleteMount_spec {session : Session} {mutations : MutationState}
    (accepted : session.request.Accepted) {created : ReadResult}
    (justified : Justified session.request log)
    (fresh : CreatedFresh session.request .authMount created log)
    (recorded : recordedAs mutations .authMount created = true) :
    (deleteMount session (desiredPlan session.request.contract) mutations).wp (recording admits)
      (Removes session.request .authMount log) log := by
  unfold deleteMount
  simp only [mountPath_eq, configPath_eq, rolesPath_eq]
  refine wp_then (wp_extends (cancelled_uses .cleanup)) fun stopped middle extension => ?_
  have undoing := extension.mono fun _ idle => Call.undoing_of_quiet (Call.quiet_of_idle idle)
  have justifiedThen := justified.kept (extension.mono fun _ idle =>
    Call.sparing_of_quiet session.request (Call.quiet_of_idle idle))
  cases stopped with
  | true => exact ⟨undoing, justifiedThen, nofun⟩
  | false =>
    refine wp_then (look_spec accepted .authMount undoing justifiedThen) fun
      mountAnswer first ⟨undoingFirst, justifiedFirst, mountRead, _⟩ => ?_
    refine wp_then (look_spec accepted .authConfig undoingFirst justifiedFirst) fun
      configAnswer second ⟨undoingSecond, justifiedSecond, _, sameReads⟩ => ?_
    refine wp_asked fun rolesAnswer listed _ => ?_
    have looked : Extends (fun call => call.undoing = true) log
        (⟨.list session.token (session.request.at .roles), rolesAnswer, listed⟩ :: second) :=
      undoingSecond.cons rfl
    have justifiedLast : Justified session.request
        (⟨.list session.token (session.request.at .roles), rolesAnswer, listed⟩ :: second) :=
      justifiedSecond.cons nofun
    cases mountAnswer with
    | error _ => exact ⟨looked, justifiedLast, nofun⟩
    | ok mount =>
      cases configAnswer with
      | error _ => exact ⟨looked, justifiedLast, nofun⟩
      | ok config =>
        cases rolesAnswer with
        | error _ => exact ⟨looked, justifiedLast, nofun⟩
        | ok roles =>
          dsimp only
          split
          · exact ⟨looked, justifiedLast, nofun⟩
          · rename_i recognised
            simp only [Bool.not_eq_true', Bool.not_eq_false, Bool.and_eq_true] at recognised
            obtain ⟨⟨⟨exact, owned⟩, -⟩, -⟩ := recognised
            have same : sameObject .authMount created mount = true := by
              simp only [recordedAs, sameMount, Bool.and_eq_true, decide_eq_true_eq] at recorded
              simpa [sameObject, recorded.1, recorded.2] using owned
            refine deleteAndReadBack_spec (by decide) looked justifiedLast fresh ?_ exact same
            simpa [lastRead, Event.reads, sameReads .authMount (by decide)] using mountRead

end Deletions

section Rollback

variable [TimeFormat] {admits : Admits} {honest : Prop} {session : Session}
  {mutations : MutationState} {log : History}

/-- What a rollback has established so far: every deletion is justified, and some places are
gone if this run created anything there. -/
structure Undone (request : Request) (mutations : MutationState) (places : List Place)
    (log later : History) : Prop where
  extension : Extends (fun call => call.undoing = true) log later
  justified : Justified request later
  gone : ∀ place ∈ places, mutations.created place = true → Gone (request.at place) later

theorem ifCreated_spec (place : Place) {places : List Place} {step : Action Bool}
    {middle : History} (undone : Undone session.request mutations places log middle)
    (removes : mutations.created place = true →
      step.wp (recording admits) (Removes session.request place middle) middle) :
    (ifCreated (mutations.created place) step).wp (recording admits) (fun removed later =>
      Undone session.request mutations [] log later ∧
      (removed = true → Undone session.request mutations (place :: places) log later)) middle := by
  unfold ifCreated
  split
  · rename_i created
    refine wp_mono (removes created) fun removed later ⟨extension, justified, gone⟩ => ?_
    have whole := undone.extension.trans extension
    refine ⟨⟨whole, justified, by simp⟩, fun success => ⟨whole, justified, ?_⟩⟩
    refine List.forall_mem_cons.mpr ⟨fun _ => gone success, fun other earlier madeHere => ?_⟩
    exact (undone.gone other earlier madeHere).same
      (extension.mono fun _ => Call.tokenless_of_undoing)
  · rename_i absent
    exact ⟨⟨undone.extension, undone.justified, by simp⟩, fun _ => ⟨undone.extension,
      undone.justified, List.forall_mem_cons.mpr ⟨fun made => absurd made absent, undone.gone⟩⟩⟩

/-- `rollback` succeeds only if no seed was created and everything else that was created and
can be deleted is gone. -/
theorem rollback_spec (accepted : session.request.Accepted)
    (progress : Progress honest session.request mutations log) :
    (rollback session (desiredPlan session.request.contract) mutations).wp (recording admits)
      (fun removed later => Undone session.request mutations [] log later ∧
        (removed = true → mutations.seedCreated = false ∧
          Undone session.request mutations removable log later)) log := by
  unfold rollback
  simp only [rolePath_eq, policyPath_eq]
  refine wp_then (wp_extends (cancelled_uses .cleanup)) fun stopped first extension => ?_
  have undoing := extension.mono fun _ idle => Call.undoing_of_quiet (Call.quiet_of_idle idle)
  have justified := progress.justified.kept (extension.mono fun _ idle =>
    Call.sparing_of_quiet session.request (Call.quiet_of_idle idle))
  cases stopped with
  | true => exact ⟨⟨undoing, justified, by simp⟩, nofun⟩
  | false =>
    simp only [Bool.false_eq_true, if_false]
    split
    · exact ⟨⟨undoing, justified, by simp⟩, nofun⟩
    · rename_i unseeded
      refine wp_then (wp_extends (kvV2MountStillOwned_uses session mutations)) fun
        owned second looked => ?_
      have quiet := looked.mono fun _ => Call.quiet_of_observes
      have start : Undone session.request mutations [] log second :=
        ⟨undoing.trans (quiet.mono fun _ => Call.undoing_of_quiet),
          justified.kept (quiet.mono fun _ => Call.sparing_of_quiet session.request), by simp⟩
      cases owned with
      | false => exact ⟨start, nofun⟩
      | true =>
        refine wp_then (ifCreated_spec .role start fun created => ?_) fun
          | false, third, ⟨kept, _⟩ => ⟨kept, nofun⟩
          | true, third, ⟨_, roleGone⟩ => ?_
        · obtain ⟨readback, fresh, -⟩ := progress.recorded .role (by decide) created
          exact deleteOwned_spec accepted (by decide) start.justified (fresh.kept start.extension)
            fun current exact => ⟨exact, rfl⟩
        refine wp_then (ifCreated_spec .policy (roleGone rfl) fun created => ?_) fun
          | false, fourth, ⟨kept, _⟩ => ⟨kept, nofun⟩
          | true, fourth, ⟨_, policyGone⟩ => ?_
        · obtain ⟨readback, fresh, recorded⟩ := progress.recorded .policy (by decide) created
          refine deleteOwned_spec accepted (by decide) (roleGone rfl).justified
            (fresh.kept (roleGone rfl).extension) fun current owned => ?_
          simp only [recordedAs, Bool.and_eq_true, decide_eq_true_eq] at recorded
          simp only [ownedPolicy, Bool.and_eq_true, decide_eq_true_eq] at owned
          exact ⟨owned.1.1, by simp [sameObject, owned.1.2, owned.2, recorded.1, recorded.2]⟩
        refine wp_mono (ifCreated_spec .authMount (policyGone rfl) fun created => ?_)
          fun removed last ⟨kept, mountGone⟩ =>
            ⟨kept, fun success => ⟨by simpa using unseeded, mountGone success⟩⟩
        obtain ⟨readback, fresh, recorded⟩ := progress.recorded .authMount (by decide) created
        exact deleteMount_spec accepted (policyGone rfl).justified
          (fresh.kept (policyGone rfl).extension) recorded

end Rollback

section Failures

variable [TimeFormat] {admits : Admits} {honest : Prop} {session : Session} {token : String}
  {mutations : MutationState} {gate : String} {log later : History}

/-- An execution past the auth mount: its flags are true, and if it changed anything then it
sent the auth mount. -/
structure Mounted (honest : Prop) (request : Request) (mutations : MutationState)
    (log : History) : Prop where
  progress : Progress honest request mutations log
  mounted : mutations.mutated = true → mutations.mountCreated = true

theorem Progress.unwritten {request : Request} (progress : Progress honest request mutations log)
    (honestly : honest) (unset : mutations.mutated = false) : ¬ AnyWritten request log := by
  rintro ⟨target, member, effective⟩
  have created := progress.accounted honestly target member effective
  have flagged := progress.flagged
  rw [unset] at flagged
  exact absurd (List.any_eq_false.mp flagged.symm target member) (by simp [created])

theorem Mounted.counted {request : Request} (mounted : Mounted honest request mutations log) :
    Counted honest request mutations.mutated log := by
  refine .covered (fun honestly => ?_) fun honestly => mounted.progress.unwritten honestly
  cases set : mutations.mutated with
  | false => exact not_exposed_of_unwritten (mounted.progress.unwritten honestly set)
  | true => exact not_exposed_of_sent (mounted.progress.sent (mounted.mounted set))

theorem Mounted.kept {request : Request} (accepted : request.Accepted)
    (extension : Extends (fun call => call.sparing request = true) log later)
    (mounted : Mounted honest request mutations log) : Mounted honest request mutations later :=
  ⟨mounted.progress.kept accepted extension, mounted.mounted⟩

theorem Outcome.undone {request : Request} {middle rolled last final : History}
    {completed : List String} (accepted : request.Accepted)
    (progress : Progress honest request mutations middle)
    (undone : Undone request mutations removable middle rolled)
    (ending : Extends (fun call => call.ending request = true) rolled last)
    (closing : Extends (fun call => call.closing request = true) last final)
    (justified : Justified request last)
    (counted : Counted honest request mutations.mutated last)
    (unmounted : mutations.kvMountCreated = false) (unseeded : mutations.seedCreated = false)
    (held : honest → Held request (· = some token) middle)
    (tokens : outstanding request last =
      (outstanding request rolled).filter (· ≠ some token))
    (freed : leaseMark final = .released) :
    Outcome honest request (fixedReport .rolledBack mutations.mutated true gate completed)
      final := by
  have tokenless := closing.mono fun _ => Call.tokenless_of_closing
  have sparing := ending.mono fun _ => Call.sparing_of_ending
  have undoing := undone.extension.mono fun _ => Call.tokenless_of_undoing
  have accounted : honest → ∀ target ∈ targets, written (request.at target) final = true →
      mutations.created target = true := by
    intro honestly target member effective
    rw [written_same tokenless, written_kept accepted sparing member,
      written_same undoing] at effective
    exact progress.accounted honestly target member effective
  have unflagged : honest → ∀ target ∈ targets, mutations.created target = false →
      written (request.at target) final = false := by
    intro honestly target member unset
    refine Bool.eq_false_iff.mpr fun effective => ?_
    exact absurd (unset.symm.trans (accounted honestly target member effective)) nofun
  exact
    { justified := justified.kept (closing.mono fun _ closes =>
        Call.sparing_of_ending (Call.ending_of_closing closes))
      counted := counted.kept accepted closing
      blocked := fun _ => nofun
      rolledBack := fun honestly _ => by
        refine ⟨fun place member effective => ?_, unflagged honestly .kvMount (by decide) unmounted,
          unflagged honestly .data (by decide) unseeded, ?_, freed⟩
        · have target := removable_targets place member
          have gone := undone.gone place member (accounted honestly place target effective)
          exact (gone.kept accepted sparing target).same tokenless
        · have heldThen := held honestly
          rw [Held, ← outstanding_kept undoing] at heldThen
          rw [outstanding_kept tokenless, tokens]
          exact Held.cleared heldThen
      applied := fun _ => nofun }

theorem failAfterMutationWithCleanup_spec {cleanupUncertain : Bool}
    (accepted : session.request.Accepted) (managed : session.token = .management token)
    (mounted : Mounted honest session.request mutations log)
    (held : honest → cleanupUncertain = false → Held session.request (· = some token) log) :
    (failAfterMutationWithCleanup session (desiredPlan session.request.contract) mutations gate
      cleanupUncertain).wp (recording admits) (Outcome honest session.request) log := by
  have justified := mounted.progress.justified
  unfold failAfterMutationWithCleanup
  split
  · rename_i unset
    simp only [Bool.not_eq_true'] at unset
    have unwritten := fun honestly => mounted.progress.unwritten honestly unset
    split
    · exact holdForManualInspection_spec accepted justified
        (fun honestly => not_exposed_of_unwritten (unwritten honestly))
        fun honestly _ => unwritten honestly
    · rename_i certain
      exact revokeBlocked_spec accepted managed justified unwritten fun honestly =>
        held honestly (by simpa using certain)
  · rename_i set
    simp only [Bool.not_eq_true', Bool.not_eq_false] at set
    have sent := mounted.progress.sent (mounted.mounted set)
    split
    · exact holdForManualInspection_spec accepted justified
        (fun _ => not_exposed_of_sent sent) fun _ => by simp
    · refine wp_then (wp_extends healthy_uses) fun live middle extension => ?_
      have sparing := extension.mono fun _ idle =>
        Call.sparing_of_quiet session.request (Call.quiet_of_idle idle)
      have still := mounted.kept accepted sparing
      cases live with
      | false => exact abandonWith_spec accepted still.progress.justified still.counted
      | true =>
        refine wp_then (rollback_spec accepted still.progress) fun
          removed rolled ⟨undone, success⟩ => ?_
        refine wp_then (revokeAndProve_spec accepted .cleanup session.token) fun
          revoked last ⟨ending, tokens, _⟩ => ?_
        have justifiedLast := undone.justified.kept (ending.mono fun _ => Call.sparing_of_ending)
        have counted : Counted honest session.request mutations.mutated last := by
          refine .covered (fun _ => not_exposed_of_sent ?_) fun _ unset => ?_
          · exact ((sent.kept extension).kept undone.extension).kept ending
          · exact absurd (set.symm.trans unset) nofun
        split
        · exact abandonWith_spec accepted justifiedLast counted
        · rename_i complete
          simp only [Bool.or_eq_true, Bool.not_eq_true', not_or, Bool.not_eq_false,
            Bool.not_eq_true] at complete
          obtain ⟨⟨rfl, rfl⟩, certain⟩ := complete
          refine wp_then (@release_spec _ session.request _ _) fun released final closed => ?_
          obtain ⟨closing, freed⟩ := closed
          cases released
          case false => exact .closed accepted closing justifiedLast counted
          simp only [Bool.not_true, Bool.false_eq_true, if_false]
          split
          · rw [set] at counted
            exact .closed accepted closing justifiedLast counted
          · rename_i unmounted
            obtain ⟨unseeded, gone⟩ := success rfl
            rw [managed] at tokens
            refine .undone accepted still.progress gone ending closing justifiedLast counted
              (Bool.eq_false_iff.mpr unmounted) unseeded (fun honestly => ?_) tokens (freed rfl)
            rw [Held, outstanding_kept (extension.mono fun _ idle =>
              Call.tokenless_of_quiet (Call.quiet_of_idle idle))]
            exact held honestly certain

end Failures

end CloudRing.OpenBaoApply
