import CloudRing.OpenBaoApply.Observations

/-!
# The ends of an execution

What the closures of `Execute` establish: the revocation of a token, the release of the lease, and
the programs that make a report.
-/

namespace CloudRing.OpenBaoApply

open Library Library.Program OpenBaoAuth
open OpenBaoBootstrap (Place)

/-! ## Revocation and release -/

section Proofs

variable {admits : Admits} {request : Request} {log : History}

theorem outstanding_idle (request : Request) {later : History}
    (extension : Extends (fun call => call.idle = true) log later) :
    outstanding request later = outstanding request log ∧ proven later = proven log := by
  have tokenless := extension.mono fun _ idle => Call.tokenless_of_quiet (Call.quiet_of_idle idle)
  exact ⟨outstanding_kept tokenless, proven_kept tokenless⟩

theorem revokeAndProve_uses (scope : Scope) (credential : Credential) :
    (revokeAndProve scope credential).Uses (·.ending request = true) := by
  unfold revokeAndProve
  split
  · exact uses_pure false
  · have idle : (cancelled scope).Uses (·.ending request = true) :=
      uses_mono (cancelled_uses scope) fun _ => Call.ending_of_idle request
    have revokes : (Call.write credential revokeSelfPath (.object [])).ending request = true := by
      simp [Call.ending, Call.sparing, Call.unreading, revokeSelfPath_eq request]
    refine uses_bind idle fun stopped => ?_
    cases stopped
    case true => trivial
    refine uses_bind ((uses_request _).mpr rfl) fun granted => ?_
    cases granted
    case error => trivial
    refine uses_bind ((uses_request _).mpr revokes) fun _ => ?_
    refine uses_bind ((uses_request _).mpr rfl) fun looked => ?_
    cases looked <;> trivial

theorem revokeAndProve_spec (accepted : request.Accepted) (scope : Scope)
    (credential : Credential) :
    (revokeAndProve scope credential).wp (recording admits) (fun revoked later =>
      Extends (fun call => call.ending request = true) log later ∧
      outstanding request later =
        (if revoked then (outstanding request log).filter (· ≠ some credential.token)
        else outstanding request log) ∧
      (∀ token, credential = .management token → proven later = (revoked || proven log))) log := by
  refine wp_and (wp_extends (revokeAndProve_uses scope credential)) ?_
  have elsewhere : revokeSelfPath ≠ request.at .login := by
    rw [revokeSelfPath_eq request, Ne, accepted.at_inj]
    decide
  unfold revokeAndProve
  split
  · exact ⟨rfl, fun _ _ => rfl⟩
  · refine wp_then (wp_extends (cancelled_uses scope)) fun stopped later extension => ?_
    obtain ⟨tokens, proofs⟩ := outstanding_idle request extension
    cases stopped with
    | true => exact ⟨tokens, fun _ _ => proofs⟩
    | false =>
      refine wp_asked fun
        | .error _, _, _ => ⟨tokens, fun _ _ => proofs⟩
        | .ok _, _, _ => ?_
      refine wp_asked fun written _ _ => ?_
      refine wp_asked fun
        | .error _, _, _ => ⟨?_, fun _ _ => ?_⟩
        | .ok (), _, _ => ⟨?_, ?_⟩
      · simpa [outstanding, elsewhere] using tokens
      · simpa [proven, Event.proves] using proofs
      · simp [outstanding, elsewhere, tokens, ← lookupSelfPath_eq request]
      · rintro token rfl
        simp [proven, Event.proves]

theorem release_uses (target : LeaseTarget) :
    (release target).Uses (·.closing request = true) := by
  refine uses_bind ((uses_request _).mpr rfl) fun guard => ?_
  split
  · exact uses_pure false
  · refine uses_bind ((uses_request _).mpr rfl) fun now => ?_
    refine uses_bind ((uses_request _).mpr rfl) fun | .error _ => trivial | .ok updated => ?_
    dsimp only
    split
    · exact uses_pure false
    · exact uses_bind ((uses_request _).mpr rfl) fun | .error _ => trivial | .ok _ => trivial

theorem release_spec (target : LeaseTarget) :
    (release target).wp (recording admits) (fun released later =>
      Extends (fun call => call.closing request = true) log later ∧
      (released = true → leaseMark later = .released)) log := by
  refine wp_and (wp_extends (release_uses target)) ?_
  refine wp_asked fun guard _ _ => ?_
  split
  · exact nofun
  · refine wp_asked fun now _ _ => ?_
    refine wp_asked fun
      | .error _, _, _ => nofun
      | .ok updated, _, _ => ?_
    dsimp only
    split
    · exact nofun
    · rename_i confirmed
      refine wp_asked fun
        | .error _, _, _ => nofun
        | .ok postState, _, _ => ?_
      intro (freed : releasedState updated postState = true)
      simp only [Bool.not_eq_true', Bool.not_eq_false] at confirmed
      have vacant : (guard.current.releasing (now / 1000)).holderIdentity = "" := rfl
      simp [leaseMark, confirmed, freed, vacant]

end Proofs

/-! ## Reports that ask for an inspection -/

section Reports

variable {admits : Admits} {honest : Prop} {request : Request} {mutated rollback : Bool}
  {gate : String} {completed : List String} {log later : History}

theorem Counted.covered (unexposed : honest → ¬ Exposed request log)
    (unwritten : honest → mutated = false → ¬ AnyWritten request log) :
    Counted honest request mutated log := fun honestly =>
  ⟨fun _ uncounted => unexposed honestly uncounted.1,
    fun unset effective => absurd effective (unwritten honestly unset)⟩

theorem Counted.kept (accepted : request.Accepted)
    (extension : Extends (fun call => call.closing request = true) log later)
    (counted : Counted honest request mutated log) : Counted honest request mutated later := by
  have ending := extension.mono fun _ => Call.ending_of_closing
  have tokenless := extension.mono fun _ => Call.tokenless_of_closing
  have sparing := ending.mono fun _ => Call.sparing_of_ending
  unfold Counted Uncounted at counted ⊢
  rwa [exposed_kept accepted ending, proven_kept tokenless, anyWritten_kept accepted sparing]

variable [TimeFormat]

theorem Outcome.held (justified : Justified request log)
    (counted : Counted honest request mutated log) :
    Outcome honest request (partialReport mutated rollback gate completed) log where
  justified := justified
  counted := counted
  blocked _ := nofun
  rolledBack _ := nofun
  applied _ := nofun

theorem Outcome.closed (accepted : request.Accepted)
    (extension : Extends (fun call => call.closing request = true) log later)
    (justified : Justified request log) (counted : Counted honest request mutated log) :
    Outcome honest request (partialReport mutated rollback gate completed) later := by
  have sparing := extension.mono fun _ closing =>
    Call.sparing_of_ending (Call.ending_of_closing closing)
  exact .held (justified.kept sparing) (counted.kept accepted extension)

theorem abandonWith_spec (accepted : request.Accepted) (justified : Justified request log)
    (counted : Counted honest request mutated log) :
    (abandonWith (partialReport mutated rollback gate completed)).wp (recording admits)
      (Outcome honest request) log := by
  refine wp_then (wp_extends abandon_uses) fun _ later extension => ?_
  exact .closed accepted (extension.mono fun _ => Call.closing_of_idle request) justified counted

theorem releaseBlocked_spec (accepted : request.Accepted) (target : LeaseTarget)
    (justified : Justified request log)
    (clear : honest → ¬ AnyWritten request log ∧ outstanding request log = []) :
    (releaseBlocked target completed gate).wp (recording admits) (Outcome honest request)
      log := by
  have counted : Counted honest request false log :=
    .covered (fun honestly => not_exposed_of_unwritten (clear honestly).1)
      fun honestly _ => (clear honestly).1
  refine wp_then (release_spec target) fun
    | false, later, ⟨extension, _⟩ => .closed accepted extension justified counted
    | true, later, ⟨extension, freed⟩ => ?_
  have sparing := extension.mono fun _ closing =>
    Call.sparing_of_ending (Call.ending_of_closing closing)
  exact
    { justified := justified.kept sparing
      counted := counted.kept accepted extension
      blocked := fun honestly _ => by
        refine ⟨?_, ?_, fun _ => .inr (freed rfl)⟩
        · rw [anyWritten_kept accepted sparing]
          exact (clear honestly).1
        · rw [outstanding_kept (extension.mono fun _ => Call.tokenless_of_closing)]
          exact (clear honestly).2
      rolledBack := fun _ => nofun
      applied := fun _ => nofun }

theorem holdForManualInspection_spec {session : Session} (accepted : session.request.Accepted)
    {mutations : MutationState} {mutationPossible : Bool}
    (justified : Justified session.request log)
    (unexposed : honest → ¬ Exposed session.request log)
    (unwritten : honest → (mutations.mutated || mutationPossible) = false →
      ¬ AnyWritten session.request log) :
    (holdForManualInspection session mutations gate mutationPossible).wp (recording admits)
      (Outcome honest session.request) log := by
  have ends : ∀ later,
      Extends (fun call => call.ending session.request = true) log later →
      (abandonWith (partialReport (mutations.mutated || mutationPossible) false gate
        session.completed)).wp (recording admits) (Outcome honest session.request) later := by
    intro later extension
    have sparing := extension.mono fun _ => Call.sparing_of_ending
    refine abandonWith_spec accepted (justified.kept sparing) (.covered ?_ ?_)
    · intro honestly
      rw [exposed_kept accepted extension]
      exact unexposed honestly
    · intro honestly unset
      rw [anyWritten_kept accepted sparing]
      exact unwritten honestly unset
  refine wp_then (wp_extends healthy_uses) fun live middle extension => ?_
  have ending := extension.mono fun _ => Call.ending_of_idle session.request
  cases live with
  | false => exact ends middle ending
  | true =>
    refine wp_then (revokeAndProve_spec accepted .cleanup session.token) fun _ later revoked => ?_
    exact ends later (ending.trans revoked.1)

end Reports

/-! ## Ends before an auth mount -/

theorem Held.cleared {request : Request} {token : String} {log : History}
    (held : Held request (· = some token) log) :
    (outstanding request log).filter (· ≠ some token) = [] := by
  rw [List.filter_eq_nil_iff]
  intro other member
  simp [held other member]

structure KVCreated (request : Request) (mutations : MutationState) (log : History) : Prop where
  answered : ∀ answer ∈ answers (request.at .kvMount) log, answer.isOk = true
  found : ∃ first, firstFound (request.at .kvMount) log = some first ∧
    textValue first.fields "uuid" = mutations.kvMountUUID ∧
    textValue first.fields "accessor" = mutations.kvMountAccessor
  only : AnyWritten request log → written (request.at .kvMount) log = true
  unproven : proven log = false

section Created

variable {request : Request} {mutations : MutationState} {log later : History}

theorem KVCreated.exposed {answer : Answer ReadResult}
    (created : KVCreated request mutations log)
    (effective : AnyWritten request log) (refused : Refused request log)
    (read : lastRead (request.at .kvMount) log = some answer)
    (owned : ownedKVMount answer mutations.kvMountUUID mutations.kvMountAccessor = true) :
    Exposed request log := by
  obtain ⟨first, found, uuid, accessor⟩ := created.found
  exact ⟨created.only effective, created.answered, ⟨first, answer, found, read, by
    rwa [uuid, accessor]⟩, refused⟩

theorem KVCreated.not_exposed {answer : Answer ReadResult}
    (created : KVCreated request mutations log)
    (read : lastRead (request.at .kvMount) log = some answer)
    (foreign : ownedKVMount answer mutations.kvMountUUID mutations.kvMountAccessor = false) :
    ¬ Exposed request log := by
  intro exposed
  obtain ⟨first, found, uuid, accessor⟩ := created.found
  obtain ⟨other, current, foundOther, readCurrent, owned⟩ := exposed.owned
  obtain rfl : first = other := Option.some.inj (found.symm.trans foundOther)
  obtain rfl : answer = current := Option.some.inj (read.symm.trans readCurrent)
  rw [uuid, accessor, foreign] at owned
  exact absurd owned nofun

theorem KVCreated.kept (accepted : request.Accepted)
    (extension : Extends (fun call => call.quiet = true) log later)
    (created : KVCreated request mutations log) : KVCreated request mutations later where
  answered := by
    rw [answers_kept accepted (extension.mono fun _ => Call.sparing_of_quiet request) (by decide)]
    exact created.answered
  found := by
    obtain ⟨first, found, recorded⟩ := created.found
    exact ⟨first, firstFound_kept extension found, recorded⟩
  only := by
    have sparing := extension.mono fun _ => Call.sparing_of_quiet request
    rw [anyWritten_kept accepted sparing, written_kept accepted sparing (by decide)]
    exact created.only
  unproven := by
    rw [proven_kept (extension.mono fun _ => Call.tokenless_of_quiet)]
    exact created.unproven

end Created

section Before

variable [TimeFormat] {admits : Admits} {honest : Prop} {session : Session} {token : String}
  {mutations : MutationState} {gate : String} {log later : History}

theorem revokeBlocked_spec (accepted : session.request.Accepted)
    (managed : session.token = .management token) (justified : Justified session.request log)
    (clear : honest → ¬ AnyWritten session.request log)
    (held : honest → Held session.request (· = some token) log) :
    (revokeManagement session >>= fun revoked =>
      if !revoked then
        abandonWith (partialReport false false "management-token-revoke" session.completed)
      else releaseBlocked session.request.lease session.completed gate).wp (recording admits)
      (Outcome honest session.request) log := by
  refine wp_then (revokeAndProve_spec accepted .cleanup session.token) fun
    revoked later ⟨extension, tokens, _⟩ => ?_
  have sparing := extension.mono fun _ => Call.sparing_of_ending
  have unwritten : honest → ¬ AnyWritten session.request later := by
    intro honestly
    rw [anyWritten_kept accepted sparing]
    exact clear honestly
  cases revoked with
  | false =>
    exact abandonWith_spec accepted (justified.kept sparing)
      (.covered (fun honestly => not_exposed_of_unwritten (unwritten honestly))
        fun honestly _ => unwritten honestly)
  | true =>
    refine releaseBlocked_spec accepted session.request.lease (justified.kept sparing)
      fun honestly => ⟨unwritten honestly, ?_⟩
    rw [managed] at tokens
    exact tokens.trans (held honestly).cleared

theorem blockAfterManagement_fresh (accepted : session.request.Accepted)
    (managed : session.token = .management token) (fresh : mutations.kvMountCreated = false)
    (justified : Justified session.request log)
    (clear : honest → ¬ AnyWritten session.request log)
    (held : honest → Held session.request (· = some token) log) :
    (blockAfterManagement session mutations gate).wp (recording admits)
      (Outcome honest session.request) log := by
  have owned : kvV2MountStillOwned session mutations = pure true := by
    simp [kvV2MountStillOwned, fresh]
  unfold blockAfterManagement
  simp only [owned, fresh, pure_bind, Bool.not_true, Bool.false_eq_true, if_false]
  exact revokeBlocked_spec accepted managed justified clear held

theorem blockAfterManagement_created (accepted : session.request.Accepted)
    (managed : session.token = .management token) (made : mutations.kvMountCreated = true)
    (justified : Justified session.request log)
    (created : honest → KVCreated session.request mutations log)
    (refused : honest → Refused session.request log) :
    (blockAfterManagement session mutations gate).wp (recording admits)
      (Outcome honest session.request) log := by
  refine wp_then (wp_and (wp_extends (kvV2MountStillOwned_uses session mutations))
    (kvV2MountStillOwned_spec session accepted made)) fun
      owned middle ⟨looked, ⟨answer, read, result⟩, mountRead⟩ => ?_
  have quiet := looked.mono fun _ => Call.quiet_of_observes
  have sparing := quiet.mono fun _ => Call.sparing_of_quiet session.request
  have still := fun honestly => (created honestly).kept accepted quiet
  have stillRefused : honest → Refused session.request middle := by
    intro honestly
    rw [Refused, answers_kept accepted sparing (by decide), mountRead]
    exact refused honestly
  have justifiedThen := justified.kept sparing
  cases owned with
  | false =>
    exact abandonWith_spec accepted justifiedThen
      (.covered (fun honestly => (still honestly).not_exposed read result) (by simp))
  | true =>
    refine wp_then (revokeAndProve_spec accepted .cleanup session.token) fun
      revoked later ended => ?_
    obtain ⟨ending, -, proofs⟩ := ended
    have justifiedLast := justifiedThen.kept (ending.mono fun _ => Call.sparing_of_ending)
    have proof := proofs token managed
    cases revoked with
    | false =>
      -- The one end that leaves a created mount out of its report.
      refine abandonWith_spec accepted justifiedLast fun honestly =>
        ⟨by simp, fun _ effective => ?_⟩
      rw [anyWritten_kept accepted (ending.mono fun _ => Call.sparing_of_ending)] at effective
      refine ⟨(exposed_kept accepted ending).mpr ?_, proof.trans (still honestly).unproven⟩
      exact (still honestly).exposed effective (stillRefused honestly) read result
    | true =>
      have counted : Counted honest session.request true later := fun _ =>
        ⟨fun _ uncounted => absurd (uncounted.2.symm.trans proof) Bool.false_ne_true, by simp⟩
      simp only [made, Bool.not_true, Bool.false_eq_true, if_false, if_true]
      refine wp_then (@release_spec _ session.request _ _) fun released _ closed => ?_
      cases released <;> exact .closed accepted closed.1 justifiedLast counted

end Before

end CloudRing.OpenBaoApply
