import CloudRing.OpenBaoApply.Rollback

/-!
# Before the first write

The stages of `Execute` that write no target: the management token is checked, and the state is
captured and judged.
-/

namespace CloudRing.OpenBaoApply

open Library Library.Program OpenBaoAuth
open OpenBaoBootstrap (Place buildManagementDelegation)

section Reads

variable {request : Request} {log : History}

theorem written_of_unsent {path : String} (unsent : answers path log = []) :
    written path log = false := by
  rw [answers, List.filterMap_eq_nil_iff] at unsent
  rw [written, List.any_eq_false]
  intro event member
  simp [writes_of_unanswered (unsent event member)]

structure Unlooked (request : Request) (log : History) : Prop where
  unread : Unread request log
  unfound : firstFound (request.at .kvMount) log = none

theorem Unlooked.cons {event : Event Reply} (unlooked : Unlooked request log)
    (elsewhere : ∀ place ≠ .managementPolicy, ∀ credential,
      event.call ≠ .read credential (request.at place)) : Unlooked request (event :: log) := by
  have unread : ∀ place ≠ .managementPolicy, Event.reads event (request.at place) = none := by
    intro place other
    unfold Event.reads
    split
    · rename_i credential target _ _
      refine if_neg ?_
      rintro rfl
      exact elsewhere place other credential rfl
    · rfl
  constructor
  · intro place member
    have other : place ≠ .managementPolicy := by
      rintro rfl
      exact absurd member (by decide)
    simp [firstRead, unlooked.unread place member, unread place other]
  · simp [firstFound, unlooked.unfound, unread .kvMount (by decide)]

end Reads

section Calm

variable [TimeFormat] {admits : Admits} {honest : Prop} {session : Session} {request : Request}
  {token : String} {log later : History}

structure Calm (request : Request) (token : String) (log : History) : Prop where
  justified : Justified request log
  unsent : ∀ target ∈ targets, answers (request.at target) log = []
  held : Held request (· = some token) log
  unproven : proven log = false

theorem Calm.unwritten (calm : Calm request token log) : ¬ AnyWritten request log := by
  rintro ⟨target, member, effective⟩
  exact absurd ((written_of_unsent (calm.unsent target member)).symm.trans effective) nofun

theorem Calm.kept (accepted : request.Accepted)
    (extension : Extends (fun call => call.quiet = true) log later)
    (calm : Calm request token log) : Calm request token later where
  justified := calm.justified.kept (extension.mono fun _ => Call.sparing_of_quiet request)
  unsent target member := by
    rw [answers_kept accepted (extension.mono fun _ => Call.sparing_of_quiet request) member]
    exact calm.unsent target member
  held := by
    rw [Held, outstanding_kept (extension.mono fun _ => Call.tokenless_of_quiet)]
    exact calm.held
  unproven := by
    rw [proven_kept (extension.mono fun _ => Call.tokenless_of_quiet)]
    exact calm.unproven

theorem Calm.counted (calm : Calm request token log) : Counted honest request false log :=
  .covered (fun _ => not_exposed_of_unwritten calm.unwritten) fun _ _ => calm.unwritten

theorem Calm.blocked (session : Session) (accepted : session.request.Accepted)
    (managed : session.token = .management token) {gate : String}
    (calm : Calm session.request token log) :
    (blockAfterManagement session {} gate).wp (recording admits)
      (Outcome honest session.request) log :=
  blockAfterManagement_fresh accepted managed rfl calm.justified (fun _ => calm.unwritten)
    fun _ => calm.held

theorem Calm.progress (calm : Calm request token log) : Progress honest request {} log where
  justified := calm.justified
  recorded place member created := by
    revert created
    cases place <;> exact nofun
  flagged := by decide
  accounted _ target member effective := absurd ⟨target, member, effective⟩ calm.unwritten
  sent := nofun

/-! ## The management token -/

theorem Calm.asks {call : Call} (accepted : request.Accepted) (calm : Calm request token log)
    (unlooked : Unlooked request log) (quiet : call.quiet = true)
    (elsewhere : ∀ place ≠ .managementPolicy, ∀ credential,
      call ≠ .read credential (request.at place)) :
    (ask call).wp (recording admits)
      (fun _ later => Calm request token later ∧ Unlooked request later) log :=
  wp_recorded.mpr fun _ _ _ =>
    ⟨calm.kept accepted ((Extends.refl _ log).cons quiet), unlooked.cons elsewhere⟩

theorem privilegeStage_spec (session : Session) (accepted : session.request.Accepted)
    (managed : session.token = .management token) (calm : Calm session.request token log)
    (unlooked : Unlooked session.request log) :
    wpExit (recording admits) (privilegeStage session)
      (fun _ later => Calm session.request token later ∧ Unlooked session.request later)
      (Outcome honest session.request) log := by
  unfold privilegeStage
  simp only [managementPolicyPath_eq]
  refine wpExit_run (calm.asks accepted unlooked rfl fun _ _ _ => nofun) fun
    | .error _, first, ⟨given, _⟩ => (wpExit_leave _).mpr ?_
    | .ok facts, first, ⟨given, unseen⟩ => ?_
  · exact abandonWith_spec accepted given.justified given.counted
  refine wpExit_unless (fun _ => ?_) fun _ => ?_
  · split
    · exact given.blocked session accepted managed
    · exact abandonWith_spec accepted given.justified given.counted
  split
  · exact (wpExit_leave _).mpr (given.blocked session accepted managed)
  · refine wpExit_run (given.asks accepted unseen rfl fun _ _ _ => nofun) fun
      capabilities second ⟨asked, unread⟩ => ?_
    refine wpExit_unless (fun _ => asked.blocked session accepted managed) fun _ => ?_
    refine wpExit_run (asked.asks accepted unread rfl ?_) fun policy third ⟨read, unfound⟩ => ?_
    · intro place other credential same
      obtain ⟨-, path⟩ := Call.read.inj same
      exact other (accepted.at_inj.mp path).symm
    · exact (wpExit_require _ _).mpr
        ⟨fun _ => ⟨read, unfound⟩, fun _ => read.blocked session accepted managed⟩

end Calm

/-! ## The captured state -/

section Captured

variable [TimeFormat] {admits : Admits} {honest : Prop} {session : Session} {request : Request}
  {token : String} {state : PreState} {log later : History}

structure Validated (request : Request) (state : PreState) : Prop where
  kvMount : state.kvMount.found = true → exactKVV2Mount state.kvMount = true
  together : state.policy.found = state.mount.found ∧ state.role.found = state.mount.found ∧
    state.metadata.found = state.mount.found
  mounts : state.mount.found = true → state.kvMount.found = true
  present : state.mount.found = true →
    exactAt request .authMount state.mount = true ∧
    exactAt request .authConfig state.config = true ∧
    exactAt request .policy state.policy = true ∧ exactAt request .role state.role = true ∧
    state.metadata.found = true ∧
    ∃ createdAt, exactSeed state.metadata state.seed (seedData request) = some createdAt

omit [TimeFormat] in
theorem gate_none {condition : Prop} [Decidable condition] {gate : String}
    {rest : Option String} :
    (if condition then some gate else rest) = none ↔ ¬condition ∧ rest = none := by
  split <;> simp [*]

theorem validatePreState_none
    (passed : validatePreState request (desiredPlan request.contract) state = none) :
    Validated request state := by
  simp only [validatePreState, gate_none] at passed
  obtain ⟨kvExact, kvSeeded, passed⟩ := passed
  have kvMount : state.kvMount.found = true → exactKVV2Mount state.kvMount = true :=
    fun found => by simpa [found] using kvExact
  split at passed
  · rename_i unmounted
    simp only [gate_none, Bool.or_eq_true, not_or, Bool.not_eq_true,
      Bool.not_eq_true'] at passed unmounted
    obtain ⟨⟨⟨⟨⟨-, noRole⟩, noPolicy⟩, noMetadata⟩, -⟩, -⟩ := passed
    rw [← unmounted] at noPolicy noRole noMetadata
    refine ⟨kvMount, ⟨noPolicy, noRole, noMetadata⟩, ?_, ?_⟩
    all_goals exact fun mounted => absurd (unmounted.symm.trans mounted) Bool.false_ne_true
  · rename_i mounted
    simp only [gate_none, Bool.or_eq_true, not_or, Bool.not_eq_true', Bool.not_eq_false]
      at passed mounted
    obtain ⟨lifecycle, complete, seeded, exactly, -⟩ := passed
    have kvFound : state.kvMount.found = true := by
      by_contra absent
      simp [absent, seeded.1] at kvSeeded
    obtain ⟨createdAt, seed⟩ := Option.ne_none_iff_exists'.mp (by simpa using exactly)
    refine ⟨kvMount, ?_, fun _ => kvFound, fun _ => ?_⟩
    · exact ⟨complete.1.1.1.trans mounted.symm, complete.1.2.trans mounted.symm,
        seeded.1.trans mounted.symm⟩
    · exact ⟨lifecycle.1.1, lifecycle.1.2, complete.1.1.2, complete.2, seeded.1, createdAt, seed⟩

structure Prepared (request : Request) (token : String) (state : PreState) (log : History) :
    Prop where
  calm : Calm request token log
  captured : Captured request state log
  first : CapturedFirst request state log
  unfound : state.kvMount.found = false → firstFound (request.at .kvMount) log = none
  valid : Validated request state

theorem captureStage_spec (session : Session) (accepted : session.request.Accepted)
    (managed : session.token = .management token) (calm : Calm session.request token log)
    (unlooked : Unlooked session.request log) :
    wpExit (recording admits) (captureStage session (desiredPlan session.request.contract))
      (fun result later =>
        result.1 = desiredPlan session.request.contract ∧
        result.2.2 = (session.complete "complete-prestate-captured").complete
          "prestate-allows-mutation" ∧
        Prepared session.request token result.2.1 later)
      (Outcome honest session.request) log := by
  refine wpExit_run (wp_and (wp_extends (capturePreState_uses session))
    (capturePreState_spec session accepted)) fun
      | none, later, ⟨looked, _⟩ => (wpExit_leave _).mpr ?_
      | some state, later, ⟨looked, captured, first, unfound⟩ => ?_
  · exact (calm.kept accepted (looked.mono fun _ => Call.quiet_of_observes)).blocked session
      accepted managed
  · have still := calm.kept accepted (looked.mono fun _ => Call.quiet_of_observes)
    simp only [Session.complete_request]
    cases passed : validatePreState session.request (desiredPlan session.request.contract)
        state with
    | some gate =>
      have blocked : (blockAfterManagement (session.complete "complete-prestate-captured") {}
          gate).wp (recording admits) (Outcome honest session.request) later :=
        still.blocked (session.complete "complete-prestate-captured") accepted managed
      exact (wpExit_leave _).mpr blocked
    | none =>
      exact ⟨rfl, rfl, still, captured, first unlooked.unread, unfound unlooked.unfound,
        validatePreState_none passed⟩

end Captured

end CloudRing.OpenBaoApply
