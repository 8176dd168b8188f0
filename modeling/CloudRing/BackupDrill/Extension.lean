import CloudRing.BackupDrill.Journal

/-!
# Journals that are extended

An accepted journal stays accepted when the new entry is verified and the entry before it is settled
(`verifyFrom_extends`).
-/

namespace CloudRing.BackupDrill

open Library

def terminalSteps : List String := ["completed", "rolled-back", "rollback-failed"]

theorem validTransition_open {entries : List JournalEntry} {next : String} {last : JournalEntry}
    (valid : validTransition entries next = true) (ending : entries.getLast? = some last) :
    last.step ∉ terminalSteps := by
  intro terminal
  rcases validTransition_cases valid with ⟨rfl, -⟩ | ⟨step, found, option⟩
  · exact absurd ending nofun
  · rw [List.getLast?_map, ending, Option.map_some, Option.some.injEq] at found
    subst found
    simp only [terminalSteps, List.mem_cons, List.not_mem_nil, or_false] at terminal
    rcases terminal with step | step | step <;> simp [closingSteps, step] at option

theorem JournalSteps.applied {entries : List JournalEntry}
    (steps : JournalSteps (entries.map JournalEntry.step))
    (forward : rollbackStarted entries = false) :
    entries.map JournalEntry.step = applySteps.take entries.length ∧ 0 < entries.length ∧
      entries.length ≤ applySteps.length := by
  have counted : entries.length = (entries.map JournalEntry.step).length := by simp
  have unstopped : "rollback-safe-stop" ∉ entries.map JournalEntry.step := by
    intro stopped
    obtain ⟨entry, member, step⟩ := List.mem_map.mp stopped
    have started : rollbackStarted entries = true :=
      List.any_eq_true.mpr ⟨entry, member, by rw [step]; decide⟩
    rw [started] at forward
    exact absurd forward (by decide)
  rw [counted]
  generalize entries.map JournalEntry.step = texts at steps unstopped
  cases steps with
  | applying count started bounded =>
    rw [List.length_take, Nat.min_eq_left bounded]
    exact ⟨rfl, started, bounded⟩
  | rolling count started unfinished tail rollback =>
    refine absurd (List.mem_append_right _ ?_) unstopped
    revert tail
    simp [rollbackTails]

theorem JournalSteps.applied_last {earlier : List JournalEntry} {last : JournalEntry}
    (steps : JournalSteps ((earlier ++ [last]).map JournalEntry.step))
    (forward : rollbackStarted (earlier ++ [last]) = false) :
    some last.step = applySteps[earlier.length]? := by
  obtain ⟨texts, started, bounded⟩ := steps.applied forward
  have ending := congrArg List.getLast? texts
  rw [applySteps_getLast started bounded, List.map_append, List.map_singleton,
    List.getLast?_concat, List.length_append, List.length_singleton, Nat.add_sub_cancel] at ending
  exact ending

theorem JournalSteps.length_lt {steps : List String} (valid : JournalSteps steps) :
    steps.length < 32 := by
  have bound : applySteps.length = 13 := rfl
  cases valid with
  | applying count started bounded =>
    rw [List.length_take]
    omega
  | rolling count started unfinished tail rollback =>
    have short : ∀ tail ∈ rollbackTails, tail.length ≤ 3 := by decide
    have tailed := short tail rollback
    rw [List.length_append, List.length_take]
    omega

theorem rollbackStep_applySteps : ∀ step ∈ applySteps, rollbackStep step = false := by
  decide

theorem adapterStep_applySteps {index : Nat} {step : String}
    (found : some step = applySteps[index + 1]?) (bounded : index + 1 < applySteps.length - 1)
    (other : step ≠ "mutation-started") : adapterStep step := by
  have steps : ∀ index < 11, applySteps[index + 1]?.all (fun step =>
      step = "mutation-started" || step ∉ ["approval-consumed", "mutation-started", "completed",
        "rolled-back", "rollback-failed"]) = true := by decide
  have here := steps index (by simp [applySteps] at bounded; omega)
  rw [← found, Option.all_some, Bool.or_eq_true, decide_eq_true_eq, decide_eq_true_eq] at here
  exact here.resolve_left other

section Extension

variable [Runtime] {plan : Plan} {approval : ApprovalReport}

variable {earlier : List JournalEntry} {entry previous : JournalEntry} {index : Nat} {step : String}

theorem verifyJournalBinding_last
    (accepted : verifyJournalBinding plan approval (earlier ++ [previous]) = .ok ()) :
    boundEntry plan approval previous = true ∧ wellFormedEntry previous = true ∧
      (canonicalTime previous.recordedAt).isSome = true ∧
      ∀ response, previous.response = some response →
        previous.responseSHA256 = response.responseSHA256 := by
  have split : earlier ++ [previous] = earlier ++ previous :: [] := rfl
  have verified := verifyJournalBinding_entry accepted split
  unfold verifyEntry at verified
  rw [check_bind, ensure_ok] at verified
  rw [verifyJournalBinding, check_bind, validateJournalEntries, check_bind,
    validateChain_concat] at accepted
  have valid := accepted.1.2.2.1
  unfold validateJournalEntry at valid
  simp only [check_bind, ensure_ok] at valid
  obtain ⟨formed, hashed, timed, -⟩ := valid
  refine ⟨verified.1, formed, timed, fun response recorded => ?_⟩
  rw [recorded, Option.elim_some, Bool.and_eq_true, decide_eq_true_eq] at hashed
  exact hashed.1.symm

theorem verifyEntry_settled {previous : Option JournalEntry} {next : JournalEntry}
    (verified : verifyEntry plan approval index previous entry none = .ok ())
    (settled : rollbackStep entry.step = true → next.step = "rollback-failed" ∨
      ∀ before, previous = some before → Responded plan approval before entry) :
    verifyEntry plan approval index previous entry (some next) = .ok () := by
  by_cases step : adapterStep entry.step
  · cases previous with
    | none =>
      simp only [adapterStep, List.mem_cons, List.not_mem_nil, or_false, not_or] at step
      simp [verifyEntry, check_bind, step] at verified
    | some before =>
      rw [verifyEntry_adapter step] at verified ⊢
      refine ⟨verified.1, ?_⟩
      have held := verified.2
      by_cases failing : next.step = "rollback-failed"
      -- The failure of the last entry stays allowed.
      · simp only [verifyAdapterEntry, check_bind, ensure_ok, Option.elim_none,
          Option.elim_some, failing, decide_true, Bool.true_or, Bool.or_true,
          Bool.true_and] at held ⊢
        refine ⟨held.1, ?_⟩
        cases recorded : entry.response with
        | none =>
          have failure := held.2
          simp only [recorded, ensure_ok, Bool.and_eq_true] at failure ⊢
          exact failure.2
        | some response =>
          have answer := held.2
          simp only [recorded, check_bind, ensure_ok] at answer ⊢
          exact ⟨answer.1, answer.2.1, trivial⟩
      · have responded : Responded plan approval before entry := by
          cases rolling : rollbackStep entry.step with
          | false =>
            have whole : verifyEntry plan approval index (some before) entry none = .ok () :=
              (verifyEntry_adapter step).mpr verified
            exact verifyEntry_responded whole step ⟨rfl, by rw [rolling]; rfl⟩
          | true => exact (settled rolling).resolve_left failing before rfl
        obtain ⟨request, response, recorded, accepted⟩ := responded
        simp only [verifyAdapterEntry, check_bind, ensure_ok, recorded, decide_eq_true_eq,
          isOk_iff, Bool.or_eq_true] at held ⊢
        exact ⟨request, held.2.1, held.2.2.1, .inl accepted⟩
  · simp only [adapterStep, not_not, List.mem_cons, List.not_mem_nil, or_false] at step
    rcases step with step | step | step | step | step <;>
      simpa [verifyEntry, step] using verified

theorem verifyFrom_extends
    (verified : verifyFrom plan approval 0 none (earlier ++ [previous]) = .ok ())
    (settled : rollbackStep previous.step = true → entry.step = "rollback-failed" ∨
      ∀ before, earlier.getLast? = some before → Responded plan approval before previous)
    (next : verifyEntry plan approval (earlier.length + 1) (some previous) entry none = .ok ()) :
    verifyFrom plan approval 0 none (earlier ++ [previous] ++ [entry]) = .ok () := by
  rw [verifyFrom_iff] at verified ⊢
  intro front found back split
  rw [Nat.zero_add, Option.or_none]
  rcases List.eq_nil_or_concat back with rfl | ⟨back, last, rfl⟩
  · obtain ⟨rfl, same⟩ := List.append_inj' split rfl
    obtain rfl := List.cons.inj same |>.1
    simpa using next
  · have regroup : earlier ++ [previous] ++ [entry] = (front ++ found :: back) ++ [last] := by
      simpa using split
    obtain ⟨before, same⟩ := List.append_inj' regroup rfl
    obtain rfl := List.cons.inj same |>.1
    have here := verified front found back before
    rw [Nat.zero_add, Option.or_none] at here
    cases back with
    | nil =>
      obtain ⟨rfl, same⟩ := List.append_inj' before rfl
      obtain rfl := List.cons.inj same |>.1
      exact verifyEntry_settled here settled
    | cons neighbour back => simpa using here

/-! ## New entries -/

section Fields

variable (now sequence : Int) (step request response previous : String)
  (answer : Option AdapterResponse)

@[simp] theorem newJournalEntry_step :
    (newJournalEntry now sequence plan approval step request response previous answer).step =
      step := rfl

@[simp] theorem newJournalEntry_response :
    (newJournalEntry now sequence plan approval step request response previous answer).response =
      answer := rfl

@[simp] theorem newJournalEntry_requestSHA256 :
    (newJournalEntry now sequence plan approval step request response previous
      answer).requestSHA256 = request := rfl

@[simp] theorem newJournalEntry_responseSHA256 :
    (newJournalEntry now sequence plan approval step request response previous
      answer).responseSHA256 = response := rfl

@[simp] theorem boundEntry_new :
    boundEntry plan approval
      (newJournalEntry now sequence plan approval step request response previous answer) =
        true := by
  simp [boundEntry, newJournalEntry]

end Fields

variable (now sequence : Int)

theorem verifyEntry_started (previous : JournalEntry) :
    let digests := mutationStartedDigests plan previous.entrySHA256
    verifyEntry plan approval 1 (some previous) (newJournalEntry now sequence plan approval
      "mutation-started" digests.1 digests.2 previous.entrySHA256 none) none = .ok () := by
  simp [verifyEntry, check_bind, derivedEntry]

theorem verifyEntry_completed {proof : AdapterResponse}
    (assembled : previous.step = "proof-assembled")
    (recorded : previous.response = some proof)
    (bound : previous.responseSHA256 = proof.responseSHA256) :
    let digests := completedDigests proof.responseSHA256
    verifyEntry plan approval index (some previous) (newJournalEntry now sequence plan approval
      "completed" digests.1 digests.2 previous.entrySHA256 none) none = .ok () := by
  simp [verifyEntry, check_bind, derivedEntry, assembled, recorded, bound]

theorem verifyEntry_terminal (terminal : step = "rolled-back" ∨ step = "rollback-failed") :
    let digests := rollbackTerminalDigests step previous.entrySHA256 previous.responseSHA256
    verifyEntry plan approval index (some previous) (newJournalEntry now sequence plan approval
      step digests.1 digests.2 previous.entrySHA256 none) none = .ok () := by
  rcases terminal with rfl | rfl <;> simp [verifyEntry, check_bind, derivedEntry]

theorem verifyEntry_answered {response : AdapterResponse} (adapter : adapterStep step)
    (bound : validateAdapterResponseBinding (stepRequest plan approval step previous.entrySHA256)
      response = .ok ())
    (accepted : validateAdapterResponse (stepRequest plan approval step previous.entrySHA256)
      response = .ok () ∨ rollbackStep step = true) :
    verifyEntry plan approval index (some previous) (newJournalEntry now sequence plan approval
      step (stepRequest plan approval step previous.entrySHA256).requestSHA256
      response.responseSHA256 previous.entrySHA256 (some response)) none = .ok () := by
  refine (verifyEntry_adapter adapter).mpr ⟨boundEntry_new _ _ _ _ _ _ _, ?_⟩
  rcases accepted with accepted | accepted <;>
    simp [verifyAdapterEntry, check_bind, accepted, bound]

theorem verifyEntry_unanswered (adapter : adapterStep step) (rolling : rollbackStep step = true) :
    verifyEntry plan approval index (some previous) (newJournalEntry now sequence plan approval
      step (stepRequest plan approval step previous.entrySHA256).requestSHA256
      (expectedFailure step) previous.entrySHA256 none) none = .ok () := by
  refine (verifyEntry_adapter adapter).mpr ⟨boundEntry_new _ _ _ _ _ _ _, ?_⟩
  simp [verifyAdapterEntry, check_bind, rolling]

theorem verifyEntry_consumed (previous : String) :
    let digests := approvalConsumedDigests plan approval
    verifyEntry plan approval 0 none (newJournalEntry now sequence plan approval
      "approval-consumed" digests.1 digests.2 previous none) none = .ok () := by
  simp [verifyEntry, check_bind, derivedEntry]

theorem stepRequest_apply {text : String} (member : step ∈ applySteps) :
    stepRequest plan approval step text = newAdapterRequest plan approval "apply" step text := by
  rw [stepRequest, rollbackStep_applySteps step member]
  rfl

theorem verifyJournalBinding_first {now : Int}
    (first : entry = newJournalEntry now 1 plan approval "approval-consumed"
      (approvalConsumedDigests plan approval).1 (approvalConsumedDigests plan approval).2 "" none)
    (valid : validateJournalEntry entry none = .ok ()) :
    verifyJournalBinding plan approval [entry] = .ok () := by
  have transition : validTransition [] entry.step = true := by
    rw [first, newJournalEntry_step]
    decide
  simp only [verifyJournalBinding, validateJournalEntries, validateChain, verifyFrom, check_bind,
    ensure_ok, List.getLast?_nil, valid, transition, List.head?_nil]
  refine ⟨⟨by simp, by simp, trivial⟩, ?_, trivial⟩
  rw [first]
  exact verifyEntry_consumed now 1 ""

end Extension

end CloudRing.BackupDrill
