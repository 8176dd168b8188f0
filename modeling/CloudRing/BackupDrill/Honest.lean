import Mathlib.Tactic.IntervalCases
import CloudRing.BackupDrill.Extension

/-!
# What an accepted journal proves

`verifyJournalBinding_proves`, and the journal of an adapter that does what it is asked.
-/

namespace CloudRing.BackupDrill

open Library

section Honest

variable [Runtime] {plan : Plan} {approval : ApprovalReport}

/-- What an accepted journal proves. Its steps are a beginning of `applySteps`, or a beginning
without `completed` followed by a rollback; and if it ends in success, completed or rolled back,
then every adapter step, the two rollback steps included, records a response that was accepted
for the exact request that follows the entry before. -/
theorem verifyJournalBinding_proves
    (accepted : verifyJournalBinding plan approval entries = .ok ()) :
    JournalSteps (entries.map JournalEntry.step) ∧
      ∀ last, entries.getLast? = some last → last.step ∈ ["rolled-back", "completed"] →
        ∀ front previous entry back, entries = front ++ previous :: entry :: back →
          adapterStep entry.step → Responded plan approval previous entry := by
  have steps := validateJournalEntries_steps (verifyJournalBinding_valid accepted).2
  refine ⟨steps, fun last ending success front previous entry back split step => ?_⟩
  have regroup : entries = (front ++ [previous]) ++ entry :: back := by
    rw [split, List.append_assoc]
    rfl
  have verified := verifyJournalBinding_entry accepted regroup
  rw [List.getLast?_concat] at verified
  refine verifyEntry_responded verified step ⟨?_, ?_⟩
  · cases back with
    | nil => rfl
    | cons next back =>
      have unfailed : next.step ≠ "rollback-failed" := by
        intro failed
        have member : "rollback-failed" ∈ entries.map JournalEntry.step := by
          rw [split]
          simp [failed]
        have final := steps.failed_last member
        rw [List.getLast?_map, ending] at final
        rw [Option.some.inj final] at success
        exact absurd success (by decide)
      simp [unfailed]
  · cases back with
    | cons next back => rfl
    | nil =>
      rw [regroup, List.getLast?_append_of_ne_nil _ (by simp), List.getLast?_singleton] at ending
      obtain rfl : entry = last := Option.some.inj ending
      simp only [adapterStep, List.mem_cons, List.not_mem_nil, or_false, not_or] at step success
      rcases success with rolledBack | completed
      · exact absurd rolledBack step.2.2.2.1
      · exact absurd completed step.2.2.1

/-! ## Honest adapters -/

def honestResponse (plan : Plan) (request : AdapterRequest) : AdapterResponse :=
  let evidence : Evidence := ⟨plan.aggregateProofPathToken, planSHA256 plan⟩
  let proving : Bool := request.step = "proof-assembled"
  let response : AdapterResponse :=
    { schemaVersion := adapterResponseVersion
      protocolVersion := adapterProtocolVersion
      operationID := request.operationID
      step := request.step
      requestSHA256 := request.requestSHA256
      adapterExecutableSHA256 := request.adapterExecutableSHA256
      status := "completed"
      mutated := request.step ∈ mutationSteps
      evidence := evidence
      restoreObservations :=
        if request.step = "restore-watch-create-observe-complete" then
          plan.isolatedNamespaces.map fun mapping =>
            ⟨mapping.restoreName, mapping.restoreScopeSHA256, mapping.sourceNamespace,
              mapping.destination.name, mapping.destination.scopeSHA256, evidence.ref,
              evidence.sha256⟩
        else []
      targets :=
        if proving then
          (List.range targetKinds.length).map fun index =>
            let data := (plan.sourceBaselines.getD index default).dataSHA256
            ⟨targetKinds.getD index "", data, data, evidence.ref, evidence.sha256⟩
        else []
      isolationEvidence := if proving then some evidence else none
      cleanupEvidence := if proving then some evidence else none
      objectLockDeleteDenialReceiptSHA256 := if proving then planSHA256 plan else ""
      aggregateProofArtifactSHA256 := if proving then planSHA256 plan else ""
      aggregateProofPathToken := if proving then plan.aggregateProofPathToken else ""
      responseSHA256 := "" }
  { response with responseSHA256 := adapterResponseSHA256 response }

def honestEntry (plan : Plan) (approval : ApprovalReport) (now : Int) (earlier : List JournalEntry)
    (previous : JournalEntry) : JournalEntry :=
  let step := applySteps.getD (earlier.length + 1) ""
  let request := newAdapterRequest plan approval "apply" step previous.entrySHA256
  let started := mutationStartedDigests plan previous.entrySHA256
  let completed := completedDigests previous.responseSHA256
  let entry := newJournalEntry now (earlier.length + 2) plan approval step
  if step = "mutation-started" then entry started.1 started.2 previous.entrySHA256 none
  else if step = "completed" then entry completed.1 completed.2 previous.entrySHA256 none
  else
    entry request.requestSHA256 (honestResponse plan request).responseSHA256
      previous.entrySHA256 (some (honestResponse plan request))

def honestJournal (plan : Plan) (approval : ApprovalReport) (now : Int) :
    Nat → List JournalEntry × JournalEntry
  | 0 =>
    let digests := approvalConsumedDigests plan approval
    ([], newJournalEntry now 1 plan approval "approval-consumed" digests.1 digests.2 "" none)
  | count + 1 =>
    let (earlier, previous) := honestJournal plan approval now count
    (earlier ++ [previous], honestEntry plan approval now earlier previous)

end Honest

/-! ## A sample journal -/

def sampleApproval : ApprovalReport :=
  let plan := samplePlan "one"
  @preflightReport plainRuntime plan (@honestResponse plainRuntime plan
    (@newAdapterRequest plainRuntime plan .empty "preflight" "preflight" ""))

theorem sampleApproval_bound :
    @validateApprovalBinding plainRuntime (samplePlan "one") sampleApproval = .ok () := by
  have evidence : validEvidence (samplePlan "one").aggregateProofPathToken
      (@planSHA256 plainRuntime (samplePlan "one")) = true := by decide +kernel
  exact @validateApprovalBinding_preflight plainRuntime _ _ (validatePlan_sample "one" (by decide))
    (@validSHA_digest plainRuntime _) evidence

def sampleJournal (count : Nat) : List JournalEntry :=
  (@honestJournal plainRuntime (samplePlan "one") sampleApproval 0 count).1 ++
    [(@honestJournal plainRuntime (samplePlan "one") sampleApproval 0 count).2]

theorem sampleJournal_valid (count : Nat) (within : count ≤ 12) :
    @validateJournalEntries plainRuntime (sampleJournal count) = .ok () := by
  induction count with
  | zero => decide +kernel
  | succ count ih =>
    apply (@validateJournalEntries_concat plainRuntime _ _ (by simp [honestJournal])).mpr
    refine ⟨ih (Nat.le_of_succ_le within), ?_⟩
    -- One entry at a time, since all of them at once take gigabytes.
    clear ih
    have less : count < 12 := within
    clear within
    interval_cases count <;> decide +kernel

theorem sampleJournal_accepted : @verifyJournalBinding plainRuntime (samplePlan "one")
    sampleApproval (sampleJournal 12) = .ok () := by
  exact check_bind.mpr ⟨sampleJournal_valid 12 le_rfl, by decide +kernel⟩

theorem sampleJournal_last : ∃ last, (sampleJournal 12).getLast? = some last ∧
    last.step = "completed" :=
  ⟨_, List.getLast?_concat, by decide +kernel⟩

/-- The completed sample journal is accepted, and proves that every step was answered. -/
theorem verifyJournalBinding_proves_sample :
    @verifyJournalBinding plainRuntime (samplePlan "one") sampleApproval (sampleJournal 12) =
        .ok () ∧
      ∀ front previous entry back, sampleJournal 12 = front ++ previous :: entry :: back →
        adapterStep entry.step →
        @Responded plainRuntime (samplePlan "one") sampleApproval previous entry := by
  obtain ⟨last, ending, completed⟩ := sampleJournal_last
  have proves := @verifyJournalBinding_proves plainRuntime _ _ _ sampleJournal_accepted
  exact ⟨sampleJournal_accepted, proves.2 last ending (by rw [completed]; decide)⟩

end CloudRing.BackupDrill
