import CloudRing.BackupDrill.Applying
import CloudRing.BackupDrill.Honest

/-!
# Receipts

A receipt is made again from the journal whenever it is asked for.
-/

namespace CloudRing.BackupDrill

open Library Library.Program

theorem JournalSteps.completed {steps : List String} (valid : JournalSteps steps)
    (ending : steps.getLast? = some "completed") : steps = applySteps := by
  cases valid with
  | applying count started bounded =>
    rw [applySteps_getLast started bounded] at ending
    have position : ∀ index < 13, applySteps[index]? = some "completed" → index = 12 := by decide
    have last := position (count - 1) (by simp [applySteps] at bounded; omega) ending
    have whole : count = 13 := by omega
    rw [whole]
    rfl
  | rolling count started unfinished tail rollback =>
    have tails : ∀ tail ∈ rollbackTails, tail.getLast? ≠ some "completed" ∧ tail ≠ [] := by decide
    obtain ⟨other, nonempty⟩ := tails tail rollback
    rw [List.getLast?_append_of_ne_nil _ nonempty] at ending
    exact absurd ending other

section Receipts

variable [Runtime] {plan : Plan} {approval : ApprovalReport} {entries : List JournalEntry}
  {completed : JournalEntry} {proof : AdapterResponse}

theorem boundReceipt_iff {receipt : ExecutionReceipt} {isolation cleanup : Evidence}
    (isolated : proof.isolationEvidence = some isolation)
    (cleaned : proof.cleanupEvidence = some cleanup) :
    boundReceipt plan approval receipt completed proof = true ↔
      receipt = newReceipt plan approval completed proof isolation cleanup := by
  constructor
  · intro bound
    simp only [boundReceipt, Bool.and_eq_true, decide_eq_true_eq, isolated, cleaned,
      Option.some.injEq] at bound
    cases receipt
    simp only [newReceipt, executionReceiptSHA256] at bound ⊢
    grind
  · rintro rfl
    simp [boundReceipt, newReceipt, executionReceiptSHA256, isolated, cleaned]

structure Completed (plan : Plan) (approval : ApprovalReport) (entries : List JournalEntry)
    (completed : JournalEntry) (proof : AdapterResponse) (isolation cleanup : Evidence) :
    Prop where
  accepted : verifyJournalBinding plan approval entries = .ok ()
  steps : entries.map JournalEntry.step = applySteps
  ending : entries.getLast? = some completed
  recorded : entries.dropLast.getLast?.bind JournalEntry.response = some proof
  proved : validateProofResponse plan proof = .ok ()
  isolated : proof.isolationEvidence = some isolation
  cleaned : proof.cleanupEvidence = some cleanup

theorem Completed.of_accepted (accepted : verifyJournalBinding plan approval entries = .ok ())
    (ending : entries.getLast? = some completed) (step : completed.step = "completed")
    (proved : ∀ entry ∈ entries, entry.step = "proof-assembled" →
      ∃ proof, entry.response = some proof ∧ validateProofResponse plan proof = .ok ()) :
    ∃ proof isolation cleanup,
      Completed plan approval entries completed proof isolation cleanup := by
  have steps := (validateJournalEntries_steps (verifyJournalBinding_valid accepted).2).completed
    (by rw [List.getLast?_map, ending, Option.map_some, step])
  have before : (entries.dropLast.map JournalEntry.step).getLast? = some "proof-assembled" := by
    rw [List.map_dropLast, steps]
    rfl
  rw [List.getLast?_map, Option.map_eq_some_iff] at before
  obtain ⟨entry, found, assembled⟩ := before
  have member : entry ∈ entries := List.dropLast_subset _ (List.mem_of_getLast? found)
  obtain ⟨proof, recorded, accepts⟩ := proved entry member assembled
  have evidence := accepts
  simp only [validateProofResponse, check_bind, ensure_ok, Bool.and_eq_true] at evidence
  obtain ⟨isolation, isolated⟩ : ∃ isolation, proof.isolationEvidence = some isolation := by
    cases shown : proof.isolationEvidence with
    | none => simp [shown, presentEvidence] at evidence
    | some isolation => exact ⟨isolation, rfl⟩
  obtain ⟨cleanup, cleaned⟩ : ∃ cleanup, proof.cleanupEvidence = some cleanup := by
    cases shown : proof.cleanupEvidence with
    | none => simp [shown, presentEvidence] at evidence
    | some cleanup => exact ⟨cleanup, rfl⟩
  exact ⟨proof, isolation, cleanup, accepted, steps, ending,
    by rw [found, Option.bind_some, recorded], accepts, isolated, cleaned⟩

variable {isolation cleanup : Evidence}

theorem Completed.timed
    (whole : Completed plan approval entries completed proof isolation cleanup) :
    (canonicalTime completed.recordedAt).isSome = true := by
  have accepted := whole.accepted
  rw [← List.dropLast_append_getLast? completed whole.ending] at accepted
  exact (verifyJournalBinding_last accepted).2.2.1

theorem Completed.last
    (whole : Completed plan approval entries completed proof isolation cleanup) :
    completed.step = "completed" := by
  have text := congrArg List.getLast? whole.steps
  rw [List.getLast?_map, whole.ending] at text
  exact Option.some.inj text

theorem Completed.validateReceipt_iff
    (whole : Completed plan approval entries completed proof isolation cleanup)
    (approved : validateApprovalBinding plan approval = .ok ()) {receipt : ExecutionReceipt} :
    validateReceipt plan approval receipt entries = .ok () ↔
      receipt = newReceipt plan approval completed proof isolation cleanup := by
  have planned : validatePlan plan = .ok () := by
    rw [validateApprovalBinding, check_bind] at approved
    exact approved.1
  have counted : entries.length = applySteps.length := by
    rw [← whole.steps, List.length_map]
  obtain ⟨entry, before, recorded⟩ := Option.bind_eq_some_iff.mp whole.recorded
  have assembled : entry.step = "proof-assembled" := by
    have text := congrArg (fun steps => steps.dropLast.getLast?) whole.steps
    rw [← List.map_dropLast, List.getLast?_map, before] at text
    exact Option.some.inj text
  have proved := whole.proved
  simp only [validateProofResponse, check_bind, ensure_ok, Bool.and_eq_true,
    decide_eq_true_eq] at proved
  rw [← boundReceipt_iff whole.isolated whole.cleaned]
  simp only [validateReceipt, check_bind, ensure_ok, whole.ending, before, recorded, planned,
    approved, counted, (verifyJournalBinding_valid whole.accepted).2, whole.accepted, whole.last,
    assembled, whole.proved, whole.steps]
  constructor
  · intro passed
    exact passed.2.2.2.2.1
  · intro bound
    have fields := (boundReceipt_iff whole.isolated whole.cleaned).mp bound
    have timed := whole.timed
    refine ⟨trivial, trivial, by simp,
      by simp, bound, ?_, ?_, by simp⟩
    · simp [fields, newReceipt, timed, proved.1.1.1.1.1.1.2]
    · rw [fields]
      exact proved.2

/-! ## Recoveries of a completed journal -/

variable {admits : Admits} {trace : List Act} {confirmation : String} {identity : Option String}

structure Steady (admits : Admits) : Prop where
  opens : ∀ opened, admits .openJournal opened → opened = true
  reads : ∀ found, admits .read found →
    ∃ entries size, found = some (entries, size) ∧ 2 ≤ size ∧ size ≤ maxJournalBytes

theorem load_valid (valid : validateJournalEntries (journal trace) = .ok ()) :
    load.wp (files admits) (fun found last => last = trace ∧
      ((∃ size, found = some (journal trace, size)) ∨ found = none ∧ ¬ Steady admits)) trace := by
  refine wp_asked fun reply next admitted done => ?_
  obtain ⟨rfl, same⟩ := done
  cases reply with
  | none =>
    refine ⟨rfl, .inr ⟨rfl, fun steady => ?_⟩⟩
    obtain ⟨entries, size, impossible, -⟩ := steady.reads none admitted
    exact absurd impossible nofun
  | some found =>
    obtain ⟨entries, size⟩ := found
    obtain rfl := same _ _ rfl
    dsimp only
    split
    · rename_i outside
      refine ⟨rfl, .inr ⟨rfl, fun steady => ?_⟩⟩
      obtain ⟨entries, length, equal, above, below⟩ := steady.reads _ admitted
      obtain ⟨-, rfl⟩ := Prod.mk.inj (Option.some.inj equal)
      simp only [Bool.or_eq_true, decide_eq_true_eq] at outside
      omega
    · rw [isOk_iff.mpr valid]
      exact ⟨rfl, .inl ⟨size, rfl⟩⟩

section Completed

variable (whole : Completed plan approval (journal trace) completed proof isolation cleanup)
  (approved : validateApprovalBinding plan approval = .ok ())

include whole

theorem Completed.valid : validateJournalEntries (journal trace) = .ok () := by
  exact (verifyJournalBinding_valid whole.accepted).2

theorem Completed.forward : rollbackStarted (journal trace) = false := by
  have steps : ∀ step ∈ applySteps, (rollbackStep step || step = "rolled-back") = false := by
    decide
  rw [rollbackStarted, List.any_eq_false]
  intro entry member
  rw [steps entry.step (by rw [← whole.steps]; exact List.mem_map_of_mem member)]
  decide

theorem Completed.length : (journal trace).length = applySteps.length := by
  rw [← whole.steps, List.length_map]

include approved

theorem concludeApply_completed :
    wpExit (files admits) (concludeApply plan approval)
      (fun receipt last => last = trace ∧
        receipt = newReceipt plan approval completed proof isolation cleanup)
      (fun _ last => last = trace ∧ ¬ Steady admits) trace := by
  unfold concludeApply
  refine wpExit_run (load_valid whole.valid) ?_
  rintro found last ⟨rfl, ⟨size, rfl⟩ | ⟨rfl, failed⟩⟩
  · refine wpExit_granted (by rw [isOk_iff.mpr whole.accepted, whole.length]; rfl) ?_
    simp only [whole.ending, whole.recorded, whole.isolated, whole.cleaned]
    refine wpExit_granted (isOk_iff.mpr whole.proved) ?_
    refine wpExit_checked (fun message refused => ?_) fun _ => ⟨rfl, rfl⟩
    rw [(whole.validateReceipt_iff approved).mpr rfl] at refused
    exact absurd refused nofun
  · exact wpExit_fail.mpr ⟨rfl, failed⟩

theorem runApply_completed :
    wpExit (files admits) (runApply plan approval identity)
      (fun receipt last => last = trace ∧
        receipt = newReceipt plan approval completed proof isolation cleanup)
      (fun _ last => last = trace ∧ ¬ Steady admits) trace := by
  unfold runApply
  refine wpExit_run (load_valid whole.valid) ?_
  rintro found last ⟨rfl, ⟨size, rfl⟩ | ⟨rfl, failed⟩⟩
  · refine wpExit_granted (isOk_iff.mpr whole.accepted) ?_
    refine wpExit_granted (by rw [whole.forward]; rfl) ?_
    have finished : applySteps.length - 1 - (journal last).length = 0 := by
      rw [whole.length]
      omega
    have counted : ¬ (journal last).dropLast.length + 1 = applySteps.length - 1 := by
      rw [List.length_dropLast, whole.length]
      decide
    simp only [whole.ending, finished, applyLoop, pure_bind, completeApply, whole.last, if_true,
      whole.recorded, counted, if_false]
    rw [wpExit_bind]
    refine wpExit_granted (isOk_iff.mpr whole.proved) ?_
    exact concludeApply_completed whole approved
  · exact wpExit_fail.mpr ⟨rfl, failed⟩

end Completed

theorem openBound_accepted {unavailable : String} (now : Int)
    (accepted : verifyJournalBinding plan approval (journal trace) = .ok ()) :
    wpExit (files admits) (openBound plan approval confirmation identity unavailable)
      (fun entries last => last = trace ∧ entries = journal trace ∧
        identity = some plan.adapter.executableSHA256)
      (fun _ last => last = trace ∧
        (validateExecutionInput plan approval confirmation identity now false = .ok () →
          ¬ Steady admits)) trace := by
  obtain ⟨some', chain⟩ := verifyJournalBinding_valid accepted
  unfold openBound
  refine wpExit_observed fun clock _ => ?_
  -- Without the check of freshness the clock does not matter.
  have timeless : validateExecutionInput plan approval confirmation identity clock false =
      validateExecutionInput plan approval confirmation identity now false := rfl
  rw [timeless]
  refine wpExit_checked (fun message refused => ⟨rfl, fun valid => ?_⟩) fun checked => ?_
  · rw [refused] at valid
    exact absurd valid nofun
  refine wpExit_observed fun opened admitted => ?_
  refine wpExit_unless (fun closed => ⟨rfl, fun _ steady => ?_⟩) fun _ => ?_
  · rw [steady.opens opened admitted] at closed
    exact absurd closed (by decide)
  refine wpExit_run (load_valid chain) ?_
  rintro found last ⟨rfl, ⟨size, rfl⟩ | ⟨rfl, failed⟩⟩
  · refine wpExit_unless (fun empty => ?_) fun _ => ?_
    · simp [some'] at empty
    refine wpExit_checked (fun message refused => ?_) fun _ => ⟨rfl, rfl, ?_⟩
    · rw [accepted] at refused
      exact absurd refused nofun
    · rw [validateExecutionInput, check_bind, ensure_ok, decide_eq_true_eq] at checked
      exact checked.1
  · exact wpExit_fail.mpr ⟨rfl, fun _ => failed⟩

theorem recover_completed {now : Int}
    (whole : Completed plan approval (journal trace) completed proof isolation cleanup)
    (valid : validateExecutionInput plan approval confirmation identity now false = .ok ()) :
    wpExit (files admits) (recover plan approval confirmation identity)
      (fun receipt last => last = trace ∧
        receipt = newReceipt plan approval completed proof isolation cleanup)
      (fun _ last => last = trace ∧ ¬ Steady admits) trace := by
  have approved : validateApprovalBinding plan approval = .ok () := by
    simp only [validateExecutionInput, check_bind, ensure_ok, Bool.and_eq_true] at valid
    exact isOk_iff.mp valid.2.1
  refine (wpExit_bind _ _ _).mpr (wpExit_mono (openBound_accepted now whole.accepted) ?_ ?_)
  · rintro entries last ⟨rfl, rfl, -⟩
    exact wpExit_granted (by rw [whole.forward]; rfl) (runApply_completed whole approved)
  · rintro message last ⟨rfl, failed⟩
    exact ⟨rfl, failed valid⟩

/-! ## Returned receipts -/

theorem runApply_receipt :
    wpExit (files admits) (runApply plan approval identity)
      (fun receipt last => validateReceipt plan approval receipt (journal last) = .ok ())
      (fun _ _ => True) trace := by
  unfold runApply
  refine wpExit_then (wpExit_trivial _) fun found _ _ => ?_
  split
  · exact wpExit_fail.mpr trivial
  refine wpExit_unless (fun _ => trivial) fun _ => ?_
  refine wpExit_unless (fun _ => trivial) fun _ => ?_
  split
  · exact wpExit_fail.mpr trivial
  refine wpExit_then (wpExit_trivial _) fun applied _ _ => ?_
  refine wpExit_then (wpExit_trivial _) fun _ _ _ => ?_
  refine wpExit_mono concludeApply_spec ?_ fun _ _ _ => trivial
  rintro receipt last ⟨rfl, valid⟩
  exact valid

theorem apply_receipt :
    wpExit (files admits) (apply plan approval confirmation identity)
      (fun receipt last => validateReceipt plan approval receipt (journal last) = .ok ())
      (fun _ _ => True) trace := by
  unfold apply finishApply
  refine wpExit_then (wpExit_trivial _) fun _ _ _ => ?_
  refine wpExit_then (wpExit_trivial _) fun _ _ _ => ?_
  exact wpExit_unless (fun _ => trivial) fun _ => runApply_receipt

theorem recover_receipt :
    wpExit (files admits) (recover plan approval confirmation identity)
      (fun receipt last => validateReceipt plan approval receipt (journal last) = .ok ())
      (fun _ _ => True) trace := by
  unfold recover
  refine wpExit_then (wpExit_trivial _) fun _ _ _ => ?_
  exact wpExit_unless (fun _ => trivial) fun _ => runApply_receipt

/-- Receipts follow journals. Whatever the adapter, the clock and the file system answer, a receipt
that `Apply` or `Recover` returns is valid for the journal then on disk. For an accepted journal
that is completed and whose proof response is valid, there is one valid receipt. A recovery with
valid inputs sends no request and leaves the journal as it is, and it returns that receipt
whenever the journal can be read. -/
theorem receipts_follow_journals (plan : Plan) (approval : ApprovalReport) :
    (∀ (admits : Admits) (start last : List Act) (confirmation : String)
        (identity : Option String) (receipt : ExecutionReceipt),
      Run (files admits) start (apply plan approval confirmation identity).run (.ok receipt) last ∨
        Run (files admits) start (recover plan approval confirmation identity).run (.ok receipt)
          last →
      validateReceipt plan approval receipt (journal last) = .ok ()) ∧
    ∀ (trace : List Act) (completed : JournalEntry),
      verifyJournalBinding plan approval (journal trace) = .ok () →
      (journal trace).getLast? = some completed → completed.step = "completed" →
      (∀ entry ∈ journal trace, entry.step = "proof-assembled" →
        ∃ proof, entry.response = some proof ∧ validateProofResponse plan proof = .ok ()) →
      validateApprovalBinding plan approval = .ok () →
      ∃ receipt,
        (∀ other, validateReceipt plan approval other (journal trace) = .ok () ↔
          other = receipt) ∧
        ∀ (admits : Admits) (confirmation : String) (identity : Option String) (now : Int)
            (result : Except String ExecutionReceipt) (last : List Act),
          validateExecutionInput plan approval confirmation identity now false = .ok () →
          Run (files admits) trace (recover plan approval confirmation identity).run result last →
          last = trace ∧ (Steady admits → result = .ok receipt) := by
  constructor
  · intro admits start last confirmation identity receipt run
    rcases run with run | run
    · have valid := wp_run apply_receipt run
      exact valid
    · have valid := wp_run recover_receipt run
      exact valid
  · intro trace completed accepted ending step proved approved
    obtain ⟨proof, isolation, cleanup, whole⟩ :=
      Completed.of_accepted accepted ending step proved
    refine ⟨newReceipt plan approval completed proof isolation cleanup,
      fun other => whole.validateReceipt_iff approved, ?_⟩
    intro admits confirmation identity now result last valid run
    have outcome := wp_run (recover_completed whole valid) run
    cases result with
    | ok receipt => exact ⟨outcome.1, fun _ => congrArg _ outcome.2⟩
    | error message => exact ⟨outcome.1, fun steady => absurd steady outcome.2⟩

end Receipts

def written (entries : List JournalEntry) : List Act := (entries.map Act.wrote).reverse

@[simp] theorem journal_written (entries : List JournalEntry) :
    journal (written entries) = entries := by
  induction entries using List.reverseRecOn with
  | nil => rfl
  | append_singleton entries entry ih => simpa [written, journal] using ih

theorem sampleInput : @validateExecutionInput plainRuntime (samplePlan "one") sampleApproval
    sampleApproval.approvalTuple (some (samplePlan "one").adapter.executableSHA256) 0 false =
      .ok () := by
  unfold validateExecutionInput
  simp only [check_bind, ensure_ok, Bool.false_eq_true, if_false, sampleApproval_bound, isOk_ok]
  exact ⟨decide_eq_true trivial, rfl⟩

/-- The completed sample journal has one receipt, and a recovery that can read it returns it. -/
theorem receipts_follow_journals_sample :
    ∃ receipt, @validateReceipt plainRuntime (samplePlan "one") sampleApproval receipt
        (sampleJournal 12) = .ok () ∧
      ∀ (admits : Admits) (result : Except String ExecutionReceipt) (last : List Act),
        Steady admits →
        Run (files admits) (written (sampleJournal 12)) (@recover plainRuntime (samplePlan "one")
          sampleApproval sampleApproval.approvalTuple
          (some (samplePlan "one").adapter.executableSHA256)).run result last →
        last = written (sampleJournal 12) ∧ result = .ok receipt := by
  obtain ⟨last, ending, completed⟩ := sampleJournal_last
  have proved : (sampleJournal 12).all (fun entry => entry.step ≠ "proof-assembled" ||
      entry.response.any fun response =>
        (validateProofResponse (samplePlan "one") response).isOk) = true := by
    decide +kernel
  have receipts := (@receipts_follow_journals plainRuntime (samplePlan "one") sampleApproval).2
    (written (sampleJournal 12)) last
  rw [journal_written] at receipts
  obtain ⟨receipt, unique, recovers⟩ := receipts sampleJournal_accepted ending completed
    (by simpa [isOk_iff, Option.any_eq_true, imp_iff_not_or] using proved) sampleApproval_bound
  refine ⟨receipt, (unique receipt).mpr rfl, fun admits result last steady run => ?_⟩
  obtain ⟨same, returned⟩ := recovers admits _ _ 0 result last sampleInput run
  exact ⟨same, returned steady⟩

end CloudRing.BackupDrill
