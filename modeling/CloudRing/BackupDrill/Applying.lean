import CloudRing.BackupDrill.Runs

/-!
# Apply and Recover

`runApply` keeps histories proper, step by step (`applyStep_spec`) and over its whole loop
(`applyLoop_spec`).
-/

namespace CloudRing.BackupDrill

open Library Library.Program

theorem rollbackStarted_concat {entries : List JournalEntry} {entry : JournalEntry}
    (forward : rollbackStarted entries = false) (step : entry.step ∈ applySteps) :
    rollbackStarted (entries ++ [entry]) = false := by
  have steps : ∀ step ∈ applySteps, (rollbackStep step || step = "rolled-back") = false := by
    decide
  have here := steps _ step
  simp only [rollbackStarted, List.any_append, List.any_cons, List.any_nil, Bool.or_false] at *
  rw [forward, here]
  rfl

section Applying

variable [Runtime] {admits : Admits} {trace : List Act} {plan : Plan} {approval : ApprovalReport}
  {identity : Option String} {earlier : List JournalEntry} {previous : JournalEntry}

/-- A procedure that keeps the history proper, whether it succeeds or fails. -/
abbrev Keeps {α : Type} (admits : Admits) (plan : Plan) (approval : ApprovalReport)
    (procedure : Step α) (trace : List Act) : Prop :=
  wpExit (files admits) procedure (fun _ last => Proper plan approval last)
    (fun _ last => Proper plan approval last) trace

structure Applies (plan : Plan) (approval : ApprovalReport) (trace : List Act)
    (earlier : List JournalEntry) (previous : JournalEntry) : Prop where
  proper : Proper plan approval trace
  known : journal trace = earlier ++ [previous]
  forward : rollbackStarted (earlier ++ [previous]) = false

section Applying

variable (applies : Applies plan approval trace earlier previous)

include applies

theorem Applies.last :
    some previous.step = applySteps[earlier.length]? :=
  (applies.proper.verified applies.known).1.applied_last applies.forward

theorem Applies.unrolled :
    rollbackStep previous.step = false :=
  rollbackStep_applySteps _ (List.mem_of_getElem? applies.last.symm)

theorem Applies.append
    {entry : JournalEntry} (step : entry.step ∈ applySteps)
    (verified : verifyEntry plan approval (earlier.length + 1) (some previous) entry none =
      .ok ()) :
    (append entry).wp (files admits) (fun recorded last => Proper plan approval last ∧
      (recorded = true → Applies plan approval last (earlier ++ [previous]) entry)) trace := by
  have fits := verifyFrom_extends (applies.proper.verified applies.known).2
    (fun rolling => by rw [applies.unrolled] at rolling; exact absurd rolling (by decide)) verified
  rw [← applies.known] at fits
  refine wp_mono (append_proper applies.proper fits) fun recorded last reached => ?_
  refine ⟨reached.1, fun success => ?_⟩
  obtain rfl := reached.2 success
  exact ⟨reached.1, by rw [journal, applies.known],
    rollbackStarted_concat applies.forward step⟩

theorem Applies.allowed {step : String}
    (next : some step = applySteps[earlier.length + 1]?) (adapter : step ≠ "mutation-started")
    (reply : Option AdapterResponse) :
    Allowed plan approval (journal trace)
      (.ran (newAdapterRequest plan approval "apply" step previous.entrySHA256) reply) := by
  have texts := ((applies.proper.verified applies.known).1.applied applies.forward).1
  have started : 1 ≤ earlier.length := by
    by_contra none
    have first : earlier.length = 0 := by omega
    rw [first] at next
    exact adapter (Option.some.inj next)
  rw [applies.known]
  refine ⟨⟨previous, List.getLast?_concat, ?_⟩, fun _ => ⟨applies.forward, ?_⟩⟩
  · have request := newAdapterRequest_spec plan approval "apply" step previous.entrySHA256
    rw [request.2.1, stepRequest_apply (List.mem_of_getElem? next.symm)]
  · intro text listed
    have early : applySteps.take 2 <+: applySteps.take (earlier ++ [previous]).length :=
      List.take_prefix_take_left (by simpa using started)
    rw [texts]
    exact early.subset listed

theorem applyStep_spec
    (short : earlier.length + 1 < applySteps.length - 1) :
    wpExit (files admits) (applyStep plan approval identity earlier previous)
      (fun entry last => Applies plan approval last (earlier ++ [previous]) entry)
      (fun _ last => Proper plan approval last) trace := by
  obtain ⟨step, next⟩ : ∃ step, some step = applySteps[earlier.length + 1]? :=
    ⟨_, (List.getElem?_eq_getElem (by omega)).symm⟩
  have member : step ∈ applySteps := List.mem_of_getElem? next.symm
  have chosen : applySteps.getD (earlier.length + 1) "" = step := by
    rw [List.getD_eq_getElem?_getD, ← next]
    rfl
  unfold applyStep
  simp only [chosen]
  split
  · rename_i started
    subst started
    have first : earlier.length = 0 := by
      have position : ∀ index < 13, applySteps[index + 1]? = some "mutation-started" →
          index = 0 := by decide
      exact position earlier.length (by have := short; simp [applySteps] at this; omega) next.symm
    refine wpExit_observed fun now _ => ?_
    refine wpExit_run (applies.append member ?_) fun recorded last reached => ?_
    · rw [first]
      exact verifyEntry_started now _ previous
    · exact wpExit_unless (fun _ => reached.1) fun success => reached.2 success
  · rename_i adapter
    have sendable := applies.allowed next adapter
    refine wpExit_run invoke_spec fun invoked last reached => ?_
    rcases reached with ⟨message, rfl, rfl, -⟩ | ⟨reply, -, rfl, rfl⟩
    · exact wpExit_checked (fun _ _ => applies.proper) fun impossible => by cases impossible
    · have ran : Proper plan approval (.ran (newAdapterRequest plan approval "apply" step
          previous.entrySHA256) reply :: trace) := ⟨sendable reply, applies.proper⟩
      refine wpExit_checked (fun _ _ => ran) fun succeeded => ?_
      obtain ⟨response, rfl, accepted⟩ := answered_ok succeeded
      refine wpExit_checked (fun _ _ => ran) fun _ => ?_
      refine wpExit_observed fun now _ => ?_
      have still : Applies plan approval (.ran (newAdapterRequest plan approval "apply" step
          previous.entrySHA256) (some response) :: trace) earlier previous :=
        ⟨ran, applies.known, applies.forward⟩
      refine wpExit_run (still.append member ?_) fun recorded last reached => ?_
      · rw [← stepRequest_apply member] at accepted ⊢
        exact verifyEntry_answered now _ (adapterStep_applySteps next short adapter)
          (validateAdapterResponse_bound accepted) (.inl accepted)
      · exact wpExit_unless (fun _ => reached.1) fun success => reached.2 success

theorem applyLoop_spec {remaining : Nat}
    (short : earlier.length + 1 + remaining ≤ applySteps.length - 1 ∨ remaining = 0) :
    wpExit (files admits) (applyLoop plan approval identity remaining earlier previous)
      (fun applied last => Applies plan approval last applied.1 applied.2)
      (fun _ last => Proper plan approval last) trace := by
  induction remaining generalizing trace earlier previous with
  | zero => exact applies
  | succ remaining ih =>
    have bound : earlier.length + 1 + (remaining + 1) ≤ applySteps.length - 1 := by omega
    refine wpExit_then (applyStep_spec applies (by omega)) fun entry last reached => ?_
    refine ih reached (.inl ?_)
    rw [List.length_append, List.length_singleton]
    omega

theorem completeApply_spec :
    Keeps admits plan approval (completeApply plan approval earlier previous) trace := by
  unfold completeApply
  dsimp only
  split
  · exact wpExit_fail.mpr applies.proper
  rename_i proof found
  refine wpExit_unless (fun _ => applies.proper) fun _ => ?_
  split
  · rename_i full
    have position : earlier.length = 11 := by
      simp [applySteps] at full
      omega
    have assembled : previous.step = "proof-assembled" := by
      have last := applies.last
      rw [position] at last
      exact Option.some.inj last
    rw [assembled, if_neg (by decide)] at found
    refine wpExit_observed fun now _ => ?_
    refine wpExit_run (applies.append (by simp [applySteps]) ?_) fun recorded last reached => ?_
    · have accepted := applies.proper.accepted (by rw [applies.known]; simp)
      rw [applies.known] at accepted
      exact verifyEntry_completed now _ assembled found
        ((verifyJournalBinding_last accepted).2.2.2 proof found)
    · exact (wpExit_require _ _).mpr ⟨fun _ => reached.1, fun _ => reached.1⟩
  · exact applies.proper

end Applying

theorem concludeApply_spec :
    wpExit (files admits) (concludeApply plan approval)
      (fun receipt last => last = trace ∧
        validateReceipt plan approval receipt (journal trace) = .ok ())
      (fun _ last => last = trace) trace := by
  unfold concludeApply
  refine wpExit_run load_spec ?_
  rintro (_ | ⟨entries, size⟩) last ⟨rfl, loaded⟩
  · exact wpExit_fail.mpr rfl
  obtain ⟨rfl, -⟩ := loaded _ _ rfl
  refine wpExit_unless (fun _ => rfl) fun _ => ?_
  dsimp only
  split
  · refine wpExit_unless (fun _ => rfl) fun _ => ?_
    split
    · exact wpExit_checked (fun _ _ => rfl) fun valid => ⟨rfl, valid⟩
    · exact wpExit_fail.mpr rfl
  · exact wpExit_fail.mpr rfl

theorem runApply_spec (proper : Proper plan approval trace) :
    Keeps admits plan approval (runApply plan approval identity) trace := by
  unfold runApply
  refine wpExit_run load_spec ?_
  rintro (_ | ⟨entries, size⟩) last ⟨rfl, loaded⟩
  · exact wpExit_fail.mpr proper
  obtain ⟨rfl, -⟩ := loaded _ _ rfl
  refine wpExit_unless (fun _ => proper) fun _ => ?_
  refine wpExit_unless (fun _ => proper) fun forward => ?_
  rw [Bool.not_eq_true'] at forward
  split
  · exact wpExit_fail.mpr proper
  rename_i final ending
  have known := (List.dropLast_append_getLast? final ending).symm
  have counted := congrArg List.length known
  rw [List.length_append, List.length_singleton] at counted
  have applies : Applies plan approval last (journal last).dropLast final :=
    ⟨proper, known, by rw [← known]; exact forward⟩
  refine wpExit_then (applyLoop_spec applies (by omega)) fun applied middle reached => ?_
  refine wpExit_then (completeApply_spec reached) fun _ middle reached => ?_
  refine wpExit_mono concludeApply_spec ?_ ?_
  · rintro receipt last ⟨rfl, -⟩
    exact reached
  · rintro message last rfl
    exact reached

/-! ## Beginnings -/

variable {confirmation : String}

section Calls

variable (proper : Proper plan approval trace)

include proper

theorem createJournal_spec {now : Int} {entry : JournalEntry}
    (first : entry = newJournalEntry now 1 plan approval "approval-consumed"
      (approvalConsumedDigests plan approval).1 (approvalConsumedDigests plan approval).2 ""
      none) :
    (createJournal entry).wp (files admits) (fun _ last => Proper plan approval last) trace := by
  unfold createJournal
  split
  · exact proper
  split
  · exact proper
  · rename_i valid
    rw [Bool.not_eq_true, Bool.not_eq_false', isOk_iff] at valid
    rintro reply next ⟨-, ⟨-, rfl⟩ | ⟨empty, rfl⟩⟩
    · exact proper
    · have accepted := verifyJournalBinding_first first valid
      exact ⟨by rw [empty]; exact ⟨accepted, nofun⟩, proper⟩

theorem startApply_spec :
    Keeps admits plan approval (startApply plan approval confirmation identity) trace := by
  unfold startApply
  refine wpExit_observed fun _ _ => ?_
  refine wpExit_checked (fun _ _ => proper) fun _ => ?_
  refine wpExit_observed fun _ _ => ?_
  refine wpExit_unless (fun _ => proper) fun _ => ?_
  refine wpExit_observed fun now _ => ?_
  refine wpExit_run (createJournal_spec proper rfl) fun _ last reached => ?_
  exact (wpExit_require _ _).mpr ⟨fun _ => reached, fun _ => reached⟩

theorem finishApply_spec :
    Keeps admits plan approval (finishApply plan approval identity) trace := by
  unfold finishApply
  refine wpExit_observed fun _ _ => ?_
  exact wpExit_unless (fun _ => proper) fun _ => runApply_spec proper

theorem apply_spec :
    Keeps admits plan approval (apply plan approval confirmation identity) trace :=
  wpExit_then (startApply_spec proper) fun _ _ reached => finishApply_spec reached

end Calls

theorem openBound_spec {unavailable : String} :
    wpExit (files admits) (openBound plan approval confirmation identity unavailable)
      (fun entries last => last = trace ∧ entries = journal trace ∧
        verifyJournalBinding plan approval entries = .ok () ∧
        identity = some plan.adapter.executableSHA256)
      (fun _ last => last = trace) trace := by
  unfold openBound
  refine wpExit_observed fun now _ => ?_
  refine wpExit_checked (fun _ _ => rfl) fun valid => ?_
  refine wpExit_observed fun _ _ => ?_
  refine wpExit_unless (fun _ => rfl) fun _ => ?_
  refine wpExit_run load_spec ?_
  rintro (_ | ⟨entries, size⟩) last ⟨rfl, loaded⟩
  · exact wpExit_fail.mpr rfl
  obtain ⟨rfl, -⟩ := loaded _ _ rfl
  refine wpExit_unless (fun _ => rfl) fun _ => ?_
  refine wpExit_checked (fun _ _ => rfl) fun accepted => ⟨rfl, rfl, accepted, ?_⟩
  rw [validateExecutionInput, check_bind, ensure_ok, decide_eq_true_eq] at valid
  exact valid.1

theorem recover_spec (proper : Proper plan approval trace) :
    Keeps admits plan approval (recover plan approval confirmation identity) trace := by
  unfold recover
  refine wpExit_bind _ _ _ |>.mpr (wpExit_mono openBound_spec ?_ ?_)
  · rintro entries last ⟨rfl, -, -, -⟩
    exact wpExit_unless (fun _ => proper) fun _ => runApply_spec proper
  · rintro message last rfl
    exact proper

end Applying

end CloudRing.BackupDrill
