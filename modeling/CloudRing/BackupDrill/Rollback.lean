import CloudRing.BackupDrill.Receipts

/-!
# Rollbacks

What a rollback does depends on the last entry of the journal only (`Rolls`).
-/

namespace CloudRing.BackupDrill

open Library Library.Program

def rollbackRequests : List String := ["rollback-safe-stop", "rollback-cleanup-requested"]

theorem rollbackRequests_adapter {step : String} (rolling : step ∈ rollbackRequests) :
    adapterStep step ∧ rollbackStep step = true := by
  have steps : ∀ step ∈ rollbackRequests, step ∉ ["approval-consumed", "mutation-started",
      "completed", "rolled-back", "rollback-failed"] ∧ rollbackStep step = true := by decide
  exact steps step rolling

def rollbackBegun : List String := rollbackRequests ++ terminalSteps

theorem JournalSteps.known {steps : List String} (valid : JournalSteps steps) {step : String}
    (member : step ∈ steps) : step ∈ applySteps ∨ step ∈ rollbackBegun := by
  cases valid with
  | applying count => exact .inl (List.mem_of_mem_take member)
  | rolling count started unfinished tail rollback =>
    rcases List.mem_append.mp member with early | late
    · exact .inl (List.mem_of_mem_take early)
    · have tails : ∀ tail ∈ rollbackTails, ∀ step ∈ tail, step ∈ rollbackBegun := by decide
      exact .inr (tails tail rollback step late)

def appendFailures : List String :=
  ["record backup drill rollback safe-stop", "record backup drill rollback cleanup request",
    "record backup drill rollback outcome"]

def outcomeStep (success : Bool) : String := if success then "rolled-back" else "rollback-failed"

theorem concat_inj {earlier others : List JournalEntry} {last other : JournalEntry}
    (same : earlier ++ [last] = others ++ [other]) : earlier = others ∧ last = other := by
  obtain ⟨front, back⟩ := List.append_inj' same rfl
  exact ⟨front, (List.cons.inj back).1⟩

theorem JournalSteps.uncleaned {steps : List String} (valid : JournalSteps steps)
    (ending : steps.getLast? = some "rollback-safe-stop") :
    "rollback-cleanup-requested" ∉ steps := by
  intro cleaned
  cases valid with
  | applying count => exact absurd (List.mem_of_mem_take cleaned) (by decide)
  | rolling count started unfinished tail rollback =>
    have tails : ∀ tail ∈ rollbackTails, tail ≠ [] ∧
        (tail.getLast? = some "rollback-safe-stop" → "rollback-cleanup-requested" ∉ tail) := by
      decide
    obtain ⟨nonempty, uncleaned⟩ := tails tail rollback
    rw [List.getLast?_append_of_ne_nil _ nonempty] at ending
    rcases List.mem_append.mp cleaned with early | late
    · exact absurd (List.mem_of_mem_take early) (by decide)
    · exact uncleaned ending late

theorem suffix_cases {newer more trace older : List Act} {entry written : JournalEntry}
    {request : AdapterRequest} {reply : Option AdapterResponse}
    (split : more ++ (.wrote written :: .ran request reply :: trace) =
      newer ++ (.wrote entry :: older))
    (during : trace.length < (Act.wrote entry :: older).length) :
    (Act.wrote entry :: older) = .wrote written :: .ran request reply :: trace ∨
      (Act.wrote written :: .ran request reply :: trace).length <
        (Act.wrote entry :: older).length := by
  rcases List.append_eq_append_iff.mp split with ⟨middle, rfl, same⟩ | ⟨middle, rfl, same⟩
  · match middle, same with
    | [], same => exact .inl same.symm
    | [_], same => exact absurd (List.cons.inj same).2 (by simp)
    | _ :: _ :: middle, same =>
      have lengths := congrArg List.length same
      simp only [List.length_cons, List.length_append] at lengths during
      omega
  · match middle, same with
    | [], same => exact .inl same
    | _ :: middle, same =>
      right
      have lengths := congrArg List.length same
      simp only [List.length_cons, List.length_append] at lengths ⊢
      omega

theorem length_lt_of_suffix {trace final older : List Act} {entry : JournalEntry}
    (extended : trace <:+ final) (split : (Act.wrote entry :: older) <:+ final)
    (absent : entry ∉ journal trace) : trace.length < (Act.wrote entry :: older).length := by
  by_contra long
  obtain ⟨newer, same⟩ := List.suffix_of_suffix_length_le split extended (by omega)
  refine absent ?_
  rw [← same, journal_append, journal]
  simp

section Rollback

variable [Runtime] {admits : Admits} {trace : List Act} {plan : Plan} {approval : ApprovalReport}
  {identity : Option String} {earlier : List JournalEntry} {previous : JournalEntry}

/-! ## Entries -/

def rollbackEntry (plan : Plan) (approval : ApprovalReport) (step : String)
    (earlier : List JournalEntry) (previous : JournalEntry) (reply : Option AdapterResponse)
    (now : Int) : JournalEntry :=
  let request := newRollbackRequest plan approval step previous.entrySHA256
  let recorded := recordedResponse request reply
  newJournalEntry now (earlier.length + 2) plan approval step request.requestSHA256
    (recorded.elim (expectedFailure step) AdapterResponse.responseSHA256) previous.entrySHA256
    recorded

def outcomeEntry (plan : Plan) (approval : ApprovalReport) (success : Bool)
    (earlier : List JournalEntry) (previous : JournalEntry) (now : Int) : JournalEntry :=
  let digests := rollbackTerminalDigests (outcomeStep success) previous.entrySHA256
    previous.responseSHA256
  newJournalEntry now (earlier.length + 2) plan approval (outcomeStep success) digests.1 digests.2
    previous.entrySHA256 none

theorem recordedResponse_accepted {request : AdapterRequest} {response : AdapterResponse}
    (accepted : validateAdapterResponse request response = .ok ()) :
    recordedResponse request (some response) = some response := by
  have bound := validateAdapterResponse_bound accepted
  have shaped : validSHA response.responseSHA256 = true := by
    rw [bound_digest bound]
    exact validSHA_digest _
  simp [recordedResponse, Option.filter, shaped, bound]

variable {entry : JournalEntry} {final : List Act} {step : String} {success : Bool}

theorem rollbackEntry_succeeded (rolling : step ∈ rollbackRequests)
    (reply : Option AdapterResponse) (now : Int) :
    rollbackResponseSucceeded plan approval (earlier ++ [previous])
        (rollbackEntry plan approval step earlier previous reply now) =
      (answered (newRollbackRequest plan approval step previous.entrySHA256)
        reply).outcome.isOk := by
  have kind : (step = "rollback-safe-stop" || step = "rollback-cleanup-requested") = true := by
    simpa [rollbackRequests] using rolling
  generalize named : newRollbackRequest plan approval step previous.entrySHA256 = request
  have entry : rollbackResponseSucceeded plan approval (earlier ++ [previous])
      (rollbackEntry plan approval step earlier previous reply now) =
        (recordedResponse request reply).elim false fun response =>
          (validateAdapterResponse request response).isOk := by
    simp only [rollbackResponseSucceeded, List.getLast?_concat, rollbackEntry,
      newJournalEntry_response, newJournalEntry_step, newJournalEntry_requestSHA256, named]
    cases recordedResponse request reply with
    | none => rfl
    | some response => simp [kind, named]
  rw [entry]
  cases reply with
  | none => rfl
  | some response =>
    cases verdict : validateAdapterResponse request response with
    | ok value =>
      rw [recordedResponse_accepted verdict, Option.elim_some, answered, verdict]
    | error message =>
      rw [answered, verdict, recordedResponse, Option.filter]
      split
      · rw [Option.elim_some, verdict]
      · rfl

theorem stepRequest_rollback {text : String} (rolling : rollbackStep step = true) :
    stepRequest plan approval step text = newRollbackRequest plan approval step text := by
  rw [stepRequest, rolling]
  rfl

theorem rollbackResponseSucceeded_responded {before : JournalEntry}
    (succeeded : rollbackResponseSucceeded plan approval earlier entry = true)
    (neighbour : earlier.getLast? = some before) : Responded plan approval before entry := by
  unfold rollbackResponseSucceeded at succeeded
  rw [neighbour] at succeeded
  cases recorded : entry.response with
  | none => simp [recorded] at succeeded
  | some response =>
    simp only [recorded, Bool.and_eq_true, Bool.or_eq_true, decide_eq_true_eq] at succeeded
    obtain ⟨⟨kind, request⟩, accepted⟩ := succeeded
    have rolling : rollbackStep entry.step = true :=
      (rollbackRequests_adapter (by simpa [rollbackRequests] using kind)).2
    refine ⟨?_, response, recorded, ?_⟩
    · rw [stepRequest_rollback rolling, request]
    · rw [stepRequest_rollback rolling]
      exact isOk_iff.mp accepted

theorem verifyEntry_rollbackEntry {index : Nat} (rolling : step ∈ rollbackRequests)
    (reply : Option AdapterResponse) (now : Int) :
    verifyEntry plan approval index (some previous)
      (rollbackEntry plan approval step earlier previous reply now) none = .ok () := by
  obtain ⟨adapter, rolls⟩ := rollbackRequests_adapter rolling
  simp only [rollbackEntry, ← stepRequest_rollback rolls]
  cases recorded : recordedResponse (stepRequest plan approval step previous.entrySHA256) reply with
  | none =>
    rw [Option.elim_none]
    exact verifyEntry_unanswered now _ adapter rolls
  | some response =>
    rw [Option.elim_some]
    obtain ⟨-, kept⟩ := Option.filter_eq_some_iff.mp recorded
    rw [Bool.and_eq_true, isOk_iff] at kept
    exact verifyEntry_answered now _ adapter kept.2 (.inr rolls)

/-! ## What a rollback does -/

inductive Rolls (plan : Plan) (approval : ApprovalReport) (admits : Admits) :
    List Act → Bool → List Act → Prop where
  | stop {trace final : List Act} {earlier : List JournalEntry} {last : JournalEntry}
      {reply : Option AdapterResponse} {now : Int} {success : Bool}
      (known : journal trace = earlier ++ [last]) (fresh : last.step ∉ rollbackBegun)
      (admitted : admits (.run (newRollbackRequest plan approval "rollback-safe-stop"
        last.entrySHA256)) reply)
      (rest : Rolls plan approval admits
        (.wrote (rollbackEntry plan approval "rollback-safe-stop" earlier last reply now) ::
          .ran (newRollbackRequest plan approval "rollback-safe-stop" last.entrySHA256) reply ::
          trace) success final) :
      Rolls plan approval admits trace success final
  | cleanup {trace final : List Act} {earlier : List JournalEntry} {last : JournalEntry}
      {reply : Option AdapterResponse} {now : Int} {success : Bool}
      (known : journal trace = earlier ++ [last]) (stopped : last.step = "rollback-safe-stop")
      (succeeded : rollbackResponseSucceeded plan approval earlier last = true)
      (admitted : admits (.run (newRollbackRequest plan approval "rollback-cleanup-requested"
        last.entrySHA256)) reply)
      (rest : Rolls plan approval admits
        (.wrote (rollbackEntry plan approval "rollback-cleanup-requested" earlier last reply
            now) ::
          .ran (newRollbackRequest plan approval "rollback-cleanup-requested" last.entrySHA256)
            reply :: trace) success final) :
      Rolls plan approval admits trace success final
  | outcome {trace : List Act} {earlier : List JournalEntry} {last : JournalEntry} {now : Int}
      (known : journal trace = earlier ++ [last])
      (ended : last.step = "rollback-cleanup-requested" ∨ last.step = "rollback-safe-stop" ∧
        rollbackResponseSucceeded plan approval earlier last = false) :
      Rolls plan approval admits trace (rollbackResponseSucceeded plan approval earlier last)
        (.wrote (outcomeEntry plan approval
          (rollbackResponseSucceeded plan approval earlier last) earlier last now) :: trace)

def Rolled (plan : Plan) (approval : ApprovalReport) (admits : Admits) (trace : List Act)
    (success : Bool) (last : List Act) : Prop :=
  Grows plan approval trace last ∧ Rolls plan approval admits trace success last

/-- What a procedure that rolls back establishes when it fails: the rollback failed, or an append
did. -/
def Unrolled (plan : Plan) (approval : ApprovalReport) (admits : Admits) (trace : List Act)
    (message : String) (last : List Act) : Prop :=
  Grows plan approval trace last ∧
    (message ∈ appendFailures ∨ Rolls plan approval admits trace false last)

/-- A procedure that rolls back from a history, counted from an earlier one. -/
abbrev RollsBack (plan : Plan) (approval : ApprovalReport) (admits : Admits) (start : List Act)
    (procedure : Step Unit) (trace : List Act) : Prop :=
  wpExit (files admits) procedure (fun _ last => Rolled plan approval admits start true last)
    (Unrolled plan approval admits start) trace

theorem rollsBack_counted {later : List Act} {procedure : Step Unit}
    (rollsBack : RollsBack plan approval admits later procedure later)
    (grows : Grows plan approval trace later)
    (step : ∀ {success final}, Rolls plan approval admits later success final →
      Rolls plan approval admits trace success final) :
    RollsBack plan approval admits trace procedure later := by
  refine wpExit_mono rollsBack ?_ ?_
  · rintro - final ⟨more, rolls⟩
    exact ⟨grows.trans more, step rolls⟩
  · rintro message final ⟨more, failed | rolls⟩
    · exact ⟨grows.trans more, .inl failed⟩
    · exact ⟨grows.trans more, .inr (step rolls)⟩

section Procedures

variable (accepted : verifyJournalBinding plan approval (journal trace) = .ok ())
  (known : journal trace = earlier ++ [previous])

include accepted known

theorem appendRollbackTerminal_spec (success : Bool)
    (ended : previous.step = "rollback-cleanup-requested" ∨
      previous.step = "rollback-safe-stop" ∧
        rollbackResponseSucceeded plan approval earlier previous = false)
    (decided : rollbackResponseSucceeded plan approval earlier previous = success) :
    RollsBack plan approval admits trace
      (appendRollbackTerminal plan approval earlier previous (outcomeStep success)) trace := by
  unfold appendRollbackTerminal
  refine wpExit_observed fun now _ => ?_
  have fits : verifyFrom plan approval 0 none (journal trace ++
      [outcomeEntry plan approval success earlier previous now]) = .ok () := by
    rw [known]
    refine verifyFrom_extends (verifyJournalBinding_parts accepted known).2 (fun _ => ?_)
      (verifyEntry_terminal now _ (by cases success <;> simp [outcomeStep]))
    cases success with
    | false => exact .inl rfl
    | true => exact .inr fun before neighbour =>
        rollbackResponseSucceeded_responded decided neighbour
  refine wpExit_run (append_allowed fits) fun recorded last reached => ?_
  have rolls : Rolls plan approval admits trace success
      (.wrote (outcomeEntry plan approval success earlier previous now) :: trace) := by
    rw [← decided]
    exact .outcome known ended
  refine wpExit_unless (fun refused => ?_) fun success' => ?_
  · refine ⟨?_, .inl (by simp [appendFailures])⟩
    rcases reached.1 with rfl | ⟨rfl, allowed⟩
    · exact .same
    · exact .act .same allowed
  · obtain rfl := reached.2 success'
    have grows : Grows plan approval trace
        (.wrote (outcomeEntry plan approval success earlier previous now) :: trace) := by
      rcases reached.1 with impossible | ⟨-, allowed⟩
      · exact absurd impossible (by simp)
      · exact .act .same allowed
    cases success with
    | true =>
      exact (wpExit_require _ _).mpr ⟨fun _ => ⟨grows, rolls⟩, fun impossible => nomatch impossible⟩
    | false =>
      exact (wpExit_require _ _).mpr
        ⟨(fun impossible => nomatch impossible), fun _ => ⟨grows, .inr rolls⟩⟩

variable (bound : identity = some plan.adapter.executableSHA256)

include bound

theorem requestRollback_spec {failure message : String} (rolling : step ∈ rollbackRequests)
    (named : adapterFailureSHA256 failure = expectedFailure step)
    (settled : rollbackStep previous.step = true →
      rollbackResponseSucceeded plan approval earlier previous = true) :
    let request := newRollbackRequest plan approval step previous.entrySHA256
    wpExit (files admits)
      (requestRollback plan approval identity step failure message earlier previous)
      (fun result last => ∃ reply now, admits (.run request) reply ∧
        result = (rollbackEntry plan approval step earlier previous reply now,
          (answered request reply).outcome.isOk) ∧
        last = .wrote result.1 :: .ran request reply :: trace ∧ Grows plan approval trace last)
      (fun text last => text = message ∧ Grows plan approval trace last) trace := by
  intro request
  obtain ⟨mode, stepped, -, adapter, digested⟩ :=
    newRollbackRequest_spec plan approval step previous.entrySHA256
  unfold requestRollback
  refine wpExit_run invoke_spec fun invoked last reached => ?_
  rcases reached with ⟨message, -, -, foreign⟩ | ⟨reply, admitted, rfl, rfl⟩
  · rw [adapter] at foreign
    rcases foreign with other | changed
    · exact absurd bound other
    · exact absurd digested changed
  have ran : Grows plan approval trace (.ran request reply :: trace) := by
    refine .act .same ⟨⟨previous, by rw [known, List.getLast?_concat], ?_⟩, fun apply' => ?_⟩
    · rw [stepped, stepRequest_rollback (rollbackRequests_adapter rolling).2]
    · rw [mode] at apply'
      exact absurd apply' (by decide)
  refine wpExit_observed fun now _ => ?_
  have entered : newJournalEntry now (earlier.length + 2) plan approval step
      request.requestSHA256 ((recordedResponse request (answered request reply).response).elim
        (adapterFailureSHA256 failure) AdapterResponse.responseSHA256) previous.entrySHA256
      (recordedResponse request (answered request reply).response) =
        rollbackEntry plan approval step earlier previous reply now := by
    rw [answered_response, named]
    rfl
  rw [entered]
  have fits : verifyFrom plan approval 0 none (journal (.ran request reply :: trace) ++
      [rollbackEntry plan approval step earlier previous reply now]) = .ok () := by
    rw [journal, known]
    refine verifyFrom_extends (verifyJournalBinding_parts accepted known).2 (fun rolled => ?_)
      (verifyEntry_rollbackEntry rolling reply now)
    exact .inr fun before neighbour =>
      rollbackResponseSucceeded_responded (settled rolled) neighbour
  refine wpExit_run (append_allowed fits) fun recorded last reached => ?_
  have grows : Grows plan approval trace last := by
    rcases reached.1 with rfl | ⟨rfl, allowed⟩
    · exact ran
    · exact .act ran allowed
  refine wpExit_unless (fun _ => ⟨rfl, grows⟩) fun success => ?_
  exact ⟨reply, now, admitted, rfl, reached.2 success, grows⟩

theorem continueRollbackCleanup_spec (stopped : previous.step = "rollback-safe-stop")
    (succeeded : rollbackResponseSucceeded plan approval earlier previous = true) :
    RollsBack plan approval admits trace
      (continueRollbackCleanup plan approval identity earlier previous) trace := by
  unfold continueRollbackCleanup
  have rolling : "rollback-cleanup-requested" ∈ rollbackRequests := by decide
  refine (wpExit_bind _ _ _).mpr (wpExit_mono (requestRollback_spec accepted known bound rolling rfl
    fun _ => succeeded) ?_ ?_)
  · rintro result last ⟨reply, now, admitted, rfl, rfl, grows⟩
    exact rollsBack_counted (appendRollbackTerminal_spec (grows.accepted accepted)
      (by rw [journal, journal, known]) _ (.inl rfl) (rollbackEntry_succeeded rolling reply now))
      grows (.cleanup known stopped succeeded admitted)
  · rintro message last ⟨rfl, grows⟩
    exact ⟨grows, .inl (by simp [appendFailures])⟩

theorem beginRollback_spec (fresh : previous.step ∉ rollbackBegun) :
    RollsBack plan approval admits trace
      (beginRollback plan approval identity earlier previous) trace := by
  have unrolled : rollbackStep previous.step = false := by
    have steps := (verifyJournalBinding_parts accepted known).1
    refine rollbackStep_applySteps _ ((steps.known ?_).resolve_right fresh)
    exact List.mem_map_of_mem (by simp)
  have rolling : "rollback-safe-stop" ∈ rollbackRequests := by decide
  unfold beginRollback
  refine (wpExit_bind _ _ _).mpr (wpExit_mono (requestRollback_spec accepted known bound rolling rfl
    fun rolled => by rw [unrolled] at rolled; exact absurd rolled (by decide)) ?_ ?_)
  · rintro result last ⟨reply, now, admitted, rfl, rfl, grows⟩
    have decided : rollbackResponseSucceeded plan approval (earlier ++ [previous])
        (rollbackEntry plan approval "rollback-safe-stop" earlier previous reply now) = _ :=
      rollbackEntry_succeeded rolling reply now
    have later := grows.accepted accepted
    dsimp only
    split
    · rename_i success
      exact rollsBack_counted (continueRollbackCleanup_spec later
        (by rw [journal, journal, known]) bound rfl (decided.trans success)) grows
        (.stop known fresh admitted)
    · rename_i failure
      rw [Bool.not_eq_true] at failure
      exact rollsBack_counted (appendRollbackTerminal_spec later
        (by rw [journal, journal, known]) false (.inr ⟨rfl, decided.trans failure⟩)
        (decided.trans failure)) grows (.stop known fresh admitted)
  · rintro message last ⟨rfl, grows⟩
    exact ⟨grows, .inl (by simp [appendFailures])⟩

theorem resumeRollback_spec :
    wpExit (files admits) (resumeRollback plan approval identity earlier previous)
      (fun _ last => Rolled plan approval admits trace true last ∨
        last = trace ∧ previous.step = "rolled-back")
      (fun message last =>
        Unrolled plan approval admits trace message last ∧ previous.step ∉ terminalSteps ∨
          last = trace ∧ previous.step ∈ ["completed", "rollback-failed"]) trace := by
  have weaker (unfinished : previous.step ∉ terminalSteps) {procedure : Step Unit}
      (holds : RollsBack plan approval admits trace procedure trace) :
      wpExit (files admits) procedure
        (fun _ last => Rolled plan approval admits trace true last ∨
          last = trace ∧ previous.step = "rolled-back")
        (fun message last =>
          Unrolled plan approval admits trace message last ∧ previous.step ∉ terminalSteps ∨
            last = trace ∧ previous.step ∈ ["completed", "rollback-failed"]) trace :=
    wpExit_mono holds (fun _ _ rolled => .inl rolled) fun _ _ unrolled =>
      .inl ⟨unrolled, unfinished⟩
  unfold resumeRollback
  dsimp only
  split
  · rename_i completed
    exact wpExit_fail.mpr (.inr ⟨rfl, by simp [completed]⟩)
  rename_i uncompleted
  split
  · rename_i rolledBack
    exact .inr ⟨rfl, rolledBack⟩
  rename_i unrolled
  split
  · rename_i failed
    exact wpExit_fail.mpr (.inr ⟨rfl, by simp [failed]⟩)
  rename_i unfailed
  refine weaker (by simp [terminalSteps, uncompleted, unrolled, unfailed]) ?_
  split
  · rename_i stopped
    split
    · rename_i succeeded
      exact continueRollbackCleanup_spec accepted known bound stopped succeeded
    · rename_i failure
      rw [Bool.not_eq_true] at failure
      exact appendRollbackTerminal_spec accepted known false (.inr ⟨stopped, failure⟩) failure
  rename_i unstopped
  split
  · rename_i cleaning
    exact appendRollbackTerminal_spec accepted known _ (.inl cleaning) rfl
  · rename_i uncleaned
    refine beginRollback_spec accepted known bound ?_
    simp [rollbackBegun, rollbackRequests, terminalSteps, uncompleted, unrolled, unfailed,
      unstopped, uncleaned]

end Procedures

variable {confirmation : String}

theorem rollback_spec (proper : Proper plan approval trace) :
    Keeps admits plan approval (rollback plan approval confirmation identity) trace := by
  refine (wpExit_bind _ _ _).mpr (wpExit_mono openBound_spec ?_ ?_)
  · rintro entries last ⟨rfl, rfl, accepted, bound⟩
    split
    · exact wpExit_fail.mpr proper
    rename_i previous ending
    have known := (List.dropLast_append_getLast? previous ending).symm
    refine wpExit_mono (resumeRollback_spec accepted known bound) ?_ ?_
    · rintro - final (rolled | ⟨rfl, -⟩)
      · exact rolled.1.proper proper
      · exact proper
    · rintro message final (⟨unrolled, -⟩ | ⟨rfl, -⟩)
      · exact unrolled.1.proper proper
      · exact proper
  · rintro message last rfl
    exact proper

theorem rollback_accepted (now : Int)
    (accepted : verifyJournalBinding plan approval (journal trace) = .ok ())
    (known : journal trace = earlier ++ [previous]) :
    wpExit (files admits) (rollback plan approval confirmation identity)
      (fun _ last => Rolled plan approval admits trace true last ∨
        last = trace ∧ previous.step = "rolled-back")
      (fun message last =>
        Unrolled plan approval admits trace message last ∧ previous.step ∉ terminalSteps ∨
          last = trace ∧ (previous.step ∈ ["completed", "rollback-failed"] ∨
            (validateExecutionInput plan approval confirmation identity now false = .ok () →
              ¬ Steady admits))) trace := by
  refine (wpExit_bind _ _ _).mpr (wpExit_mono (openBound_accepted now accepted) ?_ ?_)
  · rintro entries last ⟨rfl, rfl, bound⟩
    simp only [known, List.getLast?_concat, List.dropLast_concat]
    refine wpExit_mono (resumeRollback_spec accepted known bound) (fun _ _ done => done) ?_
    rintro message final (unrolled | ⟨rfl, ended⟩)
    · exact .inl unrolled
    · exact .inr ⟨rfl, .inl ended⟩
  · rintro message last ⟨rfl, failed⟩
    exact .inr ⟨rfl, .inr failed⟩

/-! ## Interrupted rollbacks -/

section Rolling

variable (rolls : Rolls plan approval admits trace success final)

include rolls

theorem Rolls.extends : trace <:+ final := by
  induction rolls with
  | stop _ _ _ _ ih | cleanup _ _ _ _ _ ih =>
    exact (List.suffix_cons _ _).trans ((List.suffix_cons _ _).trans ih)
  | outcome => exact List.suffix_cons _ _

theorem Rolls.resume {newer older : List Act}
    (split : final = newer ++ (.wrote entry :: older)) (kind : entry.step ∈ rollbackRequests)
    (during : trace.length < (Act.wrote entry :: older).length) :
    Rolls plan approval admits (.wrote entry :: older) success final := by
  induction rolls with
  | stop known fresh admitted rest ih | cleanup known stopped succeeded admitted rest ih =>
    obtain ⟨more, extended⟩ := rest.extends
    rcases suffix_cases (extended.trans split) during with here | later
    · rw [here]
      exact rest
    · exact ih split later
  | outcome known ended =>
    -- The only new entry is the outcome, which is no request.
    have lengths := congrArg List.length split
    simp only [List.length_cons, List.length_append] at lengths during
    obtain rfl : newer = [] := List.eq_nil_of_length_eq_zero (by omega)
    obtain ⟨same, -⟩ := List.cons.inj split
    rw [← Act.wrote.inj same] at kind
    have outcomes : ∀ success, outcomeStep success ∉ rollbackRequests := by decide
    exact absurd kind (outcomes _)

theorem Rolls.unfinished
    (known : journal trace = earlier ++ [previous]) : previous.step ∉ terminalSteps := by
  cases rolls with
  | stop entries fresh =>
    obtain ⟨rfl, rfl⟩ := concat_inj (entries.symm.trans known)
    exact fun terminal => fresh (List.mem_append_right _ terminal)
  | cleanup entries stopped =>
    obtain ⟨rfl, rfl⟩ := concat_inj (entries.symm.trans known)
    rw [stopped]
    decide
  | outcome entries ended =>
    obtain ⟨rfl, rfl⟩ := concat_inj (entries.symm.trans known)
    rcases ended with step | ⟨step, -⟩ <;> rw [step] <;> decide

theorem Rolls.outcome_only
    (known : journal trace = earlier ++ [previous])
    (ended : previous.step = "rollback-cleanup-requested" ∨
      previous.step = "rollback-safe-stop" ∧
        rollbackResponseSucceeded plan approval earlier previous = false) :
    success = rollbackResponseSucceeded plan approval earlier previous ∧
      ∃ now, final = .wrote (outcomeEntry plan approval success earlier previous now) :: trace := by
  cases rolls with
  | stop entries fresh =>
    obtain ⟨rfl, rfl⟩ := concat_inj (entries.symm.trans known)
    refine absurd ?_ fresh
    rcases ended with step | ⟨step, -⟩ <;> rw [step] <;> decide
  | cleanup entries stopped succeeded =>
    obtain ⟨rfl, rfl⟩ := concat_inj (entries.symm.trans known)
    rcases ended with step | ⟨-, failed⟩
    · rw [stopped] at step
      exact absurd step (by decide)
    · rw [succeeded] at failed
      exact absurd failed (by decide)
  | outcome entries =>
    obtain ⟨rfl, rfl⟩ := concat_inj (entries.symm.trans known)
    exact ⟨rfl, _, rfl⟩

theorem Rolls.after_stop
    (known : journal trace = earlier ++ [previous])
    (stopped : previous.step = "rollback-safe-stop")
    (succeeded : rollbackResponseSucceeded plan approval earlier previous = true) :
    let request := newRollbackRequest plan approval "rollback-cleanup-requested"
      previous.entrySHA256
    ∃ reply now later, admits (.run request) reply ∧
      success = (answered request reply).outcome.isOk ∧
      final = .wrote (outcomeEntry plan approval success (earlier ++ [previous])
          (rollbackEntry plan approval "rollback-cleanup-requested" earlier previous reply now)
          later) ::
        .wrote (rollbackEntry plan approval "rollback-cleanup-requested" earlier previous reply
          now) :: .ran request reply :: trace := by
  cases rolls with
  | stop entries fresh =>
    obtain ⟨rfl, rfl⟩ := concat_inj (entries.symm.trans known)
    rw [stopped] at fresh
    exact absurd (by decide) fresh
  | @cleanup _ _ _ _ reply now _ entries _ _ admitted rest =>
    obtain ⟨rfl, rfl⟩ := concat_inj (entries.symm.trans known)
    obtain ⟨decided, later, shape⟩ := rest.outcome_only (by rw [journal, journal, known])
      (.inl rfl)
    rw [rollbackEntry_succeeded (by decide)] at decided
    exact ⟨reply, now, later, admitted, decided, shape⟩
  | outcome entries ended =>
    obtain ⟨rfl, rfl⟩ := concat_inj (entries.symm.trans known)
    rcases ended with step | ⟨-, failed⟩
    · rw [stopped] at step
      exact absurd step (by decide)
    · rw [succeeded] at failed
      exact absurd failed (by decide)

end Rolling

theorem Grows.accepted_at {newer older : List Act}
    (grows : Grows plan approval trace final) (split : final = newer ++ (.wrote entry :: older))
    (during : trace.length < (Act.wrote entry :: older).length) :
    verifyJournalBinding plan approval (journal (.wrote entry :: older)) = .ok () := by
  induction grows generalizing newer with
  | same =>
    have lengths := congrArg List.length split
    rw [List.length_append] at lengths
    omega
  | act before allowed ih =>
    cases newer with
    | nil =>
      obtain ⟨rfl, rfl⟩ := List.cons.inj split
      exact allowed.1
    | cons first newer => exact ih (List.cons.inj split).2

def Answering (answers : AdapterRequest → Option AdapterResponse) (admits : Admits) : Prop :=
  ∀ request reply, admits (.run request) reply → reply = answers request

/-- What two histories with the same outcome have in common after a common part: the requests, the
steps, the responses, and the success. -/
structure Alike (success : Bool) (first second : List Act) : Prop where
  requests : sent first = sent second
  steps : (journal first).map JournalEntry.step = (journal second).map JournalEntry.step
  responses :
    (journal first).map JournalEntry.response = (journal second).map JournalEntry.response
  outcome : ∃ earlier last, journal first = earlier ++ [last] ∧ last.step = outcomeStep success

theorem Rolls.alike {answers : AdapterRequest → Option AdapterResponse} {others : Admits}
    {first second : List Act} {successAgain : Bool}
    (answering : Answering answers admits) (answeringAgain : Answering answers others)
    (accepted : verifyJournalBinding plan approval (journal trace) = .ok ())
    (known : journal trace = earlier ++ [previous]) (kind : previous.step ∈ rollbackRequests)
    (rolls : Rolls plan approval admits trace success first)
    (again : Rolls plan approval others trace successAgain second) :
    success = successAgain ∧ ∃ newer more, first = newer ++ trace ∧ second = more ++ trace ∧
      Alike success more newer ∧
      ∀ request ∈ sent more, ∀ entry ∈ journal trace, entry.step ≠ request.step := by
  by_cases ended : previous.step = "rollback-cleanup-requested" ∨
      previous.step = "rollback-safe-stop" ∧
        rollbackResponseSucceeded plan approval earlier previous = false
  · obtain ⟨decided, now, rfl⟩ := rolls.outcome_only known ended
    obtain ⟨decidedAgain, later, rfl⟩ := again.outcome_only known ended
    rw [← decided] at decidedAgain
    subst decidedAgain
    exact ⟨rfl, [_], [_], rfl, rfl, ⟨rfl, rfl, rfl, [], _, rfl, rfl⟩, nofun⟩
  · obtain ⟨stopped, succeeded⟩ : previous.step = "rollback-safe-stop" ∧
        rollbackResponseSucceeded plan approval earlier previous = true := by
      rw [not_or, not_and, Bool.not_eq_false] at ended
      have stopped : previous.step = "rollback-safe-stop" := by
        simpa [rollbackRequests, ended.1] using kind
      exact ⟨stopped, ended.2 stopped⟩
    obtain ⟨reply, now, later, admitted, decided, rfl⟩ := rolls.after_stop known stopped succeeded
    obtain ⟨replyAgain, nowAgain, laterAgain, admittedAgain, decidedAgain, rfl⟩ :=
      again.after_stop known stopped succeeded
    obtain rfl := answering _ _ admitted
    obtain rfl := answeringAgain _ _ admittedAgain
    rw [← decided] at decidedAgain
    subst decidedAgain
    refine ⟨rfl, [_, _, _], [_, _, _], rfl, rfl, ⟨?_, ?_, ?_, [_], _, rfl, ?_⟩, ?_⟩
    · simp only [sent]
    · simp only [journal, List.nil_append, List.cons_append, List.map_cons, List.map_nil,
        rollbackEntry, outcomeEntry, newJournalEntry_step]
    · simp only [journal, List.nil_append, List.cons_append, List.map_cons, List.map_nil,
        rollbackEntry, outcomeEntry, newJournalEntry_response]
    · simp only [outcomeEntry, newJournalEntry_step]
    intro request sending entry member same
    obtain rfl := List.mem_singleton.mp sending
    have steps := (verifyJournalBinding_parts accepted known).1
    refine steps.uncleaned ?_ (List.mem_map.mpr ⟨entry, by rw [← known]; exact member, ?_⟩)
    · rw [List.map_append, List.map_singleton, List.getLast?_concat, stopped]
    · rw [same]
      exact (newRollbackRequest_spec plan approval _ _).2.1

/-- What a call of `Rollback` on an accepted journal did if none of its appends failed and it was
able to begin. -/
theorem rolled_of_run {result : Except String Unit} (now : Int)
    (accepted : verifyJournalBinding plan approval (journal trace) = .ok ())
    (known : journal trace = earlier ++ [previous])
    (run : Run (files admits) trace (rollback plan approval confirmation identity).run result final)
    (recorded : ∀ message ∈ appendFailures, result ≠ .error message) :
    Rolled plan approval admits trace result.isOk final ∨ final = trace ∧
      (previous.step = "rolled-back" ∧ result.isOk = true ∨
        previous.step ∈ ["completed", "rollback-failed"] ∧ result.isOk = false ∨
        (validateExecutionInput plan approval confirmation identity now false = .ok () →
          ¬ Steady admits)) := by
  have outcome := wp_run (rollback_accepted now accepted known) run
  cases result with
  | ok value =>
    rcases outcome with rolled | ⟨rfl, step⟩
    · exact .inl rolled
    · exact .inr ⟨rfl, .inl ⟨step, rfl⟩⟩
  | error message =>
    rcases outcome with ⟨⟨grows, failed | rolls⟩, -⟩ | ⟨rfl, ended | failed⟩
    · exact absurd rfl (recorded message failed)
    · exact .inl ⟨grows, rolls⟩
    · exact .inr ⟨rfl, .inr (.inl ⟨ended, rfl⟩)⟩
    · exact .inr ⟨rfl, .inr (.inr failed)⟩

theorem rollback_again {result : Except String Unit} {now : Int}
    (accepted : verifyJournalBinding plan approval (journal trace) = .ok ())
    (known : journal trace = earlier ++ [previous]) (ended : previous.step = outcomeStep success)
    (steady : Steady admits)
    (valid : validateExecutionInput plan approval confirmation identity now false = .ok ())
    (run : Run (files admits) trace (rollback plan approval confirmation identity).run result
      final) :
    final = trace ∧ result.isOk = success := by
  have terminal : previous.step ∈ terminalSteps := by
    rw [ended]
    cases success <;> decide
  have outcome := wp_run (rollback_accepted now accepted known) run
  cases result with
  | ok value =>
    rcases outcome with rolled | ⟨rfl, step⟩
    · exact absurd terminal (rolled.2.unfinished known)
    · refine ⟨rfl, ?_⟩
      rw [ended] at step
      cases success
      · exact absurd step (by decide)
      · rfl
  | error message =>
    rcases outcome with ⟨-, unfinished⟩ | ⟨rfl, step | failed⟩
    · exact absurd terminal unfinished
    · refine ⟨rfl, ?_⟩
      rw [ended] at step
      cases success
      · rfl
      · exact absurd step (by decide)
    · exact absurd steady (failed valid)

/-- A rollback that is killed right after its safe stop or its cleanup was recorded can be called
again. Let the adapter's answer be a function of the request, and take a run of `Rollback` on an
accepted journal that was neither completed nor rolled back, in which no append failed. If it is
killed there and `Rollback` is called again with valid inputs, on a journal that can be opened and
read, and no append fails, then the second call sends exactly the requests that were still to be
sent, none of which is recorded, and ends with the same steps, responses, outcome and success as
the run without the kill. Every further call does nothing and reports the same outcome. -/
theorem rollback_resumes {answers : AdapterRequest → Option AdapterResponse}
    {running resuming : Admits} (answering : Answering answers running)
    (answeringAgain : Answering answers resuming) (steady : Steady resuming)
    {start rest older final resumed : List Act} {entry : JournalEntry}
    {confirmationAgain : String} {identityAgain : Option String} {now : Int}
    {result again : Except String Unit}
    (accepted : verifyJournalBinding plan approval (journal start) = .ok ())
    (fresh : ∀ entry ∈ journal start, entry.step ∉ rollbackBegun)
    (run : Run (files running) start (rollback plan approval confirmation identity).run result
      final)
    (recorded : ∀ message ∈ appendFailures, result ≠ .error message)
    (killed : final = rest ++ (.wrote entry :: older)) (kind : entry.step ∈ rollbackRequests)
    (valid : validateExecutionInput plan approval confirmationAgain identityAgain now false =
      .ok ())
    (resumption : Run (files resuming) (.wrote entry :: older)
      (rollback plan approval confirmationAgain identityAgain).run again resumed)
    (recordedAgain : ∀ message ∈ appendFailures, again ≠ .error message) :
    (∃ more, resumed = more ++ (.wrote entry :: older) ∧ sent more = sent rest ∧
      ∀ request ∈ sent more, ∀ known ∈ journal (.wrote entry :: older),
        known.step ≠ request.step) ∧
    (journal resumed).map JournalEntry.step = (journal final).map JournalEntry.step ∧
    (journal resumed).map JournalEntry.response = (journal final).map JournalEntry.response ∧
    (∃ last, (journal resumed).getLast? = some last ∧ last.step = outcomeStep result.isOk) ∧
    again.isOk = result.isOk ∧
    ∀ (later : Admits) (confirmation : String) (identity : Option String) (now : Int)
        (further : Except String Unit) (last : List Act), Steady later →
      validateExecutionInput plan approval confirmation identity now false = .ok () →
      Run (files later) resumed (rollback plan approval confirmation identity).run further last →
      last = resumed ∧ further.isOk = result.isOk := by
  have absent : entry ∉ journal start := fun member =>
    fresh entry member (List.mem_append_left _ kind)
  -- The run without the kill is a rollback, since it wrote the entry.
  obtain ⟨earlier, previous, known⟩ :
      ∃ earlier previous, journal start = earlier ++ [previous] := by
    rcases List.eq_nil_or_concat (journal start) with empty | known
    · rw [verifyJournalBinding, empty] at accepted
      cases accepted
    · simpa using known
  have rolled : Rolled plan approval running start result.isOk final := by
    rcases rolled_of_run now accepted known run recorded with rolled | ⟨rfl, -⟩
    · exact rolled
    · refine absurd ?_ absent
      rw [killed, journal_append, journal]
      simp
  have during := length_lt_of_suffix rolled.2.extends ⟨rest, killed.symm⟩ absent
  have continued := rolled.2.resume killed kind during
  have acceptedThen := rolled.1.accepted_at killed during
  -- The second call is a rollback from there.
  have rolledAgain : Rolled plan approval resuming (.wrote entry :: older) again.isOk resumed := by
    have unended : entry.step ∉ terminalSteps := by
      have others : ∀ step ∈ rollbackRequests, step ∉ terminalSteps := by decide
      exact others _ kind
    rcases rolled_of_run now acceptedThen rfl resumption recordedAgain with
      rolled | ⟨-, ⟨step, -⟩ | ⟨step, -⟩ | failed⟩
    · exact rolled
    · exact absurd (by rw [step]; decide) unended
    · have ends : ∀ step ∈ ["completed", "rollback-failed"], step ∈ terminalSteps := by decide
      exact absurd (ends _ step) unended
    · exact absurd steady (failed valid)
  obtain ⟨same, newer, more, rfl, rfl, alike, unsent⟩ :=
    continued.alike answering answeringAgain acceptedThen rfl kind rolledAgain.2
  obtain rfl : newer = rest := List.append_cancel_right killed
  obtain ⟨front, last, ending, step⟩ := alike.outcome
  have ended : journal (more ++ .wrote entry :: older) =
      (journal (.wrote entry :: older) ++ front) ++ [last] := by
    rw [journal_append, ending, List.append_assoc]
  refine ⟨⟨more, rfl, alike.requests, unsent⟩, ?_, ?_, ⟨last, ?_, step⟩, same.symm, ?_⟩
  · rw [journal_append, journal_append, List.map_append, List.map_append, alike.steps]
  · rw [journal_append, journal_append, List.map_append, List.map_append, alike.responses]
  · rw [ended, List.getLast?_concat]
  · intro later confirmation identity now further final steady valid run
    exact rollback_again (rolledAgain.1.accepted acceptedThen) ended step steady valid run

end Rollback

/-! ## A sample rollback -/

def sampleAdmits : Admits
  | .openJournal, opened => opened = true
  | .read, found => ∃ entries, found = some (entries, 2)
  | .run _, reply => reply = none
  | _, _ => True

theorem sampleAdmits_steady : Steady sampleAdmits := by
  refine ⟨fun _ admitted => admitted, fun found admitted => ?_⟩
  obtain ⟨entries, rfl⟩ := admitted
  exact ⟨entries, 2, rfl, by decide, by decide⟩

section Sample

variable [Runtime] {trace : List Act} {plan : Plan} {approval : ApprovalReport}

theorem load_run (valid : validateJournalEntries (journal trace) = .ok ()) :
    Run (files sampleAdmits) trace load (some (journal trace, 2)) trace := by
  have read : files sampleAdmits trace .read (some (journal trace, 2)) trace :=
    ⟨⟨journal trace, rfl⟩, rfl, fun _ _ same => (Prod.mk.inj (Option.some.inj same)).1.symm⟩
  refine Run.bind (Run.ask _ read (Run.done _ _)) ?_
  simp only [valid, isOk_ok]
  exact Run.done _ _

theorem openBound_run {confirmation unavailable : String} {identity : Option String}
    (input : validateExecutionInput plan approval confirmation identity 0 false = .ok ())
    (accepted : verifyJournalBinding plan approval (journal trace) = .ok ()) :
    Run (files sampleAdmits) trace
      (openBound plan approval confirmation identity unavailable).run (.ok (journal trace))
      trace := by
  obtain ⟨some', valid⟩ := verifyJournalBinding_valid accepted
  have nonempty : (journal trace).isEmpty = false := by simpa using some'
  unfold openBound
  refine Run.lifted (Run.ask (0 : Int) ⟨trivial, rfl⟩ (Run.done _ _)) ?_
  rw [input]
  refine Run.lifted (Run.ask true ⟨rfl, rfl⟩ (Run.done _ _)) ?_
  refine Run.lifted (load_run valid) ?_
  simp only [nonempty, accepted]
  exact Run.done _ _

end Sample

def sampleFirst : JournalEntry :=
  (@honestJournal plainRuntime (samplePlan "one") sampleApproval 0 0).2

def sampleStop : JournalEntry :=
  @rollbackEntry plainRuntime (samplePlan "one") sampleApproval "rollback-safe-stop" []
    sampleFirst none 0

def sampleOutcome : JournalEntry :=
  @outcomeEntry plainRuntime (samplePlan "one") sampleApproval false [sampleFirst] sampleStop 0

/-- The call of `Rollback` on the sample plan. -/
def sampleRollback : Step Unit :=
  @rollback plainRuntime (samplePlan "one") sampleApproval sampleApproval.approvalTuple
    (some (samplePlan "one").adapter.executableSHA256)

def sampleRequest : AdapterRequest :=
  @newRollbackRequest plainRuntime (samplePlan "one") sampleApproval "rollback-safe-stop"
    sampleFirst.entrySHA256

deriving instance DecidableEq for Act

/-- Every file operation succeeds, and the adapter does not answer. -/
def sampleHandler (trace : List Act) : (call : Call) → Reply call × List Act
  | .absent | .openJournal => (true, trace)
  | .read => (some (journal trace, 2), trace)
  | .create entry =>
    if journal trace = [] then (true, .wrote entry :: trace) else (false, trace)
  | .write entry => (true, .wrote entry :: trace)
  | .now => (0, trace)
  | .run request => (none, .ran request none :: trace)

theorem run_sampleHandler {α : Type} {program : Action α} {trace last : List Act} {value : α}
    (evaluated : program.runWith sampleHandler trace = (value, last)) :
    Run (files sampleAdmits) trace program value last := by
  have admitted : ∀ trace call, files sampleAdmits trace call (sampleHandler trace call).1
      (sampleHandler trace call).2 := by
    intro trace call
    by_cases empty : journal trace = [] <;> cases call <;>
      simp [files, effect, sampleAdmits, sampleHandler, empty]
  have run := run_runWith admitted program trace
  rwa [evaluated] at run

theorem sampleFirst_accepted : @verifyJournalBinding plainRuntime (samplePlan "one") sampleApproval
    [sampleFirst] = .ok () := by
  decide +kernel

theorem sampleRollback_run :
    Run (files sampleAdmits) [.wrote sampleFirst] sampleRollback.run
      (.error "backup drill rollback cleanup failed") [.wrote sampleOutcome, .wrote sampleStop,
        .ran sampleRequest none, .wrote sampleFirst] :=
  Run.onward (@openBound_run plainRuntime _ _ _ _ _ _ sampleInput sampleFirst_accepted)
    (run_sampleHandler (by decide +kernel))

/-- The sample rollback fails. When it is killed after its safe stop and called again it fails in
the same way, and so does every further call. -/
theorem rollback_resumes_sample :
    let start := [Act.wrote sampleFirst]
    let killed := .wrote sampleStop :: .ran sampleRequest none :: start
    let failed := Except.error "backup drill rollback cleanup failed"
    Run (files sampleAdmits) start sampleRollback.run failed (.wrote sampleOutcome :: killed) ∧
      Run (files sampleAdmits) killed sampleRollback.run failed
        (.wrote sampleOutcome :: killed) ∧
      ∀ further last, Run (files sampleAdmits) (.wrote sampleOutcome :: killed)
        sampleRollback.run further last →
        last = .wrote sampleOutcome :: killed ∧ further.isOk = false := by
  intro start killed failed
  have stopped : @verifyJournalBinding plainRuntime (samplePlan "one") sampleApproval
      [sampleFirst, sampleStop] = .ok () := by decide +kernel
  have again : Run (files sampleAdmits) killed sampleRollback.run failed
      (.wrote sampleOutcome :: killed) :=
    Run.onward (@openBound_run plainRuntime _ _ _ _ _ _ sampleInput stopped)
      (run_sampleHandler (by decide +kernel))
  refine ⟨sampleRollback_run, again, fun further last next => ?_⟩
  have answering : Answering (fun _ => none) sampleAdmits := fun _ _ admitted => admitted
  have unfailed : ∀ message ∈ appendFailures, failed ≠ .error message := by
    intro message member same
    rw [← Except.error.inj same] at member
    exact absurd member (by decide)
  have fresh : ∀ entry ∈ journal start, entry.step ∉ rollbackBegun := by
    intro entry member
    rw [List.mem_singleton.mp member]
    have first : sampleFirst.step = "approval-consumed" := rfl
    rw [first]
    decide
  have facts := @rollback_resumes plainRuntime _ _ _ _ _ _ _ answering answering
    sampleAdmits_steady start [.wrote sampleOutcome] _ _ _ _ _ _ _ _ _
    sampleFirst_accepted fresh sampleRollback_run unfailed
    rfl (by decide) sampleInput again unfailed
  exact facts.2.2.2.2.2 sampleAdmits _ _ 0 further last sampleAdmits_steady sampleInput next

end CloudRing.BackupDrill
