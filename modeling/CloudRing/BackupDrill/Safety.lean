import CloudRing.BackupDrill.Rollback

/-!
# Safety of a drill

Whatever the adapter answers, and however the calls of `Apply`, `Recover` and `Rollback` follow one
another and are killed, every history is proper.
-/

namespace CloudRing.BackupDrill

open Library Library.Program

theorem files_answers (trace : List Act) (call : Call) :
    ∃ reply next, files anyReply trace call reply next := by
  cases call with
  | absent | openJournal => exact ⟨false, trace, trivial, rfl⟩
  | create entry => exact ⟨false, trace, trivial, .inl ⟨rfl, rfl⟩⟩
  | read => exact ⟨none, trace, trivial, rfl, nofun⟩
  | write entry => exact ⟨false, trace, trivial, .inr ⟨rfl, rfl⟩⟩
  | now => exact ⟨(0 : Int), trace, trivial, rfl⟩
  | run request => exact ⟨none, .ran request none :: trace, trivial, rfl⟩

theorem effect_cases {trace next : List Act} {call : Call} {reply : Reply call}
    (done : effect trace call reply next) : next = trace ∨ ∃ act, next = act :: trace := by
  cases call with
  | absent | openJournal | now => exact .inl done
  | create entry =>
    rcases done with ⟨-, same⟩ | ⟨-, written⟩
    · exact .inl same
    · exact .inr ⟨_, written⟩
  | read => exact .inl done.1
  | write entry =>
    rcases done with written | ⟨-, same⟩
    · exact .inr ⟨_, written⟩
    · exact .inl same
  | run request => exact .inr ⟨_, done⟩

section Safety

variable [Runtime] {plan : Plan} {approval : ApprovalReport} {trace last : List Act}

theorem Proper.before {call : Call} {reply : Reply call}
    (done : files anyReply trace call reply last) (proper : Proper plan approval last) :
    Proper plan approval trace := by
  rcases effect_cases done.2 with rfl | ⟨act, rfl⟩
  · exact proper
  · exact proper.2

theorem Proper.cut {α : Type} {procedure : Step α}
    (keeps : wpExit (files anyReply) procedure (fun _ last => Proper plan approval last)
      (fun _ last => Proper plan approval last) trace)
    (killed : Cut (files anyReply) trace procedure.run last) : Proper plan approval last := by
  have holds : procedure.run.wp (files anyReply) (fun _ last => Proper plan approval last)
      trace := by
    refine wp_mono keeps fun result last reached => ?_
    cases result <;> exact reached
  exact killed.safe files_answers (fun _ _ _ _ done proper => proper.before done) holds

/-- The histories of a plan and an approval. Calls follow one another from a path without a
journal, and each of them may be killed at any point or return. An `Apply` takes the lock only
after it created the journal, so other calls may come before the rest of it. -/
inductive Reachable (plan : Plan) (approval : ApprovalReport) : List Act → Prop where
  | start : Reachable plan approval []
  | apply {trace last : List Act} (confirmation : String) (identity : Option String)
      (before : Reachable plan approval trace)
      (called : Cut (files anyReply) trace
        (BackupDrill.apply plan approval confirmation identity).run last) :
      Reachable plan approval last
  | finishApply {trace last : List Act} (identity : Option String)
      (before : Reachable plan approval trace)
      (called : Cut (files anyReply) trace
        (BackupDrill.finishApply plan approval identity).run last) :
      Reachable plan approval last
  | recover {trace last : List Act} (confirmation : String) (identity : Option String)
      (before : Reachable plan approval trace)
      (called : Cut (files anyReply) trace
        (BackupDrill.recover plan approval confirmation identity).run last) :
      Reachable plan approval last
  | rollback {trace last : List Act} (confirmation : String) (identity : Option String)
      (before : Reachable plan approval trace)
      (called : Cut (files anyReply) trace
        (BackupDrill.rollback plan approval confirmation identity).run last) :
      Reachable plan approval last

theorem Reachable.proper (reachable : Reachable plan approval trace) :
    Proper plan approval trace := by
  induction reachable with
  | start => trivial
  | apply confirmation identity _ called ih => exact .cut (apply_spec ih) called
  | finishApply identity _ called ih => exact .cut (finishApply_spec ih) called
  | recover confirmation identity _ called ih => exact .cut (recover_spec ih) called
  | rollback confirmation identity _ called ih => exact .cut (rollback_spec ih) called

theorem Proper.allowed {newer older : List Act} {act : Act} (proper : Proper plan approval trace)
    (split : trace = newer ++ act :: older) : Allowed plan approval (journal older) act := by
  induction newer generalizing trace with
  | nil =>
    subst split
    exact proper.1
  | cons first newer ih =>
    subst split
    exact ih proper.2 rfl

structure Safe (plan : Plan) (approval : ApprovalReport) (trace : List Act) : Prop where
  accepted : journal trace ≠ [] → verifyJournalBinding plan approval (journal trace) = .ok ()
  started : ∀ newer request reply older, trace = newer ++ .ran request reply :: older →
    request.mode = "apply" → ∀ step ∈ ["approval-consumed", "mutation-started"],
      step ∈ (journal older).map JournalEntry.step
  forward : ∀ newer request reply older, trace = newer ++ .ran request reply :: older →
    request.mode = "apply" → rollbackStarted (journal older) = false
  ended : ∀ newer entry older last, trace = newer ++ .wrote entry :: older →
    (journal older).getLast? = some last → last.step ∉ terminalSteps
  identical : ∀ newer request reply older others request' reply' older',
    trace = newer ++ .ran request reply :: older →
    trace = others ++ .ran request' reply' :: older' →
    (journal older).getLast? = (journal older').getLast? → request.step = request'.step →
    request = request'

/-- Every history of calls of `Apply`, `Recover` and `Rollback`, killed or not, is safe: the
journal is accepted, apply requests come after the start of the mutation and before any rollback,
an ended journal is not extended, and a request that is sent again is the same. -/
theorem reachable_safe (reachable : Reachable plan approval trace) : Safe plan approval trace := by
  have proper := reachable.proper
  refine ⟨proper.accepted, ?_, ?_, ?_, ?_⟩
  · intro newer request reply older split apply'
    exact ((proper.allowed split).2 apply').2
  · intro newer request reply older split apply'
    exact ((proper.allowed split).2 apply').1
  · intro newer entry older last split
    exact (proper.allowed split).2 last
  · intro newer request reply older others request' reply' older' split split' same step
    obtain ⟨⟨last, ending, stepped⟩, -⟩ := proper.allowed split
    obtain ⟨⟨last', ending', stepped'⟩, -⟩ := proper.allowed split'
    rw [ending, ending', Option.some.injEq] at same
    rw [stepped, stepped', same, step]

end Safety

/-! ## A sample history -/

theorem sampleInput_fresh : @validateExecutionInput plainRuntime (samplePlan "one") sampleApproval
    sampleApproval.approvalTuple (some (samplePlan "one").adapter.executableSHA256) 0 true =
      .ok () := by
  have fresh : @validateApproval plainRuntime (samplePlan "one") sampleApproval 0 = .ok () := by
    unfold validateApproval
    exact check_bind.mpr ⟨sampleApproval_bound, by rfl⟩
  unfold validateExecutionInput
  simp only [check_bind, ensure_ok, if_true, fresh, isOk_ok]
  exact ⟨decide_eq_true trivial, rfl⟩

theorem startApply_run : Run (files sampleAdmits) []
    (@startApply plainRuntime (samplePlan "one") sampleApproval sampleApproval.approvalTuple
      (some (samplePlan "one").adapter.executableSHA256)).run (.ok ()) [.wrote sampleFirst] := by
  unfold startApply
  refine Run.lifted (Run.ask (0 : Int) ⟨trivial, rfl⟩ (Run.done _ _)) ?_
  rw [sampleInput_fresh]
  exact run_sampleHandler (by decide +kernel)

theorem files_sampleAdmits {trace next : List Act} {call : Call} {reply : Reply call}
    (done : files sampleAdmits trace call reply next) : files anyReply trace call reply next :=
  ⟨trivial, done.2⟩

/-- The history of an `Apply` of the sample plan that was killed after it created the journal, and
of a `Rollback` that failed, is safe. -/
theorem reachable_safe_sample :
    @Safe plainRuntime (samplePlan "one") sampleApproval [.wrote sampleOutcome, .wrote sampleStop,
      .ran sampleRequest none, .wrote sampleFirst] := by
  have started := startApply_run.map id fun _ _ _ _ done => files_sampleAdmits done
  have rolled := sampleRollback_run.map id fun _ _ _ _ done => files_sampleAdmits done
  have applied : @Reachable plainRuntime (samplePlan "one") sampleApproval
      [.wrote sampleFirst] :=
    @Reachable.apply plainRuntime _ _ _ _ _ _ (@Reachable.start plainRuntime _ _)
      (Cut.after started (Cut.stop _ _))
  exact @reachable_safe plainRuntime _ _ _ (@Reachable.rollback plainRuntime _ _ _ _ _ _ applied
    rolled.cut)

end CloudRing.BackupDrill
