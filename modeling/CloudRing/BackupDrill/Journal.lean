import CloudRing.BackupDrill.Requests
import Mathlib.Data.List.Induction

/-!
# The journal of a drill

`journal.go` and the binding check of `engine.go`.
-/

namespace CloudRing.BackupDrill

open Library

structure JournalEntry where
  schemaVersion : String
  sequence : Int
  (operationID planSHA256 approvalSHA256 approvalScopeSHA256 adapterExecutableSHA256 step
    requestSHA256 responseSHA256 : String)
  response : Option AdapterResponse
  (previousEntrySHA256 recordedAt entrySHA256 : String)
  deriving DecidableEq, Repr

def journalEntryVersion : String := "cloudring.backup-drill.journal-entry/v1"

def applySteps : List String :=
  ["approval-consumed", "mutation-started", "etcd-offcell-complete", "velero-backup-complete",
    "restore-watch-create-observe-complete", "etcd-sandbox-restored",
    "restore-validation-complete", "cleanup-ready", "isolated-targets-deleted",
    "residual-sweep-1", "residual-sweep-2", "proof-assembled", "completed"]

def JournalEntry.json (entry : JournalEntry) : Json :=
  .object ([("schemaVersion", .string entry.schemaVersion),
      ("sequence", integerJSON entry.sequence)] ++
    textMembers [("operationId", entry.operationID), ("planSha256", entry.planSHA256),
      ("approvalSha256", entry.approvalSHA256),
      ("approvalScopeSha256", entry.approvalScopeSHA256),
      ("adapterExecutableSha256", entry.adapterExecutableSHA256), ("step", entry.step),
      ("requestSha256", entry.requestSHA256), ("responseSha256", entry.responseSHA256)] ++
    (entry.response.elim [] fun response => [("response", response.json)]) ++
    optionalText "previousEntrySha256" entry.previousEntrySHA256 ++
    textMembers [("recordedAt", entry.recordedAt), ("entrySha256", entry.entrySHA256)])

def rollbackStep (step : String) : Bool := "rollback-".toList.isPrefixOf step.toList

def rollbackStarted (entries : List JournalEntry) : Bool :=
  entries.any fun entry => rollbackStep entry.step || entry.step = "rolled-back"

def validTransition (entries : List JournalEntry) (next : String) : Bool :=
  match entries.getLast? with
  | none => some next = applySteps[0]?
  | some entry =>
    let last := entry.step
    if entries.any (·.step = next) then false
    else if last = "rolled-back" || last = "rollback-failed" || last = "completed" then false
    else if last = "rollback-safe-stop" then
      next = "rollback-cleanup-requested" || next = "rollback-failed"
    else if last = "rollback-cleanup-requested" then
      next = "rolled-back" || next = "rollback-failed"
    else if next ∈ ["rolled-back", "rollback-failed"] then false
    else if next = "rollback-safe-stop" then true
    else some next = applySteps[entries.length]?

/-! ## Sequences of steps -/

/-- The steps that no step of `applySteps` follows. -/
def closingSteps : List String :=
  ["rolled-back", "rollback-failed", "completed", "rollback-safe-stop",
    "rollback-cleanup-requested"]

/-- What a rollback adds to a journal: a safe stop, a cleanup request and an outcome, of which the
later ones may be missing. Only a requested cleanup can end in success. -/
def rollbackTails : List (List String) :=
  [["rollback-safe-stop"],
    ["rollback-safe-stop", "rollback-cleanup-requested"],
    ["rollback-safe-stop", "rollback-failed"],
    ["rollback-safe-stop", "rollback-cleanup-requested", "rolled-back"],
    ["rollback-safe-stop", "rollback-cleanup-requested", "rollback-failed"]]

/-- The sequences of steps that a journal can have: a beginning of `applySteps`, or a beginning
without `completed` and a rollback. -/
inductive JournalSteps : List String → Prop where
  | applying (count : Nat) (started : 0 < count) (bounded : count ≤ applySteps.length) :
      JournalSteps (applySteps.take count)
  | rolling (count : Nat) (started : 0 < count) (unfinished : count < applySteps.length)
      (tail : List String) (rollback : tail ∈ rollbackTails) :
      JournalSteps (applySteps.take count ++ tail)

theorem validTransition_cases {entries : List JournalEntry} {next : String}
    (valid : validTransition entries next = true) :
    (entries = [] ∧ next = "approval-consumed") ∨
      ∃ last, (entries.map JournalEntry.step).getLast? = some last ∧
        (last = "rollback-safe-stop" ∧
            (next = "rollback-cleanup-requested" ∨ next = "rollback-failed") ∨
          last = "rollback-cleanup-requested" ∧
            (next = "rolled-back" ∨ next = "rollback-failed") ∨
          last ∉ closingSteps ∧
            (next = "rollback-safe-stop" ∨ some next = applySteps[entries.length]?)) := by
  unfold validTransition at valid
  cases ending : entries.getLast? with
  | none =>
    left
    rw [ending] at valid
    rw [List.getLast?_eq_none_iff] at ending
    have first : some next = some "approval-consumed" := by simpa [applySteps] using valid
    exact ⟨ending, Option.some.inj first⟩
  | some entry =>
    right
    refine ⟨entry.step, by rw [List.getLast?_map, ending]; rfl, ?_⟩
    rw [ending] at valid
    dsimp only at valid
    split at valid
    · exact absurd valid (by decide)
    split at valid
    · exact absurd valid (by decide)
    rename_i open'
    split at valid
    · rename_i stopped
      exact .inl ⟨stopped, by simpa using valid⟩
    rename_i unstopped
    split at valid
    · rename_i cleaning
      exact .inr (.inl ⟨cleaning, by simpa using valid⟩)
    rename_i uncleaned
    split at valid
    · exact absurd valid (by decide)
    refine .inr (.inr ⟨?_, ?_⟩)
    · simp only [Bool.or_eq_true, decide_eq_true_eq, not_or] at open'
      simp [closingSteps, open'.1.1, open'.1.2, open'.2, unstopped, uncleaned]
    · split at valid
      · rename_i stop
        exact .inl stop
      · exact .inr (by simpa using valid)

theorem applySteps_getLast {count : Nat} (started : 0 < count)
    (bounded : count ≤ applySteps.length) :
    (applySteps.take count).getLast? = applySteps[count - 1]? := by
  rw [List.getLast?_eq_getElem?, List.length_take, Nat.min_eq_left bounded,
    List.getElem?_take_of_lt (by omega)]

theorem JournalSteps.next_applying {count : Nat} (started : 0 < count)
    (bounded : count ≤ applySteps.length) {last next : String}
    (ending : (applySteps.take count).getLast? = some last) (unfinished : last ≠ "completed")
    (option : next = "rollback-safe-stop" ∨ some next = applySteps[count]?) :
    JournalSteps (applySteps.take count ++ [next]) := by
  have short : count < applySteps.length := by
    by_contra long
    obtain rfl : count = applySteps.length := by omega
    rw [applySteps_getLast started bounded] at ending
    exact unfinished (Option.some.inj ending).symm
  rcases option with rfl | follows
  · exact .rolling count started short _ (by decide)
  · have longer : applySteps.take count ++ [next] = applySteps.take (count + 1) := by
      rw [List.take_add_one, ← follows]
      rfl
    rw [longer]
    exact .applying (count + 1) (by omega) (by omega)

theorem JournalSteps.next_rolling {count : Nat} (started : 0 < count)
    (unfinished : count < applySteps.length) {tail : List String} (rollback : tail ∈ rollbackTails)
    {last next : String} (ending : tail.getLast? = some last)
    (option : last = "rollback-safe-stop" ∧
        (next = "rollback-cleanup-requested" ∨ next = "rollback-failed") ∨
      last = "rollback-cleanup-requested" ∧
        (next = "rolled-back" ∨ next = "rollback-failed")) :
    JournalSteps (applySteps.take count ++ tail ++ [next]) := by
  rw [List.append_assoc]
  refine .rolling count started unfinished _ ?_
  simp only [rollbackTails, List.mem_cons, List.not_mem_nil, or_false] at rollback
  rcases rollback with rfl | rfl | rfl | rfl | rfl <;>
    simp only [List.getLast?_cons_cons, List.getLast?_singleton, Option.some.injEq] at ending <;>
    subst ending <;> revert option <;> simp [rollbackTails]

theorem JournalSteps.next {entries : List JournalEntry} {entry : JournalEntry}
    (steps : entries ≠ [] → JournalSteps (entries.map JournalEntry.step))
    (valid : validTransition entries entry.step = true) :
    JournalSteps ((entries ++ [entry]).map JournalEntry.step) := by
  rw [List.map_append, List.map_singleton]
  rcases validTransition_cases valid with ⟨rfl, first⟩ | ⟨last, ending, option⟩
  · rw [first]
    exact .applying 1 (by decide) (by decide)
  · have some' : entries ≠ [] := by
      rintro rfl
      exact absurd ending nofun
    have counted : entries.length = (entries.map JournalEntry.step).length := by simp
    rw [counted] at option
    have known := steps some'
    generalize entries.map JournalEntry.step = before at known ending option
    cases known with
    | applying count started bounded =>
      have apply' : last ∈ applySteps :=
        List.mem_of_mem_take (List.mem_of_getLast? ending)
      rw [List.length_take, Nat.min_eq_left bounded] at option
      rcases option with ⟨rfl, -⟩ | ⟨rfl, -⟩ | ⟨other, option⟩
      · exact absurd apply' (by decide)
      · exact absurd apply' (by decide)
      · refine .next_applying started bounded ending ?_ option
        rintro rfl
        exact other (by decide)
    | rolling count started unfinished tail rollback =>
      have nonempty : tail ≠ [] := by
        rintro rfl
        exact absurd rollback (by decide)
      rw [List.getLast?_append_of_ne_nil _ nonempty] at ending
      refine .next_rolling started unfinished rollback ending ?_
      rcases option with stopped | cleaning | ⟨other, -⟩
      · exact .inl stopped
      · exact .inr cleaning
      · have known : last ∈ closingSteps := by
          simp only [rollbackTails, List.mem_cons, List.not_mem_nil, or_false] at rollback
          rcases rollback with rfl | rfl | rfl | rfl | rfl <;>
            simp only [List.getLast?_cons_cons, List.getLast?_singleton,
              Option.some.injEq] at ending <;>
            subst ending <;> decide
        exact absurd known other

theorem JournalSteps.failed_last {steps : List String} (valid : JournalSteps steps)
    (failed : "rollback-failed" ∈ steps) : steps.getLast? = some "rollback-failed" := by
  cases valid with
  | applying count =>
    exact absurd (List.mem_of_mem_take failed) (by decide)
  | rolling count started unfinished tail rollback =>
    rcases List.mem_append.mp failed with early | late
    · exact absurd (List.mem_of_mem_take early) (by decide)
    · revert tail
      simp [rollbackTails]

theorem getLast?_cons_or {first : JournalEntry} {front : List JournalEntry}
    {previous : Option JournalEntry} :
    (first :: front).getLast?.or previous = front.getLast?.or (some first) := by
  rw [List.getLast?_cons]
  cases front.getLast? <;> rfl

/-- The JSON that the digest of an entry is taken of. -/
def hashed (entry : JournalEntry) : Json := { entry with entrySHA256 := "" }.json

def lastSHA256 (entries : List JournalEntry) : String :=
  entries.getLast?.elim "" JournalEntry.entrySHA256

theorem hashed_previous {left right : JournalEntry} (same : hashed left = hashed right) :
    left.previousEntrySHA256 = right.previousEntrySHA256 := by
  simp only [hashed, JournalEntry.json, textMembers, optionalText] at same
  cases first : left.response <;> cases second : right.response <;>
    split_ifs at same <;> simp_all

section Journal

variable [Runtime]

def journalEntrySHA256 (entry : JournalEntry) : String :=
  digest { entry with entrySHA256 := "" }.json

def wellFormedEntry (entry : JournalEntry) : Bool :=
  entry.schemaVersion = journalEntryVersion && 1 ≤ entry.sequence && validID entry.operationID &&
    validSHA entry.planSHA256 && validSHA entry.approvalSHA256 &&
    validSHA entry.approvalScopeSHA256 && validSHA entry.adapterExecutableSHA256 &&
    validID entry.step && validSHA entry.requestSHA256 && validSHA entry.responseSHA256 &&
    entry.entrySHA256 = journalEntrySHA256 entry

def followsEntry (previous entry : JournalEntry) : Bool :=
  (match canonicalTime previous.recordedAt, canonicalTime entry.recordedAt with
    | some before, some after => before ≤ after
    | _, _ => false) &&
    entry.sequence = previous.sequence + 1 && entry.previousEntrySHA256 = previous.entrySHA256 &&
    entry.operationID = previous.operationID && entry.planSHA256 = previous.planSHA256 &&
    entry.approvalSHA256 = previous.approvalSHA256 &&
    entry.approvalScopeSHA256 = previous.approvalScopeSHA256 &&
    entry.adapterExecutableSHA256 = previous.adapterExecutableSHA256

def validateJournalEntry (entry : JournalEntry) (previous : Option JournalEntry) :
    Except String Unit := do
  ensure "backup drill journal entry is invalid" (wellFormedEntry entry)
  ensure "backup drill journal response is not hash-bound"
    (entry.response.elim true fun response =>
      response.responseSHA256 = entry.responseSHA256 &&
        response.responseSHA256 = adapterResponseSHA256 response)
  ensure "backup drill journal entry time is invalid" (canonicalTime entry.recordedAt).isSome
  match previous with
  | none =>
    ensure "backup drill journal does not start at sequence one"
      (entry.sequence = 1 && entry.previousEntrySHA256 = "")
  | some previous =>
    ensure "backup drill journal entry changed transaction binding" (followsEntry previous entry)

def validateChain (validated : List JournalEntry) : List JournalEntry → Except String Unit
  | [] => .ok ()
  | entry :: rest => do
    ensure "backup drill journal chain is invalid"
      ((validateJournalEntry entry validated.getLast?).isOk && validTransition validated entry.step)
    validateChain (validated ++ [entry]) rest

def validateJournalEntries (entries : List JournalEntry) : Except String Unit := do
  ensure "backup drill journal entry count is invalid" (entries ≠ [] && entries.length ≤ 32)
  validateChain [] entries

/-! ## Derived digests -/

def approvalConsumedDigests (plan : Plan) (approval : ApprovalReport) : String × String :=
  (digest (.object (textMembers [("operationId", plan.operationID),
    ("tuple", approval.approvalTuple)])), approval.preflightResponseSHA256)

def mutationStartedDigests (plan : Plan) (previous : String) : String × String :=
  (digest (.object (textMembers [("Step", "mutation-started"), ("Previous", previous)])),
    digest (.object (textMembers [("Status", "mutation-authorized"),
      ("Scope", approvalScopeSHA256 plan)])))

def completedDigests (proofResponseSHA256 : String) : String × String :=
  (digest (.object (textMembers [("Step", "completed"), ("Proof", proofResponseSHA256)])),
    proofResponseSHA256)

def rollbackTerminalDigests (step previous adapterResponseSHA256 : String) : String × String :=
  (digest (.object (textMembers [("Step", step), ("Previous", previous)])),
    digest (.object (textMembers [("Status", step),
      ("AdapterResponse", adapterResponseSHA256)])))

def adapterFailureSHA256 (reason : String) : String :=
  digest (.object (textMembers [("failure", reason)]))

def newJournalEntry (now : Int) (sequence : Int) (plan : Plan) (approval : ApprovalReport)
    (step requestSHA responseSHA previous : String) (response : Option AdapterResponse) :
    JournalEntry :=
  let entry : JournalEntry :=
    { schemaVersion := journalEntryVersion
      sequence := sequence
      operationID := plan.operationID
      planSHA256 := planSHA256 plan
      approvalSHA256 := approvalSHA256 approval
      approvalScopeSHA256 := approvalScopeSHA256 plan
      adapterExecutableSHA256 := plan.adapter.executableSHA256
      step := step
      requestSHA256 := requestSHA
      responseSHA256 := responseSHA
      response := response
      previousEntrySHA256 := previous
      recordedAt := Runtime.formatTime now
      entrySHA256 := "" }
  { entry with entrySHA256 := journalEntrySHA256 entry }

/-! ## The binding check -/

def boundEntry (plan : Plan) (approval : ApprovalReport) (entry : JournalEntry) : Bool :=
  entry.operationID = plan.operationID && entry.planSHA256 = planSHA256 plan &&
    entry.approvalSHA256 = approvalSHA256 approval &&
    entry.approvalScopeSHA256 = approvalScopeSHA256 plan &&
    entry.adapterExecutableSHA256 = plan.adapter.executableSHA256

def derivedEntry (entry : JournalEntry) (digests : String × String) : Bool :=
  entry.response = none && entry.requestSHA256 = digests.1 && entry.responseSHA256 = digests.2

def stepRequest (plan : Plan) (approval : ApprovalReport) (step previous : String) :
    AdapterRequest :=
  if rollbackStep step then newRollbackRequest plan approval step previous
  else newAdapterRequest plan approval "apply" step previous

def expectedFailure (step : String) : String :=
  if step = "rollback-safe-stop" then adapterFailureSHA256 "safe-stop-failed"
  else if step = "rollback-cleanup-requested" then adapterFailureSHA256 "adapter-execution-failed"
  else ""

/-- An entry of an adapter step. A failure is allowed when the rollback failed next, or when the
entry is the last one of a rollback. -/
def verifyAdapterEntry (plan : Plan) (approval : ApprovalReport) (previous entry : JournalEntry)
    (next : Option JournalEntry) : Except String Unit := do
  let request := stepRequest plan approval entry.step previous.entrySHA256
  ensure "backup drill journal adapter response is stale or conflicting"
    (entry.requestSHA256 = request.requestSHA256)
  let failedTerminal := next.elim false (·.step = "rollback-failed")
  let incompleteRollbackFailure := next.isNone && rollbackStep entry.step
  let failureAllowed := failedTerminal || incompleteRollbackFailure
  match entry.response with
  | none =>
    ensure "backup drill journal adapter failure is not exact"
      (failureAllowed && entry.responseSHA256 = expectedFailure entry.step)
  | some response =>
    ensure "backup drill journal adapter response digest conflicts"
      (entry.responseSHA256 = response.responseSHA256)
    ensure "backup drill journal adapter response binding is invalid"
      (validateAdapterResponseBinding request response).isOk
    ensure "backup drill journal adapter response is invalid"
      ((validateAdapterResponse request response).isOk || failureAllowed)

def verifyEntry (plan : Plan) (approval : ApprovalReport) (index : Nat)
    (previous : Option JournalEntry) (entry : JournalEntry) (next : Option JournalEntry) :
    Except String Unit := do
  ensure "backup drill journal transaction binding changed" (boundEntry plan approval entry)
  if entry.step = "approval-consumed" then
    ensure "backup drill approval-consumed journal derivation is invalid"
      (index = 0 && derivedEntry entry (approvalConsumedDigests plan approval))
  else if entry.step = "mutation-started" then
    ensure "backup drill mutation-started journal position is invalid" (index = 1)
    ensure "backup drill mutation-started journal derivation is invalid"
      (previous.elim false fun previous =>
        derivedEntry entry (mutationStartedDigests plan previous.entrySHA256))
  else if entry.step = "completed" then
    ensure "backup drill completed journal predecessor is invalid"
      (previous.elim false fun previous =>
        previous.step = "proof-assembled" && previous.response.isSome)
    ensure "backup drill completed journal derivation is invalid"
      (previous.elim false fun previous =>
        derivedEntry entry (completedDigests previous.responseSHA256))
  else if entry.step = "rolled-back" || entry.step = "rollback-failed" then
    ensure "backup drill rollback terminal predecessor is absent" previous.isSome
    ensure "backup drill rollback terminal derivation is invalid"
      (previous.elim false fun previous =>
        derivedEntry entry
          (rollbackTerminalDigests entry.step previous.entrySHA256 previous.responseSHA256))
  else
    match previous with
    | none => .error "backup drill journal begins with an adapter step"
    | some previous => verifyAdapterEntry plan approval previous entry next

def verifyFrom (plan : Plan) (approval : ApprovalReport) :
    Nat → Option JournalEntry → List JournalEntry → Except String Unit
  | _, _, [] => .ok ()
  | index, previous, entry :: rest => do
    verifyEntry plan approval index previous entry rest.head?
    verifyFrom plan approval (index + 1) (some entry) rest

def verifyJournalBinding (plan : Plan) (approval : ApprovalReport) (entries : List JournalEntry) :
    Except String Unit := do
  validateJournalEntries entries
  verifyFrom plan approval 0 none entries

/-! ## What is accepted -/

variable {plan : Plan} {approval : ApprovalReport} {entries : List JournalEntry}

theorem validateChain_concat {validated rest : List JournalEntry} {entry : JournalEntry} :
    validateChain validated (rest ++ [entry]) = .ok () ↔
      validateChain validated rest = .ok () ∧
        validateJournalEntry entry (validated ++ rest).getLast? = .ok () ∧
        validTransition (validated ++ rest) entry.step = true := by
  induction rest generalizing validated with
  | nil => simp [validateChain, check_bind, isOk_iff]
  | cons first rest ih =>
    simp only [List.cons_append, validateChain, check_bind, ih, List.append_assoc,
      List.nil_append, and_assoc]

theorem validateJournalEntries_concat {entry : JournalEntry} (some' : entries ≠ []) :
    validateJournalEntries (entries ++ [entry]) = .ok () ↔
      validateJournalEntries entries = .ok () ∧ entries.length < 32 ∧
        validateJournalEntry entry entries.getLast? = .ok () ∧
        validTransition entries entry.step = true := by
  simp only [validateJournalEntries, check_bind, ensure_ok, validateChain_concat, List.nil_append,
    Bool.and_eq_true, decide_eq_true_eq, List.length_append, List.length_singleton]
  constructor
  · rintro ⟨⟨-, short⟩, chain, valid⟩
    exact ⟨⟨⟨some', by omega⟩, chain⟩, by omega, valid⟩
  · rintro ⟨⟨-, chain⟩, short, valid⟩
    exact ⟨⟨by simp, by omega⟩, chain, valid⟩

theorem validateJournalEntries_steps (valid : validateJournalEntries entries = .ok ()) :
    JournalSteps (entries.map JournalEntry.step) := by
  rw [validateJournalEntries, check_bind, ensure_ok, Bool.and_eq_true, decide_eq_true_eq] at valid
  obtain ⟨⟨some', -⟩, chain⟩ := valid
  have steps : entries ≠ [] → JournalSteps (entries.map JournalEntry.step) := by
    clear some'
    induction entries using List.reverseRecOn with
    | nil => intro impossible; exact absurd rfl impossible
    | append_singleton entries entry ih =>
      intro _
      rw [validateChain_concat, List.nil_append] at chain
      exact .next (ih chain.1) chain.2.2
  exact steps some'

theorem verifyFrom_iff {index : Nat} {previous : Option JournalEntry} :
    verifyFrom plan approval index previous entries = .ok () ↔
      ∀ front entry back, entries = front ++ entry :: back →
        verifyEntry plan approval (index + front.length) (front.getLast?.or previous) entry
          back.head? = .ok () := by
  induction entries generalizing index previous with
  | nil => simp [verifyFrom]
  | cons first rest ih =>
    rw [verifyFrom, check_bind, ih]
    constructor
    · rintro ⟨here, later⟩ front entry back split
      cases front with
      | nil =>
        obtain ⟨rfl, rfl⟩ := List.cons.inj split
        exact here
      | cons other front =>
        obtain ⟨rfl, rfl⟩ := List.cons.inj split
        have facts := later front entry back rfl
        rw [getLast?_cons_or, List.length_cons, ← Nat.add_assoc, Nat.add_right_comm]
        exact facts
    · intro every
      refine ⟨every [] first rest rfl, fun front entry back split => ?_⟩
      have facts := every (first :: front) entry back (by rw [split]; rfl)
      rw [getLast?_cons_or, List.length_cons, ← Nat.add_assoc, Nat.add_right_comm] at facts
      exact facts

theorem verifyJournalBinding_valid
    (accepted : verifyJournalBinding plan approval entries = .ok ()) :
    entries ≠ [] ∧ validateJournalEntries entries = .ok () := by
  rw [verifyJournalBinding, check_bind] at accepted
  have valid := accepted.1
  rw [validateJournalEntries, check_bind, ensure_ok, Bool.and_eq_true, decide_eq_true_eq] at valid
  exact ⟨valid.1.1, accepted.1⟩

theorem verifyJournalBinding_entry (accepted : verifyJournalBinding plan approval entries = .ok ())
    {front back : List JournalEntry} {entry : JournalEntry}
    (split : entries = front ++ entry :: back) :
    verifyEntry plan approval front.length front.getLast? entry back.head? = .ok () := by
  rw [verifyJournalBinding, check_bind, verifyFrom_iff] at accepted
  have facts := accepted.2 front entry back split
  rwa [Nat.zero_add, Option.or_none] at facts

def adapterStep (step : String) : Prop :=
  step ∉ ["approval-consumed", "mutation-started", "completed", "rolled-back", "rollback-failed"]

def Responded (plan : Plan) (approval : ApprovalReport) (previous entry : JournalEntry) : Prop :=
  let request := stepRequest plan approval entry.step previous.entrySHA256
  entry.requestSHA256 = request.requestSHA256 ∧
    ∃ response, entry.response = some response ∧ validateAdapterResponse request response = .ok ()

theorem verifyEntry_adapter {index : Nat} {previous entry : JournalEntry}
    {next : Option JournalEntry} (step : adapterStep entry.step) :
    verifyEntry plan approval index (some previous) entry next = .ok () ↔
      boundEntry plan approval entry = true ∧
        verifyAdapterEntry plan approval previous entry next = .ok () := by
  simp only [adapterStep, List.mem_cons, List.not_mem_nil, or_false, not_or] at step
  obtain ⟨consumed, started, completed, rolledBack, failed⟩ := step
  simp only [verifyEntry, check_bind, ensure_ok, consumed, started, completed, rolledBack, failed,
    if_false, decide_false, Bool.or_self, Bool.false_eq_true]

theorem verifyEntry_responded {index : Nat} {previous entry : JournalEntry}
    {next : Option JournalEntry}
    (verified : verifyEntry plan approval index (some previous) entry next = .ok ())
    (step : adapterStep entry.step)
    (strict : next.elim false (·.step = "rollback-failed") = false ∧
      (next.isNone && rollbackStep entry.step) = false) :
    Responded plan approval previous entry := by
  simp only [verifyEntry_adapter step, verifyAdapterEntry, check_bind, ensure_ok,
    decide_eq_true_eq, strict.1, strict.2] at verified
  obtain ⟨-, request, response⟩ := verified
  refine ⟨request, ?_⟩
  cases recorded : entry.response with
  | none => simp [recorded] at response
  | some answer =>
    simp only [recorded, check_bind, ensure_ok, isOk_iff, Bool.or_false] at response
    exact ⟨answer, rfl, response.2.2⟩

/-! ## The last digest binds the journal -/

theorem validateChain_last {earlier : List JournalEntry} {last : JournalEntry}
    (valid : validateChain [] (earlier ++ [last]) = .ok ()) :
    validateChain [] earlier = .ok () ∧ last.previousEntrySHA256 = lastSHA256 earlier ∧
      lastSHA256 (earlier ++ [last]) = journalEntrySHA256 last := by
  obtain ⟨before, entry, -⟩ := validateChain_concat.mp valid
  simp only [validateJournalEntry, check_bind, ensure_ok, wellFormedEntry, Bool.and_eq_true,
    decide_eq_true_eq, List.nil_append] at entry
  obtain ⟨formed, -, -, linked⟩ := entry
  refine ⟨before, ?_, by rw [lastSHA256, List.getLast?_concat]; exact formed.2⟩
  rw [lastSHA256]
  cases previous : earlier.getLast? <;> simp_all [ensure_ok, followsEntry]

/-- Journals that agree on the last digest agree on every entry, or show two entries that differ
and have one digest. -/
def Bound (left right : List JournalEntry) : Prop :=
  lastSHA256 left = lastSHA256 right → left.map hashed = right.map hashed ∨
    ∃ one ∈ left, ∃ two ∈ right, hashed one ≠ hashed two ∧
      journalEntrySHA256 one = journalEntrySHA256 two

theorem validateChain_bound {left right : List JournalEntry}
    (valid : validateChain [] left = .ok ()) (valid' : validateChain [] right = .ok ()) :
    Bound left right := by
  -- No digest is empty, so both journals begin at the same entry.
  have some_ : ∀ entry, "" ≠ journalEntrySHA256 entry := by
    intro entry empty
    have valid := validSHA_digest (hashed entry)
    rw [show digest (hashed entry) = "" from empty.symm] at valid
    exact absurd valid (by decide)
  intro same
  induction left using List.reverseRecOn generalizing right with
  | nil =>
    rcases List.eq_nil_or_concat' right with rfl | ⟨right, two, rfl⟩
    · exact .inl rfl
    · exact absurd (same.trans (validateChain_last valid').2.2) (some_ two)
  | append_singleton left one ih =>
    obtain ⟨before, linked, sum⟩ := validateChain_last valid
    rcases List.eq_nil_or_concat' right with rfl | ⟨right, two, rfl⟩
    · exact absurd (same.symm.trans sum) (some_ one)
    obtain ⟨before', linked', sum'⟩ := validateChain_last valid'
    by_cases alike : hashed one = hashed two
    · have earlier := linked.symm.trans ((hashed_previous alike).trans linked')
      rcases ih before before' earlier with entries | ⟨first, member, second, among, collision⟩
      · exact .inl (by simp [entries, alike])
      · exact .inr ⟨first, by simp [member], second, by simp [among], collision⟩
    · exact .inr ⟨one, by simp, two, by simp, alike, sum.symm.trans (same.trans sum')⟩

theorem journals_bound (left right : {entries // validateJournalEntries entries = .ok ()}) :
    Bound left.1 right.1 :=
  validateChain_bound (check_bind.mp left.2).2 (check_bind.mp right.2).2

end Journal

end CloudRing.BackupDrill
