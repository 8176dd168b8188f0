import CloudRing.BackupDrill.Engine
import CloudRing.BackupDrill.Extension

/-!
# Runs of the drill engine

The world of a drill is the history of what was done, newest first.
-/

namespace CloudRing.BackupDrill

open Library Library.Program

inductive Act where
  | wrote (entry : JournalEntry)
  | ran (request : AdapterRequest) (reply : Option AdapterResponse)

def journal : List Act → List JournalEntry
  | [] => []
  | .wrote entry :: older => journal older ++ [entry]
  | .ran _ _ :: older => journal older

def sent : List Act → List AdapterRequest
  | [] => []
  | .wrote _ :: older => sent older
  | .ran request _ :: older => sent older ++ [request]

@[simp] theorem journal_append (newer older : List Act) :
    journal (newer ++ older) = journal older ++ journal newer := by
  induction newer with
  | nil => simp [journal]
  | cons act newer ih => cases act <;> simp [journal, ih]

/-- What a call does to the world. That there is no journal may be reported although another call
has just created one; the creation itself is exclusive. -/
def effect (trace : List Act) : (call : Call) → Reply call → List Act → Prop
  | .absent, _, next => next = trace
  | .create entry, created, next =>
    (created = false ∧ next = trace) ∨ (journal trace = [] ∧ next = .wrote entry :: trace)
  | .openJournal, _, next => next = trace
  | .read, found, next =>
    next = trace ∧ ∀ entries size, found = some (entries, size) → entries = journal trace
  | .write entry, written, next =>
    next = .wrote entry :: trace ∨ (written = false ∧ next = trace)
  | .now, _, next => next = trace
  | .run request, reply, next => next = .ran request reply :: trace

abbrev Admits := (call : Call) → Reply call → Prop

def files (admits : Admits) : Environment Reply (List Act) :=
  fun trace call reply next => admits call reply ∧ effect trace call reply next

def anyReply : Admits := fun _ _ => True

variable {admits : Admits} {trace : List Act}

variable {call : Call} {leaves : String → List Act → Prop} {β : Type}

theorem wp_asked {rest : Reply call → Action β} {post : β → List Act → Prop}
    (goes : ∀ reply next, admits call reply → effect trace call reply next →
      (rest reply).wp (files admits) post next) :
    (ask call >>= rest).wp (files admits) post trace :=
  fun reply next answered => goes reply next answered.1 answered.2

theorem wpExit_asked {rest : Reply call → Step β} {after : β → List Act → Prop}
    (goes : ∀ reply next, admits call reply → effect trace call reply next →
      wpExit (files admits) (rest reply) after leaves next) :
    wpExit (files admits) (liftM (ask call) >>= rest) after leaves trace := by
  rw [wpExit_bind, wpExit_lift]
  exact fun reply next answered => goes reply next answered.1 answered.2

theorem wpExit_observed {rest : Reply call → Step β} {after : β → List Act → Prop}
    (goes : ∀ reply, admits call reply → wpExit (files admits) (rest reply) after leaves trace)
    (quiet : ∀ reply next, effect trace call reply next → next = trace :=
      by exact fun _ _ same => same) :
    wpExit (files admits) (liftM (ask call) >>= rest) after leaves trace := by
  refine wpExit_asked fun reply next admitted done => ?_
  rw [quiet reply next done]
  exact goes reply admitted

@[simp] theorem wpExit_fail {α : Type} {message : String} {goes : α → List Act → Prop} :
    wpExit (files admits) (fail message : Step α) goes leaves trace ↔ leaves message trace := by
  rw [fail, wpExit_leave, wp_pure]

theorem wpExit_checked {check : Except String Unit} {rest : Unit → Step β}
    {after : β → List Act → Prop}
    (fails : ∀ message, check = .error message → leaves message trace)
    (goes : check = .ok () → wpExit (files admits) (rest ()) after leaves trace) :
    wpExit (files admits) (checked check >>= rest) after leaves trace := by
  rw [wpExit_bind]
  cases check with
  | error message => exact wpExit_fail.mpr (fails message rfl)
  | ok value => exact goes rfl

section Runs

variable [Runtime] {plan : Plan} {approval : ApprovalReport} {identity : Option String}

/-! ## The journal file -/

theorem load_spec :
    load.wp (files admits) (fun found last => last = trace ∧ ∀ entries size,
      found = some (entries, size) →
        entries = journal trace ∧ validateJournalEntries entries = .ok ()) trace := by
  refine wp_asked ?_
  rintro (_ | ⟨entries, size⟩) next - ⟨rfl, same⟩
  · exact ⟨rfl, nofun⟩
  · dsimp only
    split
    · exact ⟨rfl, nofun⟩
    split
    · exact ⟨rfl, nofun⟩
    · rename_i valid
      refine ⟨rfl, fun found length equal => ?_⟩
      obtain ⟨rfl, rfl⟩ := Prod.mk.inj (Option.some.inj equal)
      rw [Bool.not_eq_true, Bool.not_eq_false', isOk_iff] at valid
      exact ⟨same _ _ rfl, valid⟩

theorem append_spec {entry : JournalEntry} :
    (append entry).wp (files admits) (fun recorded last =>
      (last = trace ∨ last = .wrote entry :: trace ∧ journal trace ≠ [] ∧
        validateJournalEntries (journal trace ++ [entry]) = .ok ()) ∧
      (recorded = true → last = .wrote entry :: trace)) trace := by
  refine wp_then load_spec ?_
  rintro (_ | ⟨entries, size⟩) next ⟨rfl, loaded⟩
  · exact ⟨.inl rfl, nofun⟩
  obtain ⟨rfl, valid⟩ := loaded _ _ rfl
  dsimp only
  split
  · exact ⟨.inl rfl, nofun⟩
  rename_i some'
  split
  · exact ⟨.inl rfl, nofun⟩
  rename_i follows
  split
  · exact ⟨.inl rfl, nofun⟩
  have nonempty : journal next ≠ [] := by simpa using some'
  have longer : validateJournalEntries (journal next ++ [entry]) = .ok () := by
    rw [validateJournalEntries_concat nonempty]
    rw [Bool.not_eq_true, Bool.not_eq_false', Bool.and_eq_true, isOk_iff] at follows
    have short := (validateJournalEntries_steps valid).length_lt
    rw [List.length_map] at short
    exact ⟨valid, short, follows⟩
  rintro recorded last ⟨-, rfl | ⟨rfl, rfl⟩⟩
  · exact ⟨.inr ⟨rfl, nonempty, longer⟩, fun _ => rfl⟩
  · exact ⟨.inl rfl, nofun⟩

/-! ## Proper histories -/

/-- Which acts a journal allows: an entry that keeps it accepted and that does not follow its end,
and the request of a step that follows its last entry, which for an apply step means that the
mutation was started and that no rollback was. -/
def Allowed (plan : Plan) (approval : ApprovalReport) (entries : List JournalEntry) : Act → Prop
  | .wrote entry =>
    verifyJournalBinding plan approval (entries ++ [entry]) = .ok () ∧
      ∀ last, entries.getLast? = some last → last.step ∉ terminalSteps
  | .ran request _ =>
    (∃ last, entries.getLast? = some last ∧
      request = stepRequest plan approval request.step last.entrySHA256) ∧
    (request.mode = "apply" → rollbackStarted entries = false ∧
      ∀ step ∈ ["approval-consumed", "mutation-started"], step ∈ entries.map JournalEntry.step)

def Proper (plan : Plan) (approval : ApprovalReport) : List Act → Prop
  | [] => True
  | act :: older => Allowed plan approval (journal older) act ∧ Proper plan approval older

theorem Proper.accepted {trace : List Act} (proper : Proper plan approval trace)
    (some' : journal trace ≠ []) :
    verifyJournalBinding plan approval (journal trace) = .ok () := by
  induction trace with
  | nil => exact absurd rfl some'
  | cons act older ih =>
    cases act with
    | wrote entry => exact proper.1.1
    | ran request reply => exact ih proper.2 some'

theorem verifyJournalBinding_parts {earlier : List JournalEntry} {previous : JournalEntry}
    (accepted : verifyJournalBinding plan approval (journal trace) = .ok ())
    (known : journal trace = earlier ++ [previous]) :
    JournalSteps ((earlier ++ [previous]).map JournalEntry.step) ∧
      verifyFrom plan approval 0 none (earlier ++ [previous]) = .ok () := by
  rw [known, verifyJournalBinding, check_bind] at accepted
  exact ⟨validateJournalEntries_steps accepted.1, accepted.2⟩

theorem Proper.verified {earlier : List JournalEntry} {previous : JournalEntry}
    (proper : Proper plan approval trace) (known : journal trace = earlier ++ [previous]) :
    JournalSteps ((earlier ++ [previous]).map JournalEntry.step) ∧
      verifyFrom plan approval 0 none (earlier ++ [previous]) = .ok () :=
  verifyJournalBinding_parts (proper.accepted (by rw [known]; simp)) known

inductive Grows (plan : Plan) (approval : ApprovalReport) (trace : List Act) :
    List Act → Prop where
  | same : Grows plan approval trace trace
  | act {last : List Act} {act : Act} (before : Grows plan approval trace last)
      (allowed : Allowed plan approval (journal last) act) : Grows plan approval trace (act :: last)

theorem Grows.trans {middle last : List Act} (first : Grows plan approval trace middle)
    (second : Grows plan approval middle last) : Grows plan approval trace last := by
  induction second with
  | same => exact first
  | act _ allowed ih => exact .act ih allowed

theorem Grows.proper {last : List Act} (grows : Grows plan approval trace last)
    (proper : Proper plan approval trace) : Proper plan approval last := by
  induction grows with
  | same => exact proper
  | act _ allowed ih => exact ⟨allowed, ih⟩

theorem Grows.accepted {final : List Act} (grows : Grows plan approval trace final)
    (accepted : verifyJournalBinding plan approval (journal trace) = .ok ()) :
    verifyJournalBinding plan approval (journal final) = .ok () := by
  induction grows with
  | same => exact accepted
  | @act last act _ allowed ih =>
    cases act with
    | wrote entry => exact allowed.1
    | ran request reply => exact ih

theorem append_allowed {entry : JournalEntry}
    (fits : verifyFrom plan approval 0 none (journal trace ++ [entry]) = .ok ()) :
    (append entry).wp (files admits) (fun recorded last =>
      (last = trace ∨ last = .wrote entry :: trace ∧
        Allowed plan approval (journal trace) (.wrote entry)) ∧
      (recorded = true → last = .wrote entry :: trace)) trace := by
  refine wp_mono append_spec fun recorded last reached => ⟨?_, reached.2⟩
  rcases reached.1 with rfl | ⟨rfl, some', valid⟩
  · exact .inl rfl
  · have follows := ((validateJournalEntries_concat some').mp valid).2.2.2
    have accepted : verifyJournalBinding plan approval (journal trace ++ [entry]) = .ok () := by
      rw [verifyJournalBinding, check_bind]
      exact ⟨valid, fits⟩
    exact .inr ⟨rfl, accepted, fun last ending => validTransition_open follows ending⟩

theorem append_proper {entry : JournalEntry} (proper : Proper plan approval trace)
    (fits : verifyFrom plan approval 0 none (journal trace ++ [entry]) = .ok ()) :
    (append entry).wp (files admits) (fun recorded last => Proper plan approval last ∧
      (recorded = true → last = .wrote entry :: trace)) trace := by
  refine wp_mono (append_allowed fits) fun recorded last reached => ⟨?_, reached.2⟩
  rcases reached.1 with rfl | ⟨rfl, allowed⟩
  · exact proper
  · exact ⟨allowed, proper⟩

/-! ## The adapter -/

def answered (request : AdapterRequest) : Option AdapterResponse → Invocation
  | none => ⟨none, .error "backup drill adapter execution failed"⟩
  | some response => ⟨some response, validateAdapterResponse request response⟩

@[simp] theorem answered_response (request : AdapterRequest) (reply : Option AdapterResponse) :
    (answered request reply).response = reply := by
  cases reply <;> rfl

theorem answered_ok {request : AdapterRequest} {reply : Option AdapterResponse}
    (succeeded : (answered request reply).outcome = .ok ()) :
    ∃ response, reply = some response ∧ validateAdapterResponse request response = .ok () := by
  cases reply with
  | none => exact absurd succeeded nofun
  | some response => exact ⟨response, rfl, succeeded⟩

theorem invoke_spec {request : AdapterRequest} :
    (invoke identity request).wp (files admits) (fun invoked last =>
      (∃ message, last = trace ∧ invoked = ⟨none, .error message⟩ ∧
        (identity ≠ some request.adapterExecutableSHA256 ∨
          request.requestSHA256 ≠ adapterRequestSHA256 request)) ∨
      ∃ reply, admits (.run request) reply ∧ last = .ran request reply :: trace ∧
        invoked = answered request reply) trace := by
  unfold invoke
  split
  · rename_i foreign
    rw [Bool.or_eq_true, decide_eq_true_eq, decide_eq_true_eq] at foreign
    exact .inl ⟨_, rfl, rfl, foreign⟩
  · refine wp_asked fun reply next admitted done => ?_
    cases reply with
    | none => exact .inr ⟨none, admitted, done, rfl⟩
    | some response => exact .inr ⟨some response, admitted, done, rfl⟩

end Runs

end CloudRing.BackupDrill
