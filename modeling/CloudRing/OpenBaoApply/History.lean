import CloudRing.Library.Log
import CloudRing.OpenBaoApply.Engine

/-!
# The history of an execution

What an execution did is read off the log of its calls.
-/

namespace CloudRing.OpenBaoApply

open Library OpenBaoAuth
open OpenBaoBootstrap (Place)

def Request.at (request : Request) (place : Place) : String :=
  place.path request.contract request.managementPolicyName request.seed.relativePath

theorem Request.Accepted.at_inj {request : Request} (accepted : request.Accepted)
    {first second : Place} : request.at first = request.at second ↔ first = second := by
  constructor
  · exact Place.path_injective (validate_accepted accepted.contract) accepted.managementPolicy
      accepted.separate
  · exact congrArg request.at

section Paths

variable (request : Request)

theorem mountPath_eq : mountPath request = request.at .authMount := rfl

theorem configPath_eq : configPath request = request.at .authConfig := rfl

theorem rolesPath_eq : rolesPath request = request.at .roles := rfl

theorem rolePath_eq : rolePath request = request.at .role := rfl

theorem loginPath_eq : loginPath request = request.at .login := rfl

theorem kvMountPath_eq : kvMountPath request = request.at .kvMount := rfl

theorem policyPath_eq : policyPath request = request.at .policy := rfl

theorem managementPolicyPath_eq : managementPolicyPath request = request.at .managementPolicy :=
  rfl

theorem metadataPath_eq : metadataPath request = request.at .metadata := rfl

theorem dataPath_eq : dataPath request = request.at .data := rfl

theorem lookupSelfPath_eq : lookupSelfPath = request.at .lookupSelf := rfl

theorem revokeSelfPath_eq : revokeSelfPath = request.at .revokeSelf := rfl

end Paths

def targets : List Place := [.kvMount, .authMount, .authConfig, .policy, .role, .data]

abbrev History := List (Event Reply)

/-- A write that the server says it refused had no effect, and a write fails in no other way
than the REST client reports: ambiguous, forbidden or rejected. -/
def Honest : (call : Call) → Reply call → Bool → Prop
  | .write .., answer, effective =>
    answer ≠ .error .unavailable ∧ (definitelyRejected answer = true → effective = false)
  | _, _, _ => True

/-- What may be answered to a call, and whether the call takes effect then. -/
abbrev Admits := (call : Call) → Reply call → Bool → Prop

/-- Under the hypothesis, every answer is honest. -/
abbrev HonestIf (honest : Prop) (admits : Admits) : Prop :=
  honest → ∀ call reply effective, admits call reply effective → Honest call reply effective

/-! ## Effects -/

def Event.writes (event : Event Reply) (path : String) : Bool :=
  match event with
  | ⟨.write _ target _, _, effective⟩ => effective && target = path
  | _ => false

def written (path : String) (log : History) : Bool := log.any fun event => Event.writes event path

def Event.answers (event : Event Reply) (path : String) : Option (Answer ReadResult) :=
  match event with
  | ⟨.write _ target _, answer, _⟩ => if target = path then some answer else none
  | _ => none

def answers (path : String) (log : History) : List (Answer ReadResult) :=
  log.filterMap fun event => Event.answers event path

/-- Whether a mutation of one place can change what is read at another: a mount carries what
lies below it, a role is listed, and the data of a seed has metadata. -/
def touches : Place → Place → Bool
  | .kvMount, .kvMount | .kvMount, .metadata | .kvMount, .data => true
  | .authMount, .authMount | .authMount, .authConfig | .authMount, .roles
  | .authMount, .role => true
  | .authConfig, .authConfig => true
  | .policy, .policy => true
  | .role, .role | .role, .roles => true
  | .data, .data | .data, .metadata => true
  | _, _ => false

def Event.disturbs (event : Event Reply) (request : Request) (place : Place) : Bool :=
  match event with
  | ⟨.write _ path _, _, true⟩ | ⟨.delete _ path, _, true⟩ =>
    targets.any fun target => path = request.at target && touches target place
  | _ => false

/-! ## Reads -/

def Event.reads (event : Event Reply) (path : String) : Option (Answer ReadResult) :=
  match event with
  | ⟨.read _ target, answer, _⟩ => if target = path then some answer else none
  | _ => none

def firstRead (path : String) : History → Option (Answer ReadResult)
  | [] => none
  | event :: log => (firstRead path log).or (Event.reads event path)

def lastRead (path : String) : History → Option (Answer ReadResult)
  | [] => none
  | event :: log => (Event.reads event path).or (lastRead path log)

def firstFound (path : String) : History → Option ReadResult
  | [] => none
  | event :: log =>
    (firstFound path log).or
      (match Event.reads event path with
      | some (.ok result) => if result.found then some result else none
      | _ => none)

def Seen (request : Request) (place : Place) (result : ReadResult) : History → Prop
  | [] => False
  | event :: log =>
    Event.reads event (request.at place) = some (.ok result) ∨
      Event.disturbs event request place = false ∧ Seen request place result log

def Gone (path : String) : History → Prop
  | [] => False
  | event :: log =>
    (∃ result, Event.reads event path = some (.ok result) ∧ result.found = false) ∨
      Event.writes event path = false ∧ Gone path log

def CreatedHere (path : String) (readback : ReadResult) (log : History) : Prop :=
  ∃ newer older reader writer body answer seen effective,
    log = newer ++ ⟨.read reader path, .ok readback, seen⟩ ::
      ⟨.write writer path body, .ok answer, effective⟩ :: older

/-! ## Tokens -/

/-- The tokens obtained and not yet proven revoked; a login that took effect without a usable
answer leaves an unknown one. -/
def outstanding (request : Request) : History → List (Option String)
  | [] => []
  | ⟨.unwrap _, .ok token, _⟩ :: log => some token :: outstanding request log
  | ⟨.write _ path _, answer, effective⟩ :: log =>
    if path = request.at .login then
      match answer, effective with
      | .ok login, _ => some (loginToken login) :: outstanding request log
      | .error _, true => none :: outstanding request log
      | .error _, false => outstanding request log
    else outstanding request log
  | ⟨.expectForbidden credential path, .ok (), _⟩ :: log =>
    if path = request.at .lookupSelf then
      (outstanding request log).filter (· ≠ some credential.token)
    else outstanding request log
  | _ :: log => outstanding request log

def Held (request : Request) (tokens : Option String → Prop) (log : History) : Prop :=
  ∀ token ∈ outstanding request log, tokens token

def Event.proves (event : Event Reply) : Bool :=
  match event with
  | ⟨.expectForbidden (.management _) path, .ok (), _⟩ => path = lookupSelfPath
  | _ => false

def proven (log : History) : Bool := log.any Event.proves

/-! ## The lease -/

inductive LeaseMark where
  | untouched
  | changed
  | releasing (updated : Lease)
  | released
  deriving DecidableEq, Repr

def leaseMark : History → LeaseMark
  | [] => .untouched
  | ⟨.updateLease _ requested, answer, effective⟩ :: log =>
    match answer with
    | .ok updated =>
      if requested.holderIdentity = "" && exactLeaseUpdate requested updated then
        .releasing updated
      else .changed
    | .error _ => if effective then .changed else leaseMark log
  | ⟨.getLease _, .ok lease, _⟩ :: log =>
    match leaseMark log with
    | .releasing updated =>
      if releasedState updated lease then .released else .releasing updated
    | mark => mark
  | _ :: log => leaseMark log

def LeaseHonest (log : History) : Prop :=
  ∀ target lease answer effective, ⟨.updateLease target lease, answer, effective⟩ ∈ log →
    definitelyRejected answer = true → effective = false

def LeaseFree (log : History) : Prop := leaseMark log = .untouched ∨ leaseMark log = .released

/-! ## Which calls leave a reading alone -/

def Call.quiet : Call → Bool
  | .write .. | .delete .. | .updateLease .. | .getLease _ | .unwrap _ | .expectForbidden .. =>
    false
  | _ => true

def Call.tokenless : Call → Bool
  | .write .. | .unwrap _ | .expectForbidden .. => false
  | _ => true

def Call.sparing (request : Request) : Call → Bool
  | .write _ path _ => path = request.at .login || path = request.at .revokeSelf
  | .delete .. => false
  | _ => true

def Call.unreading : Call → Bool
  | .read .. => false
  | _ => true

def Call.ending (request : Request) (call : Call) : Bool :=
  call.sparing request && call.unreading

def Call.closing (request : Request) (call : Call) : Bool :=
  call.ending request && call.tokenless

def Call.undoing (call : Call) : Bool :=
  match call with
  | .delete .. => true
  | _ => call.quiet

def Call.idle (call : Call) : Bool := call.quiet && call.unreading

section Classes

variable {request : Request} {call : Call}

theorem Call.sparing_of_quiet (request : Request) (quiet : call.quiet = true) :
    call.sparing request = true := by
  unfold Call.sparing
  split
  · exact absurd quiet nofun
  · exact absurd quiet nofun
  · rfl

theorem Call.tokenless_of_quiet (quiet : call.quiet = true) : call.tokenless = true := by
  unfold Call.tokenless
  split
  · exact absurd quiet nofun
  · exact absurd quiet nofun
  · exact absurd quiet nofun
  · rfl

theorem Call.sparing_of_ending (ending : call.ending request = true) :
    call.sparing request = true := ((Bool.and_eq_true _ _).mp ending).1

theorem Call.unreading_of_ending (ending : call.ending request = true) :
    call.unreading = true := ((Bool.and_eq_true _ _).mp ending).2

theorem Call.quiet_of_idle (idle : call.idle = true) : call.quiet = true :=
  ((Bool.and_eq_true _ _).mp idle).1

theorem Call.ending_of_idle (request : Request) (idle : call.idle = true) :
    call.ending request = true :=
  (Bool.and_eq_true _ _).mpr
    ⟨Call.sparing_of_quiet request (Call.quiet_of_idle idle), ((Bool.and_eq_true _ _).mp idle).2⟩

theorem Call.ending_of_closing (closing : call.closing request = true) :
    call.ending request = true := ((Bool.and_eq_true _ _).mp closing).1

theorem Call.tokenless_of_closing (closing : call.closing request = true) :
    call.tokenless = true := ((Bool.and_eq_true _ _).mp closing).2

theorem Call.closing_of_idle (request : Request) (idle : call.idle = true) :
    call.closing request = true :=
  (Bool.and_eq_true _ _).mpr
    ⟨Call.ending_of_idle request idle, Call.tokenless_of_quiet (Call.quiet_of_idle idle)⟩

theorem Call.undoing_of_quiet (quiet : call.quiet = true) : call.undoing = true := by
  unfold Call.undoing
  split
  · rfl
  · exact quiet

theorem Call.tokenless_of_undoing (undoing : call.undoing = true) : call.tokenless = true := by
  unfold Call.undoing at undoing
  split at undoing
  · rfl
  · exact Call.tokenless_of_quiet undoing

end Classes

section Readings

variable {request : Request} {event : Event Reply} {log later : History}

theorem answers_sparing (accepted : request.Accepted)
    (sparing : event.call.sparing request = true) {target : Place} (member : target ∈ targets) :
    Event.answers event (request.at target) = none := by
  unfold Event.answers
  split
  · simp only [Call.sparing, Bool.or_eq_true, decide_eq_true_eq] at sparing
    have other : ∀ place, place ∉ targets → request.at place ≠ request.at target := by
      intro place outside same
      rw [accepted.at_inj] at same
      exact outside (same ▸ member)
    rcases sparing with rfl | rfl
    · exact if_neg (other .login (by decide))
    · exact if_neg (other .revokeSelf (by decide))
  · rfl

theorem writes_of_unanswered {path : String} (unanswered : Event.answers event path = none) :
    Event.writes event path = false := by
  unfold Event.answers at unanswered
  unfold Event.writes
  split at unanswered
  · simpa using fun _ => unanswered
  · rfl

theorem answers_tokenless {path : String} (tokenless : event.call.tokenless = true) :
    Event.answers event path = none := by
  unfold Event.answers
  split
  · exact absurd tokenless nofun
  · rfl

theorem disturbs_sparing (accepted : request.Accepted)
    (sparing : event.call.sparing request = true) (place : Place) :
    Event.disturbs event request place = false := by
  unfold Event.disturbs
  split
  · simp only [Call.sparing, Bool.or_eq_true, decide_eq_true_eq] at sparing
    rcases sparing with rfl | rfl <;> simp [targets, accepted.at_inj]
  · exact absurd sparing nofun
  · rfl

theorem outstanding_tokenless (tokenless : event.call.tokenless = true) :
    outstanding request (event :: log) = outstanding request log := by
  obtain ⟨call, reply, effective⟩ := event
  cases call with
  | write | unwrap | expectForbidden => exact absurd tokenless nofun
  | _ => rfl

theorem leaseMark_quiet (quiet : event.call.quiet = true) :
    leaseMark (event :: log) = leaseMark log := by
  obtain ⟨call, reply, effective⟩ := event
  cases call with
  | updateLease | getLease => exact absurd quiet nofun
  | _ => rfl

theorem proves_tokenless (tokenless : event.call.tokenless = true) :
    Event.proves event = false := by
  unfold Event.proves
  split
  · exact absurd tokenless nofun
  · rfl

theorem reads_unreading {path : String} (unreading : event.call.unreading = true) :
    Event.reads event path = none := by
  unfold Event.reads
  split
  · exact absurd unreading nofun
  · rfl

end Readings

/-! ## What a run of such calls leaves alone -/

section Runs

variable {request : Request} {allowed : Call → Prop} {log later : History}

variable {path : String} {target : Place}

theorem answers_kept (accepted : request.Accepted)
    (extension : Extends (fun call => call.sparing request = true) log later)
    (member : target ∈ targets) :
    answers (request.at target) later = answers (request.at target) log := by
  refine Extends.keeps (fun event before sparing => ?_) extension
  exact List.filterMap_cons_none (answers_sparing accepted sparing member)

theorem written_kept (accepted : request.Accepted)
    (extension : Extends (fun call => call.sparing request = true) log later)
    (member : target ∈ targets) :
    written (request.at target) later = written (request.at target) log := by
  refine Extends.keeps (fun event before sparing => ?_) extension
  have unwritten := writes_of_unanswered (answers_sparing accepted sparing member)
  simp [written, unwritten]

theorem written_same (extension : Extends (fun call => call.tokenless = true) log later) :
    written path later = written path log := by
  refine Extends.keeps (fun event before tokenless => ?_) extension
  simp [written, writes_of_unanswered (answers_tokenless tokenless)]

theorem Seen.kept (accepted : request.Accepted)
    (extension : Extends (fun call => call.sparing request = true) log later) {place : Place}
    {result : ReadResult} (seen : Seen request place result log) :
    Seen request place result later :=
  Extends.carries (Seen request place result)
    (fun _ _ sparing before => .inr ⟨disturbs_sparing accepted sparing place, before⟩) extension
    seen

theorem Gone.kept (accepted : request.Accepted)
    (extension : Extends (fun call => call.sparing request = true) log later)
    (member : target ∈ targets) (gone : Gone (request.at target) log) :
    Gone (request.at target) later :=
  Extends.carries (Gone (request.at target))
    (fun _ _ sparing before =>
      .inr ⟨writes_of_unanswered (answers_sparing accepted sparing member), before⟩) extension gone

theorem Gone.same (extension : Extends (fun call => call.tokenless = true) log later)
    (gone : Gone path log) : Gone path later :=
  Extends.carries (Gone path)
    (fun _ _ tokenless before =>
      .inr ⟨writes_of_unanswered (answers_tokenless tokenless), before⟩) extension gone

theorem firstRead_kept {answer : Answer ReadResult}
    (extension : Extends allowed log later) (first : firstRead path log = some answer) :
    firstRead path later = some answer :=
  Extends.carries (fun before => firstRead path before = some answer)
    (fun _ _ _ before => by simp [firstRead, before]) extension first

theorem firstFound_kept {result : ReadResult}
    (extension : Extends allowed log later) (first : firstFound path log = some result) :
    firstFound path later = some result :=
  Extends.carries (fun before => firstFound path before = some result)
    (fun _ _ _ before => by simp [firstFound, before]) extension first

theorem CreatedHere.kept {readback : ReadResult}
    (extension : Extends allowed log later) (created : CreatedHere path readback log) :
    CreatedHere path readback later := by
  obtain ⟨added, rfl, -⟩ := extension
  obtain ⟨newer, older, reader, writer, body, answer, seen, effective, rfl⟩ := created
  exact ⟨added ++ newer, older, reader, writer, body, answer, seen, effective, by simp⟩

theorem outstanding_kept (extension : Extends (fun call => call.tokenless = true) log later) :
    outstanding request later = outstanding request log :=
  Extends.keeps (fun _ _ tokenless => outstanding_tokenless tokenless) extension

theorem leaseMark_kept (extension : Extends (fun call => call.quiet = true) log later) :
    leaseMark later = leaseMark log :=
  Extends.keeps (fun _ _ quiet => leaseMark_quiet quiet) extension

theorem proven_kept (extension : Extends (fun call => call.tokenless = true) log later) :
    proven later = proven log :=
  Extends.keeps (fun _ _ tokenless => by simp [proven, proves_tokenless tokenless]) extension

theorem lastRead_kept (extension : Extends (fun call => call.unreading = true) log later) :
    lastRead path later = lastRead path log :=
  Extends.keeps (fun _ _ unreading => by simp [lastRead, reads_unreading unreading]) extension

theorem firstFound_same (extension : Extends (fun call => call.unreading = true) log later) :
    firstFound path later = firstFound path log :=
  Extends.keeps (fun _ _ unreading => by simp [firstFound, reads_unreading unreading]) extension

end Runs

end CloudRing.OpenBaoApply
