import CloudRing.OpenBaoApply.Preparation

/-!
# The creation of an object

Every object is written once and read back at once.
-/

namespace CloudRing.OpenBaoApply

open Library Library.Program OpenBaoAuth
open OpenBaoBootstrap (Place)

structure Attempt where
  token : Credential
  place : Place
  readback : Place
  body : Json
  answer : Answer ReadResult
  effective : Bool
  reading : Answer ReadResult
  noticed : Bool

def Attempt.after (attempt : Attempt) (request : Request) (log : History) : History :=
  ⟨.read attempt.token (request.at attempt.readback), attempt.reading, attempt.noticed⟩ ::
    ⟨.write attempt.token (request.at attempt.place) attempt.body, attempt.answer,
      attempt.effective⟩ :: log

def Attempt.Unclear (attempt : Attempt) : Prop :=
  ∀ current, attempt.reading = .ok current →
    (current.found = true → attempt.answer.isOk = false) ∧
    (current.found = false → definitelyRejected attempt.answer = false)

structure Attempt.Refused (attempt : Attempt) : Prop where
  rejected : definitelyRejected attempt.answer = true
  absent : ∃ current, attempt.reading = .ok current ∧ current.found = false

structure Attempt.Made (attempt : Attempt) (result current : ReadResult) : Prop where
  answer : attempt.answer = .ok result
  reading : attempt.reading = .ok current
  found : current.found = true

/-! ## What an attempt does to the readings of a log -/

section Readings

variable {request : Request} {attempt : Attempt} {log : History}

theorem Attempt.extends (attempt : Attempt) (request : Request) (log : History) :
    Extends (fun _ => True) log (attempt.after request log) :=
  ((Extends.refl _ log).cons trivial).cons trivial

theorem Attempt.answers_after (accepted : request.Accepted) (place : Place) :
    answers (request.at place) (attempt.after request log) =
      if place = attempt.place then attempt.answer :: answers (request.at place) log
      else answers (request.at place) log := by
  by_cases same : place = attempt.place
  · simp [Attempt.after, answers, Event.answers, same]
  · have other : attempt.place ≠ place := fun equal => same equal.symm
    simp [Attempt.after, answers, Event.answers, same, accepted.at_inj, other]

theorem Attempt.written_after (accepted : request.Accepted) {place : Place}
    (effective : written (request.at place) (attempt.after request log) = true) :
    (place = attempt.place ∧ attempt.effective = true) ∨
      written (request.at place) log = true := by
  simp only [Attempt.after, written, List.any_cons, Event.writes, Bool.or_eq_true,
    Bool.and_eq_true, decide_eq_true_eq, Bool.false_eq_true, false_or, accepted.at_inj] at effective
  rcases effective with ⟨done, same⟩ | earlier
  · exact .inl ⟨same.symm, done⟩
  · exact .inr earlier

theorem Attempt.written_before {path : String} (effective : written path log = true) :
    written path (attempt.after request log) = true := by
  simp only [written] at effective
  simp [Attempt.after, written, effective]

theorem Attempt.outstanding_after (accepted : request.Accepted) (target : attempt.place ∈ targets) :
    outstanding request (attempt.after request log) = outstanding request log := by
  have elsewhere : request.at attempt.place ≠ request.at .login := by
    intro same
    rw [accepted.at_inj.mp same] at target
    exact absurd target (by decide)
  simp [Attempt.after, outstanding, elsewhere]

theorem Attempt.proven_after : proven (attempt.after request log) = proven log := by
  simp [Attempt.after, proven, Event.proves]

theorem Attempt.lastRead_after :
    lastRead (request.at attempt.readback) (attempt.after request log) =
      some attempt.reading := by
  simp [Attempt.after, lastRead, Event.reads]

variable {current result : ReadResult}

theorem Attempt.firstFound_after (reading : attempt.reading = .ok current)
    (found : current.found = true)
    (unfound : firstFound (request.at attempt.readback) log = none) :
    firstFound (request.at attempt.readback) (attempt.after request log) = some current := by
  simp [Attempt.after, firstFound, Event.reads, unfound, reading, found]

theorem Attempt.createdHere_after (made : attempt.Made result current)
    (same : attempt.readback = attempt.place) :
    CreatedHere (request.at attempt.place) current (attempt.after request log) := by
  refine ⟨[], log, attempt.token, attempt.token, attempt.body, result, attempt.noticed,
    attempt.effective, ?_⟩
  simp [Attempt.after, made.answer, made.reading, same]

theorem Attempt.Made.fresh [TimeFormat] {before : ReadResult}
    (made : attempt.Made result current) (same : attempt.readback = attempt.place)
    (first : firstRead (request.at attempt.place) log = some (.ok before))
    (absent : before.found = false)
    (exact : exactAt request attempt.place current = true) :
    CreatedFresh request attempt.place current (attempt.after request log) :=
  ⟨⟨before, firstRead_kept (attempt.extends request log) first, absent⟩,
    Attempt.createdHere_after made same, exact⟩

theorem Attempt.seen_after (request : Request) (log : History)
    (reading : attempt.reading = .ok current) :
    Seen request attempt.readback current (attempt.after request log) :=
  .inl (by simp [Event.reads, reading])

theorem Attempt.seen_untouched (accepted : request.Accepted) {place : Place}
    (untouched : touches attempt.place place = false)
    (seen : Seen request place result log) :
    Seen request place result (attempt.after request log) := by
  have undisturbed : (targets.any fun target =>
      request.at attempt.place = request.at target && touches target place) = false := by
    refine List.any_eq_false.mpr fun target _ disturbs => ?_
    simp only [Bool.and_eq_true, decide_eq_true_eq, accepted.at_inj] at disturbs
    obtain ⟨rfl, touched⟩ := disturbs
    exact absurd (untouched.symm.trans touched) nofun
  refine .inr ⟨rfl, .inr ⟨?_, seen⟩⟩
  cases effective : attempt.effective with
  | false => simp [Event.disturbs]
  | true => simpa [Event.disturbs] using undisturbed

theorem Attempt.held_after (accepted : request.Accepted) (target : attempt.place ∈ targets)
    {tokens : Option String → Prop} (held : Held request tokens log) :
    Held request tokens (attempt.after request log) := by
  rw [Held, Attempt.outstanding_after accepted target]
  exact held

end Readings

/-! ## The block around an attempt -/

section Block

variable {admits : Admits} {session : Session} {mutations : MutationState} {log : History}

def Attempted (request : Request) (place readback : Place) (log : History)
    (replies : ReadResult × ReadResult) (later : History) : Prop :=
  ∃ attempt : Attempt, attempt.place = place ∧ attempt.readback = readback ∧
    attempt.Made replies.1 replies.2 ∧ later = attempt.after request log

/-- `createObject`: an attempt that is unclear is held for an inspection, one that was refused
is handed to the given end, and one that was made goes on. -/
theorem createObject_spec {object : String} {place readback : Place} {body : Json}
    {rejected : String → Action Report} {leaves : Report → History → Prop}
    (unclear : ∀ attempt : Attempt, attempt.place = place → attempt.readback = readback →
      attempt.Unclear →
      (holdForManualInspection session mutations (object ++ "-create-ambiguous") true).wp
        (recording admits) leaves (attempt.after session.request log))
    (refused : ∀ attempt : Attempt, attempt.place = place → attempt.readback = readback →
      attempt.Refused →
      admits (.write attempt.token (session.request.at attempt.place) attempt.body)
        attempt.answer attempt.effective →
      (rejected (object ++ "-create-rejected")).wp (recording admits) leaves
        (attempt.after session.request log)) :
    wpExit (recording admits)
      (createObject session mutations object (session.request.at place)
        (session.request.at readback) body rejected)
      (Attempted session.request place readback log) leaves log := by
  refine wpExit_asked fun answer effective admitted => ?_
  refine wpExit_asked fun
    | .error failure, noticed, _ => (wpExit_leave _).mpr ?_
    | .ok current, noticed, _ => ?_
  · exact unclear ⟨session.token, place, readback, body, answer, effective, .error failure,
      noticed⟩ rfl rfl nofun
  let attempt : Attempt :=
    ⟨session.token, place, readback, body, answer, effective, .ok current, noticed⟩
  dsimp only
  split
  · rename_i absent
    simp only [Bool.not_eq_true'] at absent
    refine (wpExit_leave _).mpr ?_
    split
    · rename_i rejection
      exact refused attempt rfl rfl ⟨rejection, current, rfl, absent⟩ admitted
    · rename_i accepting
      refine unclear attempt rfl rfl ?_
      rintro _ ⟨⟩
      exact ⟨fun found => absurd (absent.symm.trans found) nofun,
        fun _ => Bool.eq_false_iff.mpr accepting⟩
  · rename_i present
    simp only [Bool.not_eq_true', Bool.not_eq_false] at present
    cases answer with
    | error failure =>
      refine (wpExit_leave _).mpr (unclear attempt rfl rfl ?_)
      rintro _ ⟨⟩
      exact ⟨fun _ => rfl, fun absent => absurd (present.symm.trans absent) nofun⟩
    | ok result => exact ⟨attempt, rfl, rfl, ⟨rfl, rfl, present⟩, rfl⟩

end Block

/-! ## What an attempt does to the assertions -/

section Assertions

variable [TimeFormat] {honest : Prop} {request : Request} {mutations after : MutationState}
  {attempt : Attempt} {log : History}

theorem Attempt.justified_after (justified : Justified request log) :
    Justified request (attempt.after request log) := ⟨nofun, nofun, justified⟩

theorem Attempt.standing_after (accepted : request.Accepted) {place : Place}
    (untouched : touches attempt.place place = false)
    (seedUntouched : place = .data → touches attempt.place .metadata = false)
    (standing : Standing request place log) :
    Standing request place (attempt.after request log) := by
  unfold Standing at standing ⊢
  split at standing
  · obtain ⟨metadata, seed, createdAt, metadataSeen, seedSeen, exact⟩ := standing
    exact ⟨metadata, seed, createdAt,
      Attempt.seen_untouched accepted (seedUntouched rfl) metadataSeen,
      Attempt.seen_untouched accepted untouched seedSeen, exact⟩
  · obtain ⟨result, seen, exact⟩ := standing
    exact ⟨result, Attempt.seen_untouched accepted untouched seen, exact⟩

theorem Progress.advance (accepted : request.Accepted)
    (progress : Progress honest request mutations log)
    (grows : ∀ place ∈ targets, mutations.created place = true → after.created place = true)
    (flagged : after.mutated = targets.any after.created)
    (covered : honest → attempt.effective = true → after.created attempt.place = true)
    (recorded : ∀ place ∈ removable, after.created place = true →
      ∃ created, CreatedFresh request place created (attempt.after request log) ∧
        recordedAs after place created = true)
    (sent : after.mountCreated = true → MountSent request (attempt.after request log)) :
    Progress honest request after (attempt.after request log) where
  justified := Attempt.justified_after progress.justified
  recorded := recorded
  flagged := flagged
  accounted honestly target member effective := by
    rcases Attempt.written_after accepted effective with ⟨rfl, done⟩ | earlier
    · exact covered honestly done
    · exact grows target member (progress.accounted honestly target member earlier)
  sent := sent

theorem Progress.records (progress : Progress honest request mutations log)
    (attempt : Attempt) (place : Place) (member : place ∈ removable)
    (same : ∀ created, recordedAs after place created = recordedAs mutations place created)
    (created : mutations.created place = true) :
    ∃ created, CreatedFresh request place created (attempt.after request log) ∧
      recordedAs after place created = true := by
  obtain ⟨readback, fresh, recorded⟩ := progress.recorded place member created
  exact ⟨readback, fresh.kept (attempt.extends request log), (same readback).trans recorded⟩

theorem Progress.unchanged (accepted : request.Accepted)
    (progress : Progress honest request mutations log)
    (covered : honest → attempt.effective = true → mutations.created attempt.place = true) :
    Progress honest request mutations (attempt.after request log) :=
  progress.advance accepted (fun _ _ created => created) progress.flagged covered
    (fun place member => progress.records attempt place member fun _ => rfl)
    fun created => (progress.sent created).kept (attempt.extends request log)

theorem Progress.refused {admits : Admits}
    (sound : HonestIf honest admits)
    (accepted : request.Accepted) (progress : Progress honest request mutations log)
    (refused : attempt.Refused)
    (admitted : admits (.write attempt.token (request.at attempt.place) attempt.body)
      attempt.answer attempt.effective) :
    Progress honest request mutations (attempt.after request log) := by
  refine progress.unchanged accepted fun honestly effective => ?_
  have ineffective := (sound honestly _ _ _ admitted).2 refused.rejected
  exact absurd (ineffective.symm.trans effective) nofun

end Assertions

end CloudRing.OpenBaoApply
