import CloudRing.OpenBaoApply.History

/-!
# What an execution owes

The assertions about a log that the verification of `Execute` carries from stage to stage.
-/

namespace CloudRing.OpenBaoApply

open Library OpenBaoAuth
open OpenBaoBootstrap (Place)

def MutationState.created (mutations : MutationState) : Place → Bool
  | .kvMount => mutations.kvMountCreated
  | .authMount | .authConfig => mutations.mountCreated
  | .policy => mutations.policyCreated
  | .role => mutations.roleCreated
  | .data => mutations.seedCreated
  | _ => false

def removable : List Place := [.authMount, .policy, .role]

theorem removable_targets : ∀ place ∈ removable, place ∈ targets := by decide

theorem forall_removable {holds : Place → Prop} :
    (∀ place ∈ removable, holds place) ↔ holds .authMount ∧ holds .policy ∧ holds .role := by
  simp [removable]

def AnyWritten (request : Request) (log : History) : Prop :=
  ∃ target ∈ targets, written (request.at target) log = true

/-! ## Writes that the report does not mention -/

/-- The auth mount was refused: every write of it was definitely rejected, and it was last read
as absent. -/
def Refused (request : Request) (log : History) : Prop :=
  ∀ answer ∈ answers (request.at .authMount) log, definitelyRejected answer = true ∧
    ∃ current, lastRead (request.at .authMount) log = some (.ok current) ∧ current.found = false

/-- The KV-v2 mount was created and is still there as it was first found, and no auth mount
was written after it. -/
structure Exposed (request : Request) (log : History) : Prop where
  effective : written (request.at .kvMount) log = true
  answered : ∀ answer ∈ answers (request.at .kvMount) log, answer.isOk = true
  owned : ∃ first answer, firstFound (request.at .kvMount) log = some first ∧
    lastRead (request.at .kvMount) log = some answer ∧
    ownedKVMount answer (textValue first.fields "uuid") (textValue first.fields "accessor") = true
  refused : Refused request log

/-- The execution stopped with an exposed KV-v2 mount and a management token that was not
proven revoked. -/
def Uncounted (request : Request) (log : History) : Prop :=
  Exposed request log ∧ proven log = false

def Counted (honest : Prop) (request : Request) (mutated : Bool) (log : History) : Prop :=
  honest →
    (mutated = true → ¬ Uncounted request log) ∧
    (mutated = false → AnyWritten request log → Uncounted request log)

def MountSent (request : Request) (log : History) : Prop :=
  ∃ answer ∈ answers (request.at .authMount) log, definitelyRejected answer = false

theorem not_exposed_of_sent {request : Request} {log : History} (sent : MountSent request log) :
    ¬ Exposed request log := by
  intro exposed
  obtain ⟨answer, member, accepted⟩ := sent
  have rejected := (exposed.refused answer member).1
  exact absurd (accepted.symm.trans rejected) nofun

theorem not_exposed_of_unwritten {request : Request} {log : History}
    (unwritten : ¬ AnyWritten request log) : ¬ Exposed request log :=
  fun exposed => unwritten ⟨.kvMount, by decide, exposed.effective⟩

section Writes

variable {request : Request} {log later : History}

theorem anyWritten_kept (accepted : request.Accepted)
    (extension : Extends (fun call => call.sparing request = true) log later) :
    AnyWritten request later ↔ AnyWritten request log := by
  refine exists_congr fun target => and_congr_right fun member => ?_
  rw [written_kept accepted extension member]

theorem MountSent.kept {allowed : Call → Prop} (extension : Extends allowed log later)
    (sent : MountSent request log) : MountSent request later := by
  obtain ⟨newer, rfl, -⟩ := extension
  obtain ⟨answer, member, accepted⟩ := sent
  refine ⟨answer, ?_, accepted⟩
  rw [answers, List.filterMap_append]
  exact List.mem_append_right _ member

theorem exposed_kept (accepted : request.Accepted)
    (extension : Extends (fun call => call.ending request = true) log later) :
    Exposed request later ↔ Exposed request log := by
  have sparing := extension.mono fun _ => Call.sparing_of_ending
  have unreading := extension.mono fun _ => Call.unreading_of_ending
  have kvMount : Place.kvMount ∈ targets := by decide
  have authMount : Place.authMount ∈ targets := by decide
  constructor
  · rintro ⟨effective, answered, owned, refused⟩
    rw [written_kept accepted sparing kvMount] at effective
    rw [answers_kept accepted sparing kvMount] at answered
    rw [firstFound_same unreading, lastRead_kept unreading] at owned
    rw [Refused, answers_kept accepted sparing authMount, lastRead_kept unreading] at refused
    exact ⟨effective, answered, owned, refused⟩
  · rintro ⟨effective, answered, owned, refused⟩
    rw [← written_kept accepted sparing kvMount] at effective
    rw [← answers_kept accepted sparing kvMount] at answered
    rw [← firstFound_same unreading, ← lastRead_kept unreading] at owned
    rw [Refused, ← answers_kept accepted sparing authMount, ← lastRead_kept unreading] at refused
    exact ⟨effective, answered, owned, refused⟩

end Writes

section Exact

variable [TimeFormat]

/-! ## Objects as desired -/

def exactAt (request : Request) (place : Place) (result : ReadResult) : Bool :=
  let plan := desiredPlan request.contract
  match place with
  | .kvMount => exactKVV2Mount result
  | .authMount => exactMount result plan.authMount
  | .authConfig => exactConfig result plan.authConfigReadback
  | .policy => exactPolicy result request.contract.policyName plan.aclPolicy
  | .role => exactRole result plan.role
  | _ => true

def Standing (request : Request) (place : Place) (log : History) : Prop :=
  match place with
  | .data => ∃ metadata seed createdAt, Seen request .metadata metadata log ∧
      Seen request .data seed log ∧ exactSeed metadata seed (seedData request) = some createdAt
  | place => ∃ result, Seen request place result log ∧ exactAt request place result = true

/-! ## Deletions -/

def sameObject (place : Place) (created current : ReadResult) : Bool :=
  match place with
  | .authMount => sameMount current (textValue created.fields "uuid")
      (textValue created.fields "accessor")
  | .policy => integer current.fields "version" = integer created.fields "version" &&
      textValue current.fields "modified" = textValue created.fields "modified"
  | _ => true

def CreatedFresh (request : Request) (place : Place) (created : ReadResult) (log : History) :
    Prop :=
  (∃ before, firstRead (request.at place) log = some (.ok before) ∧ before.found = false) ∧
    CreatedHere (request.at place) created log ∧ exactAt request place created = true

/-- A path may be deleted: it is a removable object that this run created where it had found
none, and the last read still showed the desired object that was created. -/
def Deletable (request : Request) (path : String) (log : History) : Prop :=
  ∃ place ∈ removable, path = request.at place ∧ ∃ created current,
    CreatedFresh request place created log ∧
    lastRead (request.at place) log = some (.ok current) ∧
    exactAt request place current = true ∧ sameObject place created current = true

def Justified (request : Request) : History → Prop
  | [] => True
  | event :: log =>
    (∀ credential path, event.call = .delete credential path → Deletable request path log) ∧
      Justified request log

def recordedAs (mutations : MutationState) (place : Place) (created : ReadResult) : Bool :=
  match place with
  | .authMount => sameMount created mutations.mountUUID mutations.mountAccessor
  | .policy => integer created.fields "version" = some mutations.policyVersion &&
      textValue created.fields "modified" = mutations.policyModified
  | _ => true

/-! ## Progress -/

structure Progress (honest : Prop) (request : Request) (mutations : MutationState)
    (log : History) : Prop where
  justified : Justified request log
  recorded : ∀ place ∈ removable, mutations.created place = true →
    ∃ created, CreatedFresh request place created log ∧
      recordedAs mutations place created = true
  flagged : mutations.mutated = targets.any mutations.created
  accounted : honest → ∀ target ∈ targets, written (request.at target) log = true →
    mutations.created target = true
  sent : mutations.mountCreated = true → MountSent request log

structure Outcome (honest : Prop) (request : Request) (report : Report) (log : History) :
    Prop where
  justified : Justified request log
  counted : Counted honest request report.mutationPerformed log
  blocked : honest → report.status = .blockedPreflight →
    ¬ AnyWritten request log ∧ outstanding request log = [] ∧ (LeaseHonest log → LeaseFree log)
  rolledBack : honest → report.status = .rolledBack →
    (∀ place ∈ removable, written (request.at place) log = true → Gone (request.at place) log) ∧
    written (request.at .kvMount) log = false ∧ written (request.at .data) log = false ∧
    outstanding request log = [] ∧ leaseMark log = .released
  applied : honest → report.status = .applied →
    (∀ target ∈ targets, Standing request target log) ∧ outstanding request log = [] ∧
    leaseMark log = .released

/-! ## What keeps these assertions -/

section Kept

variable {honest : Prop} {request : Request} {mutations : MutationState} {log later : History}

theorem CreatedFresh.kept {allowed : Call → Prop} (extension : Extends allowed log later)
    {place : Place} {created : ReadResult} (fresh : CreatedFresh request place created log) :
    CreatedFresh request place created later := by
  obtain ⟨⟨before, first, absent⟩, here, exact⟩ := fresh
  exact ⟨⟨before, firstRead_kept extension first, absent⟩, here.kept extension, exact⟩

theorem Justified.cons {event : Event Reply} (justified : Justified request log)
    (other : ∀ credential path, event.call ≠ .delete credential path) :
    Justified request (event :: log) :=
  ⟨fun credential path deletion => absurd deletion (other credential path), justified⟩

theorem Justified.kept (extension : Extends (fun call => call.sparing request = true) log later)
    (justified : Justified request log) : Justified request later := by
  refine Extends.carries (Justified request) (fun event before sparing earlier => ?_) extension
    justified
  refine earlier.cons fun credential path deletion => ?_
  rw [deletion] at sparing
  exact absurd sparing nofun

theorem Standing.kept (accepted : request.Accepted)
    (extension : Extends (fun call => call.sparing request = true) log later) {place : Place}
    (standing : Standing request place log) : Standing request place later := by
  unfold Standing at standing ⊢
  split at standing
  · obtain ⟨metadata, seed, createdAt, metadataSeen, seedSeen, exact⟩ := standing
    exact ⟨metadata, seed, createdAt, metadataSeen.kept accepted extension,
      seedSeen.kept accepted extension, exact⟩
  · obtain ⟨result, seen, exact⟩ := standing
    exact ⟨result, seen.kept accepted extension, exact⟩

theorem Progress.kept (accepted : request.Accepted)
    (extension : Extends (fun call => call.sparing request = true) log later)
    (progress : Progress honest request mutations log) :
    Progress honest request mutations later where
  justified := progress.justified.kept extension
  recorded place member created := by
    obtain ⟨readback, fresh, recorded⟩ := progress.recorded place member created
    exact ⟨readback, fresh.kept extension, recorded⟩
  flagged := progress.flagged
  accounted honestly target member effective :=
    progress.accounted honestly target member
      ((written_kept accepted extension member).symm.trans effective)
  sent created := (progress.sent created).kept extension

end Kept

end Exact

end CloudRing.OpenBaoApply
