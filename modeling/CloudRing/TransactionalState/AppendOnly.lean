import CloudRing.TransactionalState.Journal

/-!
# Appending is idempotent under any interleaving

`JournalSound` says where every committed and every held row came from, and what every call may
conclude from its phase.
-/

namespace CloudRing.TransactionalState

open Library (Json Machine)

section Sound

variable {Call : Type} {postgres : Postgres} {sha256 : List UInt8 → String}
  {request : Call → AppendRequest}

structure Appended (sha256 : List UInt8 → String) (request : Call → AppendRequest)
    (call : Call) (scope eventID : String) (entry : Entry) (record : AuditEventRecord) :
    Prop where
  sameScope : (request call).scope = scope
  sameID : (request call).eventID = eventID
  wellFormed : (safeKey (request call).scope && safeKey (request call).eventID) = true
  payload : ∃ canonical, canonicalAuditJSON (request call).value = some canonical ∧
    entry.payloadSHA256 = sha256 canonical
  scanned : scannedAuditEvent scope eventID entry = some record

/-- The journal holds an event for the key of a call, with the digest of its payload, that is
scanned as a record. -/
def Agrees (sha256 : List UInt8 → String) (request : Call → AppendRequest)
    (journal : String → String → Option Entry) (call : Call) (record : AuditEventRecord) :
    Prop :=
  ∃ canonical entry, canonicalAuditJSON (request call).value = some canonical ∧
    journal (request call).scope (request call).eventID = some entry ∧
    scannedAuditEvent (request call).scope (request call).eventID entry = some record ∧
    entry.payloadSHA256 = sha256 canonical

def PhaseSound (sha256 : List UInt8 → String) (request : Call → AppendRequest)
    (journal : String → String → Option Entry) (call : Call) : Phase → Prop
  | .begun canonical =>
    (safeKey (request call).scope && safeKey (request call).eventID) = true ∧
      canonicalAuditJSON (request call).value = some canonical
  | .taken canonical =>
    canonicalAuditJSON (request call).value = some canonical ∧
      ∃ entry, journal (request call).scope (request call).eventID = some entry
  | .matched record => Agrees sha256 request journal call record
  | .returned (.ok event) => ∃ record, record.event = event ∧
      Agrees sha256 request journal call record
  | _ => True

structure JournalSound (sha256 : List UInt8 → String) (request : Call → AppendRequest)
    (state : JournalState Call) : Prop where
  committed : ∀ scope eventID entry, state.journal scope eventID = some entry →
    ∃ call record, Appended sha256 request call scope eventID entry record
  held : ∀ scope eventID call entry, state.held scope eventID = some (call, entry) →
    state.journal scope eventID = none ∧
      ∃ record, Appended sha256 request call scope eventID entry record ∧
        (state.phase call = .inserted record ∨
          state.phase call = .returned (.error .commit))
  phases : ∀ call, PhaseSound sha256 request state.journal call (state.phase call)

theorem insertedEntry_digest {now : Int} {canonical : List UInt8} {entry : Entry}
    (written : insertedEntry postgres sha256 now canonical = some entry) :
    entry.payloadSHA256 = sha256 canonical := by
  obtain ⟨body, _, rfl⟩ := Option.map_eq_some_iff.mp written
  rfl

theorem scannedAuditEvent_digest {scope eventID : String} {entry : Entry}
    {record : AuditEventRecord} (scanned : scannedAuditEvent scope eventID entry = some record) :
    record.payloadSHA256 = entry.payloadSHA256 := by
  obtain ⟨canonical, _, rfl⟩ := Option.map_eq_some_iff.mp scanned
  rfl

theorem PhaseSound.grow {journal larger : String → String → Option Entry} {call : Call}
    {phase : Phase}
    (grows : ∀ scope eventID entry, journal scope eventID = some entry →
      larger scope eventID = some entry)
    (sound : PhaseSound sha256 request journal call phase) :
    PhaseSound sha256 request larger call phase := by
  cases phase with
  | called | inserted => trivial
  | begun canonical => exact sound
  | taken canonical =>
    obtain ⟨accepted, entry, present⟩ := sound
    exact ⟨accepted, entry, grows _ _ _ present⟩
  | matched record =>
    obtain ⟨canonical, entry, accepted, present, rest⟩ := sound
    exact ⟨canonical, entry, accepted, grows _ _ _ present, rest⟩
  | returned result =>
    cases result with
    | error failure => trivial
    | ok event =>
      obtain ⟨record, same, canonical, entry, accepted, present, rest⟩ := sound
      exact ⟨record, same, canonical, entry, accepted, grows _ _ _ present, rest⟩

end Sound

section Rows

variable {Call : Type} {sha256 : List UInt8 → String} {request : Call → AppendRequest}
  {state : JournalState Call} {call : Call}

@[simp] theorem hold_journal (scope eventID : String) (row : Option (Call × Entry)) :
    (state.hold scope eventID row).journal = state.journal := rfl

@[simp] theorem hold_phase (scope eventID : String) (row : Option (Call × Entry)) :
    (state.hold scope eventID row).phase = state.phase := rfl

@[simp] theorem commit_phase (scope eventID : String) (entry : Entry) :
    (state.commit scope eventID entry).phase = state.phase := rfl

theorem JournalSound.idle (sound : JournalSound sha256 request state)
    (before : (∀ record, state.phase call ≠ .inserted record) ∧
      state.phase call ≠ .returned (.error .commit)) :
    ∀ scope eventID entry, state.held scope eventID ≠ some (call, entry) := by
  intro scope eventID entry holding
  obtain ⟨_, record, _, waiting | settling⟩ := sound.held scope eventID call entry holding
  · exact before.1 record waiting
  · exact before.2 settling

theorem JournalSound.drop (sound : JournalSound sha256 request state)
    (scope eventID : String) :
    JournalSound sha256 request (state.hold scope eventID none) where
  committed := sound.committed
  held otherScope otherID other entry holding := by
    simp only [JournalState.hold] at holding
    split at holding
    · contradiction
    · exact sound.held otherScope otherID other entry holding
  phases := sound.phases

theorem JournalSound.commit_grows (sound : JournalSound sha256 request state)
    {scope eventID otherScope otherID : String} {entry stored : Entry}
    (holding : state.held scope eventID = some (call, entry))
    (present : state.journal otherScope otherID = some stored) :
    (state.commit scope eventID entry).journal otherScope otherID = some stored := by
  simp only [JournalState.commit]
  split
  · rename_i here
    rw [here.1, here.2, (sound.held _ _ _ _ holding).1] at present
    contradiction
  · exact present

theorem JournalSound.settle (sound : JournalSound sha256 request state) {entry : Entry}
    (holding : state.held (request call).scope (request call).eventID = some (call, entry)) :
    JournalSound sha256 request ((state.commit (request call).scope (request call).eventID
      entry).hold (request call).scope (request call).eventID none) where
  committed scope eventID stored present := by
    simp only [hold_journal, JournalState.commit] at present
    split at present
    · rename_i here
      obtain ⟨_, record, appended, _⟩ := sound.held _ _ _ _ holding
      rw [Option.some.injEq] at present
      rw [here.1, here.2, ← present]
      exact ⟨call, record, appended⟩
    · exact sound.committed scope eventID stored present
  held scope eventID other row found := by
    simp only [JournalState.hold] at found
    split at found
    · contradiction
    · rename_i elsewhere
      simp only [hold_journal, JournalState.commit, if_neg elsewhere]
      exact sound.held scope eventID other row found
  phases other := PhaseSound.grow (fun _ _ _ => sound.commit_grows holding) (sound.phases other)

theorem JournalSound.ownKey (sound : JournalSound sha256 request state)
    {scope eventID : String} {entry : Entry}
    (holding : state.held scope eventID = some (call, entry)) :
    scope = (request call).scope ∧ eventID = (request call).eventID := by
  obtain ⟨_, record, appended, _⟩ := sound.held scope eventID call entry holding
  exact ⟨appended.sameScope.symm, appended.sameID.symm⟩

end Rows

section Steps

variable {Call : Type} [DecidableEq Call] {postgres : Postgres} {sha256 : List UInt8 → String}
  {request : Call → AppendRequest} {state : JournalState Call} {call : Call}

@[simp] theorem advance_journal (phase : Phase) :
    (state.advance call phase).journal = state.journal := rfl

@[simp] theorem advance_phase (phase : Phase) (other : Call) :
    (state.advance call phase).phase other =
      if other = call then phase else state.phase other := rfl

theorem JournalSound.advance (sound : JournalSound sha256 request state) {phase : Phase}
    (idle : ∀ scope eventID entry, state.held scope eventID ≠ some (call, entry))
    (after : PhaseSound sha256 request state.journal call phase) :
    JournalSound sha256 request (state.advance call phase) where
  committed := sound.committed
  held scope eventID other entry holding := by
    have different : other ≠ call := fun same => idle scope eventID entry (same ▸ holding)
    rw [advance_phase, if_neg different]
    exact sound.held scope eventID other entry holding
  phases other := by
    rw [advance_phase, advance_journal]
    split
    · rename_i same
      rw [same]
      exact after
    · exact sound.phases other

variable {actor : Call} {entry : Entry} {next : JournalState Call}

theorem JournalSound.insert (sound : JournalSound sha256 request state) {record : AuditEventRecord}
    (idle : ∀ scope eventID entry, state.held scope eventID ≠ some (call, entry))
    (free : state.journal (request call).scope (request call).eventID = none)
    (appended : Appended sha256 request call (request call).scope (request call).eventID entry
      record) :
    JournalSound sha256 request
      ((state.hold (request call).scope (request call).eventID (some (call, entry))).advance call
        (.inserted record)) where
  committed := sound.committed
  held scope eventID other row holding := by
    rw [advance_phase]
    change (state.hold (request call).scope (request call).eventID
      (some (call, entry))).held scope eventID = some (other, row) at holding
    simp only [JournalState.hold] at holding
    split at holding
    · rename_i here
      obtain ⟨rfl, rfl⟩ := here
      simp only [Option.some.injEq, Prod.mk.injEq] at holding
      obtain ⟨rfl, rfl⟩ := holding
      exact ⟨free, record, appended, .inl (if_pos rfl)⟩
    · have different : other ≠ call := fun same => idle scope eventID row (same ▸ holding)
      rw [if_neg different]
      exact sound.held scope eventID other row holding
  phases other := by
    rw [advance_phase, advance_journal]
    split
    · trivial
    · exact sound.phases other

theorem JournalSound.unanswered (sound : JournalSound sha256 request state) :
    JournalSound sha256 request (state.advance call (.returned (.error .commit))) where
  committed := sound.committed
  held scope eventID other entry holding := by
    rw [advance_phase]
    by_cases same : other = call
    · rw [if_pos same]
      obtain ⟨free, found, appended, _⟩ := sound.held scope eventID other entry holding
      exact ⟨free, found, appended, .inr rfl⟩
    · rw [if_neg same]
      exact sound.held scope eventID other entry holding
  phases other := by
    rw [advance_phase, advance_journal]
    split
    · trivial
    · exact sound.phases other

theorem JournalSound.answered (sound : JournalSound sha256 request state)
    {record : AuditEventRecord} (here : state.phase call = .inserted record)
    (holding : state.held (request call).scope (request call).eventID = some (call, entry)) :
    JournalSound sha256 request
      (((state.commit (request call).scope (request call).eventID entry).hold
        (request call).scope (request call).eventID none).advance call
          (.returned (.ok record.event))) := by
  have settled := sound.settle holding
  refine settled.advance ?_ ?_
  · intro scope eventID row found
    obtain ⟨rfl, rfl⟩ := settled.ownKey found
    simp [JournalState.hold] at found
  · obtain ⟨_, other, appended, waiting | settling⟩ := sound.held _ _ _ _ holding
    · rw [here, Phase.inserted.injEq] at waiting
      obtain ⟨canonical, accepted, digest⟩ := appended.payload
      refine ⟨record, rfl, canonical, entry, accepted, ?_, ?_, digest⟩
      · simp [JournalState.commit]
      · rw [waiting]
        exact appended.scanned
    · rw [here] at settling
      contradiction

theorem JournalSound.step (sound : JournalSound sha256 request state)
    (taken : AppendStep postgres sha256 request call state next) :
    JournalSound sha256 request next := by
  cases taken with
  | invalidRequest here malformed | invalidEvent here wellFormed malformed
  | beginFails here wellFormed accepted | insertUnscanned now here free unheld written unscanned =>
    exact sound.advance (sound.idle (by simp [here])) trivial
  | beginTx here wellFormed accepted =>
    exact sound.advance (sound.idle (by simp [here])) ⟨wellFormed, accepted⟩
  | insert now here free unheld written scanned =>
    have begun := sound.phases call
    rw [here] at begun
    exact sound.insert (sound.idle (by simp [here])) free
      ⟨rfl, rfl, begun.1, ⟨_, begun.2, insertedEntry_digest written⟩, scanned⟩
  | insertTaken here present =>
    have begun := sound.phases call
    rw [here] at begun
    exact sound.advance (sound.idle (by simp [here])) ⟨begun.2, _, present⟩
  | insertFails here => exact sound.advance (sound.idle (by simp [here])) trivial
  | readMatches here present scanned same =>
    have found := sound.phases call
    rw [here] at found
    refine sound.advance (sound.idle (by simp [here])) ?_
    exact ⟨_, _, found.1, present, scanned, (scannedAuditEvent_digest scanned).symm.trans same⟩
  | readConflicts here present scanned other | readUnscanned here present unscanned
  | readMissing here absent | readFails here =>
    exact sound.advance (sound.idle (by simp [here])) trivial
  | commitInserted here holding => exact sound.answered here holding
  | commitUnanswered here => exact sound.unanswered
  | settleCommit here holding => exact sound.settle holding
  | abort holding => exact sound.drop _ _
  | commitMatched lost here =>
    have agreed := sound.phases call
    rw [here] at agreed
    refine sound.advance (sound.idle (by simp [here])) ?_
    cases lost with
    | true => trivial
    | false => exact ⟨_, rfl, agreed⟩

theorem appendMachine_sound
    (reachable : (appendMachine postgres sha256 request).Reachable state) :
    JournalSound sha256 request state := by
  refine Machine.invariant ?_ (fun _ _ _ sound taken => sound.step taken) reachable
  rintro start ⟨empty, unheld, called⟩
  refine ⟨fun scope eventID entry present => ?_, fun scope eventID other entry holding => ?_,
    fun other => ?_⟩
  · rw [empty] at present
    contradiction
  · rw [unheld] at holding
    contradiction
  · rw [called]
    trivial

theorem AppendStep.returned {result : Except AppendFailure AuditEvent}
    (taken : AppendStep postgres sha256 request actor state next)
    (done : state.phase call = .returned result) : next.phase call = .returned result := by
  by_cases same : call = actor
  · subst same
    cases taken with
    | settleCommit | abort => exact done
    | _ => simp_all
  · cases taken <;> simp [same, done]

theorem AppendStep.journal (taken : AppendStep postgres sha256 request call state next) :
    next.journal = state.journal ∨
      next.phase call = .returned (.error .commit) ∨
        ∃ event, next.phase call = .returned (.ok event) := by
  cases taken with
  | commitInserted _ _ => exact .inr (.inr ⟨_, if_pos rfl⟩)
  | settleCommit here _ => exact .inr (.inl here)
  | _ => exact .inl rfl

theorem AppendStep.grows (sound : JournalSound sha256 request state)
    (taken : AppendStep postgres sha256 request actor state next) {scope eventID : String}
    (present : state.journal scope eventID = some entry) :
    next.journal scope eventID = some entry := by
  cases taken with
  | commitInserted _ holding | settleCommit _ holding => exact sound.commit_grows holding present
  | _ => exact present

/-- What a call can come to once an event with another digest is stored under its key. Only a
call that was already awaiting its commit can go on to fail at it. -/
def Refused (awaiting : Prop) (canonical : List UInt8) : Phase → Prop
  | .called => True
  | .begun payload => payload = canonical
  | .inserted _ => awaiting
  | .taken payload => payload = canonical
  | .matched _ => False
  | .returned (.error failure) =>
    failure = .conflict ∨ failure.fromDatabase = true ∨ awaiting ∧ failure = .commit
  | .returned (.ok _) => False

section Replays

variable (sha256 : List UInt8 → String) (canonical : List UInt8) (record : AuditEventRecord)

/-- What a call can do to its phase while a row that is scanned as the record has its key. -/
inductive Replays : Phase → Phase → Prop where
  | stays (phase : Phase) : Replays phase phase
  | begins : Replays .called (.begun canonical)
  | fails (phase : Phase) {failure : AppendFailure} (database : failure.fromDatabase = true) :
      Replays phase (.returned (.error failure))
  | takes (payload : List UInt8) : Replays (.begun payload) (.taken payload)
  | matched {payload : List UInt8} (same : record.payloadSHA256 = sha256 payload) :
      Replays (.taken payload) (.matched record)
  | conflicts {payload : List UInt8} (other : record.payloadSHA256 ≠ sha256 payload) :
      Replays (.taken payload) (.returned (.error .conflict))
  | unanswered (found : AuditEventRecord) :
      Replays (.inserted found) (.returned (.error .commit))
  | commits (lost : Bool) (found : AuditEventRecord) :
      Replays (.matched found)
        (.returned (if lost then .error .commit else .ok found.event))

end Replays

theorem AppendStep.replays {canonical : List UInt8} (sound : JournalSound sha256 request state)
    (taken : AppendStep postgres sha256 request actor state next)
    (accepted : canonicalAuditJSON (request call).value = some canonical)
    (present : state.journal (request call).scope (request call).eventID = some entry) :
    ∃ record, scannedAuditEvent (request call).scope (request call).eventID entry = some record ∧
      Replays sha256 canonical record (state.phase call) (next.phase call) ∧
      (actor = call → next.journal = state.journal) := by
  obtain ⟨writer, record, appended⟩ := sound.committed _ _ _ present
  refine ⟨record, appended.scanned, ?_⟩
  by_cases same : actor = call
  · subst same
    have unheld : ∀ row, state.held (request actor).scope (request actor).eventID ≠
        some (actor, row) := by
      intro row holding
      rw [(sound.held _ _ _ _ holding).1] at present
      contradiction
    have wellFormed := appended.wellFormed
    rw [appended.sameScope, appended.sameID] at wellFormed
    have advanced : ∀ phase, (state.advance actor phase).phase actor = phase := fun _ => if_pos rfl
    cases taken with
    | invalidRequest here malformed => simp [wellFormed] at malformed
    | invalidEvent here _ malformed => simp [accepted] at malformed
    | beginTx here _ found =>
      rw [accepted, Option.some.injEq] at found
      rw [here, advanced, ← found]
      exact ⟨.begins, fun _ => rfl⟩
    | beginFails | insertFails | readFails =>
      rw [advanced]
      exact ⟨.fails _ rfl, fun _ => rfl⟩
    | insert now here free unheld written scanned
    | insertUnscanned now here free unheld written unscanned => simp [present] at free
    | insertTaken here found =>
      rw [here, advanced]
      exact ⟨.takes _, fun _ => rfl⟩
    | readMatches here found scanned digest =>
      rw [present, Option.some.injEq] at found
      rw [← found, appended.scanned, Option.some.injEq] at scanned
      rw [here, advanced, ← scanned]
      exact ⟨.matched (scanned ▸ digest), fun _ => rfl⟩
    | readConflicts here found scanned differs =>
      rw [present, Option.some.injEq] at found
      rw [← found, appended.scanned, Option.some.injEq] at scanned
      rw [here, advanced]
      exact ⟨.conflicts (scanned ▸ differs), fun _ => rfl⟩
    | readUnscanned here found unscanned =>
      rw [present, Option.some.injEq] at found
      rw [← found, appended.scanned] at unscanned
      contradiction
    | readMissing here absent => simp [present] at absent
    | commitInserted here holding | settleCommit here holding | abort holding =>
      exact absurd holding (unheld _)
    | commitUnanswered here =>
      rw [here, advanced]
      exact ⟨.unanswered _, fun _ => rfl⟩
    | commitMatched lost here =>
      rw [here, advanced]
      exact ⟨.commits lost _, fun _ => rfl⟩
  · have unmoved : next.phase call = state.phase call := by
      have different : call ≠ actor := fun equal => same equal.symm
      cases taken <;> simp [different]
    rw [unmoved]
    exact ⟨.stays _, fun equal => absurd equal same⟩

theorem Replays.refused {awaiting : Prop} {canonical : List UInt8} {record : AuditEventRecord}
    {before after : Phase} (step : Replays sha256 canonical record before after)
    (other : record.payloadSHA256 ≠ sha256 canonical) (refused : Refused awaiting canonical before) :
    Refused awaiting canonical after := by
  cases step with
  | stays | takes => exact refused
  | begins => rfl
  | fails _ database => exact Or.inr (Or.inl database)
  | matched same => exact absurd (refused ▸ same) other
  | conflicts => exact Or.inl rfl
  | unanswered => exact Or.inr (Or.inr ⟨refused, rfl⟩)
  | commits => exact refused.elim

end Steps

section Runs

variable {Call : Type} [DecidableEq Call] {postgres : Postgres} {sha256 : List UInt8 → String}
  {request : Call → AppendRequest} {state last : JournalState Call} {call : Call}

theorem refused_run {canonical : List UInt8} {entry : Entry}
    (reachable : (appendMachine postgres sha256 request).Reachable state)
    (run : (appendMachine postgres sha256 request).Reaches state last)
    (accepted : canonicalAuditJSON (request call).value = some canonical)
    (present : state.journal (request call).scope (request call).eventID = some entry)
    (other : entry.payloadSHA256 ≠ sha256 canonical)
    (running : ∀ result, state.phase call ≠ .returned result) :
    last.journal (request call).scope (request call).eventID = some entry ∧
      Refused (∃ record, state.phase call = .inserted record) canonical (last.phase call) := by
  have sound := appendMachine_sound reachable
  refine Machine.stable (fun later =>
    later.journal (request call).scope (request call).eventID = some entry ∧
      Refused (∃ record, state.phase call = .inserted record) canonical (later.phase call))
    ?_ reachable run ⟨present, ?_⟩
  · rintro actor middle next reached ⟨stored, refused⟩ taken
    have soundMiddle := appendMachine_sound reached
    obtain ⟨record, scanned, step, -⟩ := AppendStep.replays soundMiddle taken accepted stored
    rw [← scannedAuditEvent_digest scanned] at other
    exact ⟨AppendStep.grows soundMiddle taken stored, step.refused other refused⟩
  · have phase := sound.phases call
    cases here : state.phase call with
    | called => trivial
    | begun payload =>
      rw [here] at phase
      exact Option.some.inj (phase.2.symm.trans accepted)
    | inserted record => exact ⟨record, rfl⟩
    | taken payload =>
      rw [here] at phase
      exact Option.some.inj (phase.1.symm.trans accepted)
    | matched record =>
      rw [here] at phase
      obtain ⟨payload, found, same, stored, _, digest⟩ := phase
      rw [accepted, Option.some.injEq] at same
      rw [present, Option.some.injEq] at stored
      rw [← stored, ← same] at digest
      exact absurd digest other
    | returned result => exact absurd here (running result)

theorem returned_run {result : Except AppendFailure AuditEvent}
    (run : (appendMachine postgres sha256 request).Reaches state last)
    (done : state.phase call = .returned result) : last.phase call = .returned result := by
  induction run with
  | refl => exact done
  | tail _ taken ih =>
    obtain ⟨actor, taken⟩ := taken
    exact AppendStep.returned taken ih

/-- A call that nothing interferes with stores its event. -/
theorem appended_alone {canonical : List UInt8} {record : AuditEventRecord} (now : Int)
    (initial : (appendMachine postgres sha256 request).initial state)
    (wellFormed : (safeKey (request call).scope && safeKey (request call).eventID) = true)
    (accepted : canonicalAuditJSON (request call).value = some canonical)
    (written : (insertedEntry postgres sha256 now canonical).bind
      (scannedAuditEvent (request call).scope (request call).eventID) = some record) :
    ∃ last entry, (appendMachine postgres sha256 request).Reachable last ∧
      last.journal (request call).scope (request call).eventID = some entry ∧
      insertedEntry postgres sha256 now canonical = some entry ∧
      scannedAuditEvent (request call).scope (request call).eventID entry = some record ∧
      last.phase call = .returned (.ok record.event) ∧
      ∀ other, other ≠ call → last.phase other = .called := by
  obtain ⟨entry, inserted, scanned⟩ := Option.bind_eq_some_iff.mp written
  let begun := state.advance call (.begun canonical)
  let waiting := (begun.hold (request call).scope (request call).eventID
    (some (call, entry))).advance call (.inserted record)
  let done := ((waiting.commit (request call).scope (request call).eventID entry).hold
    (request call).scope (request call).eventID none).advance call (.returned (.ok record.event))
  have begins : AppendStep postgres sha256 request call state begun :=
    .beginTx (initial.2.2 call) wellFormed accepted
  have inserts : AppendStep postgres sha256 request call begun waiting :=
    .insert now (if_pos rfl) (initial.1 _ _) (initial.2.1 _ _) inserted scanned
  have commits : AppendStep postgres sha256 request call waiting done :=
    .commitInserted (if_pos rfl) (if_pos ⟨rfl, rfl⟩)
  have reachable : (appendMachine postgres sha256 request).Reachable done :=
    ⟨state, initial,
      ((Relation.ReflTransGen.refl.tail ⟨call, begins⟩).tail ⟨call, inserts⟩).tail
        ⟨call, commits⟩⟩
  refine ⟨done, entry, reachable, if_pos ⟨rfl, rfl⟩, inserted, scanned, if_pos rfl, ?_⟩
  intro other different
  simp [done, waiting, begun, different, initial.2.2 other]

end Runs

def nullRequest : Unit → AppendRequest := fun _ =>
  ⟨"scope", "event", Library.Utf8.ofString "null"⟩

def textDigest (payload : List UInt8) : String :=
  String.ofList (payload.map fun byte => Char.ofNat byte.toNat)

def emptyJournal : JournalState Unit :=
  ⟨fun _ _ => none, fun _ _ => none, fun _ => .called⟩

end CloudRing.TransactionalState
